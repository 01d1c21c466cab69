import DocTidy.Proofs.Link.Layout
import DocTidy.Proofs.Link.Names
import DocTidy.Proofs.Run

/-!
# Reading printed links

Links are printed with the first line of a description behind the name or on a line of its own, and with
the further lines below.  Names, further lines and descriptions behind a name are read back.  A first line
that stands alone is read back if it is stripped and does not look like a link with a description itself
(`Continues`), and only then: this is all that can go wrong (`ofLines_printLinks_iff`).
-/

namespace DocTidy.Link

open Text Printer

variable {l : Link} {ls links links' : List Link} {line d : Text} {content : List Text} {inline anyWidth : Bool}

/-! ## One line -/

/-- The line is taken for more of a description when it is indented, and left as it stands. -/
def Continues (d : Text) : Prop := strip d = d ∧ description d = none

instance (d : Text) : Decidable (Continues d) := inferInstanceAs (Decidable (_ ∧ _))

theorem result_addLine (links : List Link) (line : Text) : (addLine links line).result =
    if isBlank line then .ok links else (addFound links line (line? line)).result := by
  unfold addLine
  split
  · rfl
  · dsimp only
    split <;> rfl

theorem result_addFound (links : List Link) (line : Text) : (addFound links line (line? line)).result =
    if description line = none ∧ startsWith line " " = true then .ok (describeLast links (strip line))
    else
      match line? line with
      | some found => .ok (links ++ [⟨found.names, found.description.toList⟩])
      | none => .error (.badLink line) := by
  unfold addFound
  simp only [Bool.and_eq_true, Option.isNone_iff_eq_none]
  show (if description line = none ∧ startsWith line " " = true then _ else _ : Run (List Link)).result = _
  split
  · rfl
  · cases line? line <;> rfl

/-- An indented line without a description of its own continues the one above. -/
theorem addLine_continued (links : List Link) (hline : isBlank line = false) (hd : description line = none)
    (hstart : startsWith line " " = true) :
    (addLine links line).result = .ok (describeLast links (strip line)) := by
  rw [result_addLine, hline, if_neg Bool.false_ne_true, result_addFound, if_pos ⟨hd, hstart⟩]

/-- Any other line that lists functions begins a link. -/
theorem addLine_listed (links : List Link) {found : Line} (hline : isBlank line = false)
    (hfound : line? line = some found) (h : found.description = none → startsWith line " " = false) :
    (addLine links line).result = .ok (links ++ [⟨found.names, found.description.toList⟩]) := by
  rw [result_addLine, hline, if_neg Bool.false_ne_true, result_addFound, hfound, if_neg]
  rintro ⟨hd, hstart⟩
  rw [description, hfound] at hd
  rw [h hd] at hstart
  cases hstart

theorem addLine_cases (hline : isBlank line = false) (h : (addLine links line).result = .ok links') :
    description line = none ∧ links' = describeLast links (strip line) ∨
    ∃ found, line? line = some found ∧ links' = links ++ [⟨found.names, found.description.toList⟩] := by
  rw [result_addLine, hline, if_neg Bool.false_ne_true, result_addFound] at h
  split at h
  · rename_i hnone
    exact .inl ⟨hnone.1, (Except.ok.inj h).symm⟩
  · split at h
    · rename_i found hfound
      exact .inr ⟨found, hfound, (Except.ok.inj h).symm⟩
    · cases h

theorem describeLast_concat (links : List Link) (l : Link) (line : Text) :
    describeLast (links ++ [l]) line = links ++ [{ l with desc := l.desc ++ [line] }] := by
  unfold describeLast
  rw [List.getLast?_concat]
  simp

/-! ## Links as they are read -/

/-- Links as reading leaves them. -/
structure IsRead (l : Link) : Prop where
  names_ne_nil : l.names ≠ []
  legible : ∀ n ∈ l.names, IsLegible n
  stripped : ∀ d ∈ l.desc, stripLeft d = d ∧ d ≠ []
  continues : ∀ d ∈ l.desc.tail, Continues d
  newline : ∀ d ∈ l.desc, '\n' ∉ d

theorem IsRead.describe (h : IsRead l) (hline : isBlank line = false) (hd : description line = none)
    (hnewline : '\n' ∉ line) : IsRead { l with desc := l.desc ++ [strip line] } := by
  have hcontinues : Continues (strip line) := ⟨strip_strip line, description_strip hd⟩
  refine ⟨h.names_ne_nil, h.legible, ?_, ?_, ?_⟩
  · intro d hd
    rcases List.mem_append.mp hd with hd | hd
    · exact h.stripped d hd
    · rw [List.mem_singleton.mp hd]
      exact ⟨stripLeft_of_strip (strip_strip line), strip_ne_nil hline⟩
  · -- Only what is added behind a first line has to continue it.
    intro d hd
    have htail := h.continues
    cases hdesc : l.desc with
    | nil =>
      rw [hdesc] at hd
      cases hd
    | cons first more =>
      rw [hdesc] at hd htail
      rcases List.mem_append.mp hd with hd | hd
      · exact htail d hd
      · rw [List.mem_singleton.mp hd]
        exact hcontinues
  · intro d hd
    rcases List.mem_append.mp hd with hd | hd
    · exact h.newline d hd
    · rw [List.mem_singleton.mp hd]
      exact not_mem_strip hnewline

theorem isRead_of_line? {found : Line} (hfound : line? line = some found) (hnewline : '\n' ∉ line) :
    IsRead ⟨found.names, found.description.toList⟩ := by
  obtain ⟨hne, hnames, hdesc⟩ := line?_parts hfound
  refine ⟨hne, hnames, fun d hd => ?_, fun d hd => ?_, fun d hd => ?_⟩
  · obtain ⟨hstrip, hinked, -⟩ := hdesc d (Option.mem_toList.mp hd)
    exact ⟨hstrip, hinked⟩
  · cases hd' : found.description <;> rw [hd'] at hd <;> cases hd
  · obtain ⟨-, -, hsub⟩ := hdesc d (Option.mem_toList.mp hd)
    exact fun hmem => hnewline (hsub.subset hmem)

/-- What holds of every link that a line begins, and still after its description is continued, holds of
all links that are read. -/
theorem forall_of_foldlM {P : Link → Prop} {lines : List Text}
    (hdescribe : ∀ line ∈ lines, ∀ l, isBlank line = false → description line = none → P l →
      P { l with desc := l.desc ++ [strip line] })
    (hlisted : ∀ line ∈ lines, ∀ found, line? line = some found →
      P ⟨found.names, found.description.toList⟩)
    (hlinks : ∀ l ∈ links, P l) (h : (lines.foldlM addLine links).result = .ok links') :
    ∀ l ∈ links', P l := by
  induction lines generalizing links with
  | nil =>
    rw [List.foldlM_nil, Run.result_pure] at h
    rwa [← Except.ok.inj h]
  | cons line lines ih =>
    rw [List.forall_mem_cons] at hdescribe hlisted
    rw [List.foldlM_cons, Run.result_bind_eq_ok] at h
    obtain ⟨next, hnext, h⟩ := h
    refine ih hdescribe.2 hlisted.2 ?_ h
    cases hline : isBlank line with
    | true =>
      rw [result_addLine, hline, if_pos rfl] at hnext
      rwa [← Except.ok.inj hnext]
    | false =>
      rcases addLine_cases hline hnext with ⟨hd, rfl⟩ | ⟨found, hfound, rfl⟩
      · -- The line goes to the last link, or nowhere if there is none.
        rcases List.eq_nil_or_concat' links with rfl | ⟨init, last, rfl⟩
        · exact fun l hl => absurd hl List.not_mem_nil
        · rw [describeLast_concat]
          rw [List.forall_mem_append] at hlinks ⊢
          refine ⟨hlinks.1, ?_⟩
          rw [List.forall_mem_singleton] at hlinks ⊢
          exact hdescribe.1 last hline hd hlinks.2
      · rw [List.forall_mem_append, List.forall_mem_singleton]
        exact ⟨hlinks, hlisted.1 found hfound⟩

theorem isRead_of_mem_ofLines (hcontent : ∀ line ∈ content, '\n' ∉ line)
    (h : (ofLines content).result = .ok ls) : ∀ l ∈ ls, IsRead l := by
  have hlines := not_mem_of_mem_dedentBody hcontent
  refine forall_of_foldlM (fun line hline l hinked hd hl => ?_) (fun line hline found hfound => ?_)
    (fun _ hl => absurd hl List.not_mem_nil) h
  · exact hl.describe hinked hd (hlines line hline)
  · exact isRead_of_line? hfound (hlines line hline)

theorem onlySpaces_of_mem_ofLines (hcontent : ∀ line ∈ content, OnlySpaces line)
    (h : (ofLines content).result = .ok ls) : ∀ l ∈ ls, ∀ d ∈ l.desc, OnlySpaces d := by
  have hlines := onlySpaces_dedentBody hcontent
  refine forall_of_foldlM (fun line hline l _ _ hl => ?_) (fun line hline found hfound => ?_)
    (fun _ hl => absurd hl List.not_mem_nil) h
  · rw [List.forall_mem_append, List.forall_mem_singleton]
    exact ⟨hl, (hlines line hline).strip⟩
  · intro d hd
    obtain ⟨-, -, hend⟩ := (line?_parts hfound).2.2 d (Option.mem_toList.mp hd)
    exact (hlines line hline).mono hend.subset

/-! ## Printed lines -/

/-- Links that were read have no empty first line of a description to leave out. -/
theorem IsRead.lead?_eq (h : IsRead l) : l.lead? = l.desc.head? := by
  unfold lead?
  cases hd : l.desc.head? with
  | none => rfl
  | some d =>
    obtain ⟨-, hne⟩ := h.stripped d (List.mem_of_mem_head? hd)
    exact Option.filter_some_pos (by simpa using hne)

theorem IsRead.laidOut_undescribed (h : IsRead l) (hdesc : l.desc = []) (inline : Bool) :
    laidOut inline l = [nameLine l] := by
  unfold laidOut
  rw [h.lead?_eq, hdesc]
  rfl

theorem IsRead.laidOut_alone {more : List Text} (h : IsRead l) (hdesc : l.desc = d :: more)
    (halone : StandsAlone inline l) :
    laidOut inline l = (nameLine l ++ " :") :: (d :: more).map (descMargin ++ ·) := by
  unfold laidOut
  rw [h.lead?_eq, hdesc]
  exact if_pos halone

theorem IsRead.laidOut_inline {more : List Text} (h : IsRead l) (hdesc : l.desc = d :: more)
    (halone : ¬ StandsAlone inline l) :
    laidOut inline l = (nameLine l ++ (" : " ++ d)) :: more.map (descMargin ++ ·) := by
  unfold laidOut
  rw [h.lead?_eq, hdesc, ← List.append_assoc]
  exact if_neg halone

theorem IsRead.nameLine_eq (h : IsRead l) : ∃ n ns, l.names = n :: ns ∧ IsLegible n ∧
    (∀ m ∈ ns, IsLegible m) ∧ nameLine l = printLinkName n ++ listed ns := by
  have hlegible := h.legible
  cases hnames : l.names with
  | nil => exact absurd hnames h.names_ne_nil
  | cons n ns =>
    rw [hnames, List.forall_mem_cons] at hlegible
    refine ⟨n, ns, rfl, hlegible.1, hlegible.2, ?_⟩
    rw [nameLine, hnames, intercalate_names]

theorem IsRead.head_nameLine (h : IsRead l) (rest : Text) : ∃ c t,
    nameLine l ++ rest = c :: t ∧ isSpace c = false := by
  obtain ⟨n, ns, -, hn, -, hline⟩ := h.nameLine_eq
  obtain ⟨c, r, hprinted, hc⟩ := hn.head
  refine ⟨c, r ++ listed ns ++ rest, ?_, hc⟩
  rw [hline, hprinted]
  rfl

/-- A printed line of names begins a link with these names and the description behind them. -/
theorem IsRead.addLine_nameLine (h : IsRead l) (links : List Link) {rest : Text} (hrest : IsApart rest)
    {d : Option Text} (hd : description? rest = some d) :
    (addLine links (nameLine l ++ rest)).result = .ok (links ++ [⟨l.names, d.toList⟩]) := by
  obtain ⟨n, ns, hnames, hn, hns, hline⟩ := h.nameLine_eq
  obtain ⟨found, hfound, hfoundNames, hfoundDesc⟩ := exists_line?_printed hn hns hrest hd
  obtain ⟨c, t, hstart, hc⟩ := h.head_nameLine rest
  rw [← hline] at hfound
  rw [addLine_listed links _ hfound, hfoundNames, hfoundDesc, hnames]
  · -- No space stands in front of the names, so the line does not continue a description.
    intro _
    rw [hstart, ← Bool.not_eq_true]
    intro hspace
    obtain ⟨rfl, -⟩ := List.cons_prefix_cons.mp (List.isPrefixOf_iff_prefix.mp hspace)
    cases hc
  · rw [hstart, isBlank_cons, hc, Bool.false_and]

theorem isBlank_descMargin_append (d : Text) : isBlank (descMargin ++ d) = isBlank d := by
  rw [isBlank_append, isBlank_descMargin, Bool.true_and]

theorem addLine_below (links : List Link) (hblank : isBlank d = false) (hd : description d = none) :
    (addLine links (descMargin ++ d)).result = .ok (describeLast links (strip d)) := by
  rw [addLine_continued, strip_blank_append isBlank_descMargin]
  · rw [isBlank_descMargin_append, hblank]
  · rw [description_blank_append isBlank_descMargin, hd]
  · rfl

/-- Lines that continue a description are added to it. -/
theorem foldlM_below (links : List Link) (names : List LinkName) (desc : List Text) {more : List Text}
    (hmore : ∀ d ∈ more, isBlank d = false ∧ Continues d) :
    ((more.map (descMargin ++ ·)).foldlM addLine (links ++ [⟨names, desc⟩])).result =
      .ok (links ++ [⟨names, desc ++ more⟩]) := by
  induction more generalizing desc with
  | nil => rw [List.append_nil]; rfl
  | cons d more ih =>
    rw [List.forall_mem_cons] at hmore
    obtain ⟨⟨hblank, hstrip, hd⟩, hmore⟩ := hmore
    have hstep := addLine_below (links ++ [⟨names, desc⟩]) hblank hd
    rw [describeLast_concat, hstrip] at hstep
    rw [List.map_cons, Run.result_foldlM_cons hstep, ih (desc ++ [d]) hmore, List.append_assoc,
      List.singleton_append]

theorem IsRead.isBlank_desc (h : IsRead l) (hd : d ∈ l.desc) : isBlank d = false := by
  obtain ⟨hstrip, hne⟩ := h.stripped d hd
  rw [← Bool.not_eq_true]
  intro hblank
  rw [stripLeft_eq_nil_iff.mpr hblank] at hstrip
  exact hne hstrip.symm

theorem IsRead.below {d : Text} {more : List Text} (h : IsRead l) (hdesc : l.desc = d :: more) :
    ∀ d ∈ more, isBlank d = false ∧ Continues d := by
  intro m hm
  refine ⟨h.isBlank_desc (hdesc ▸ List.mem_cons_of_mem d hm), h.continues m ?_⟩
  rw [hdesc]
  exact hm

/-! ## Reading a link again -/

theorem isApart_colon : IsApart " :" := .inr ⟨[':'], rfl⟩

theorem isApart_inline (d : Text) : IsApart (" : " ++ d) := .inr ⟨':' :: ' ' :: d, rfl⟩

theorem description?_inline (hstrip : stripLeft d = d) (hne : d ≠ []) :
    description? (" : " ++ d) = some (some d) := by
  rw [description?_eq_some_iff]
  refine ⟨' ' :: d, rfl, ?_, hne, Nat.lt_succ_self _⟩
  exact (List.dropWhile_cons_of_pos rfl).trans hstrip

theorem IsRead.addLine_colon (h : IsRead l) (links : List Link) :
    (addLine links (nameLine l ++ " :")).result = .ok (links ++ [⟨l.names, []⟩]) :=
  h.addLine_nameLine links isApart_colon (d := none) rfl

section Again

variable (links : List Link) {more : List Text}

theorem IsRead.foldlM_undescribed (h : IsRead l) (hdesc : l.desc = []) :
    ((laidOut inline l).foldlM addLine links).result = .ok (links ++ [l]) := by
  have hstep := h.addLine_nameLine links (.inl rfl) (d := none) rfl
  rw [List.append_nil] at hstep
  rw [h.laidOut_undescribed hdesc]
  obtain ⟨names, desc⟩ := l
  obtain rfl : desc = [] := hdesc
  exact Run.result_foldlM_cons hstep []

theorem IsRead.foldlM_inline (h : IsRead l) (hdesc : l.desc = d :: more) (halone : ¬ StandsAlone inline l) :
    ((laidOut inline l).foldlM addLine links).result = .ok (links ++ [l]) := by
  obtain ⟨hstrip, hne⟩ := h.stripped d (hdesc ▸ List.mem_cons_self)
  have hstep := h.addLine_nameLine links (isApart_inline d) (description?_inline hstrip hne)
  have hsame : (⟨l.names, [d] ++ more⟩ : Link) = l := by
    rw [List.singleton_append, ← hdesc]
  rw [h.laidOut_inline hdesc halone, Run.result_foldlM_cons hstep, ← hsame]
  exact foldlM_below links l.names [d] (h.below hdesc)

/-- Below the names, a line without a description of its own is stripped. -/
theorem IsRead.foldlM_alone (h : IsRead l) (hdesc : l.desc = d :: more) (halone : StandsAlone inline l)
    (hd : description d = none) :
    ((laidOut inline l).foldlM addLine links).result =
      .ok (links ++ [⟨l.names, strip d :: more⟩]) := by
  have hstep := h.addLine_colon links
  have hblank := h.isBlank_desc (hdesc ▸ List.mem_cons_self)
  have hbelow := addLine_below (links ++ [⟨l.names, []⟩]) hblank hd
  rw [describeLast_concat] at hbelow
  rw [h.laidOut_alone hdesc halone, List.map_cons, Run.result_foldlM_cons hstep,
    Run.result_foldlM_cons hbelow]
  exact foldlM_below links l.names [strip d] (h.below hdesc)

/-- Below the names, a line with a description of its own begins another link. -/
theorem IsRead.foldlM_divided (h : IsRead l) (hdesc : l.desc = d :: more) (halone : StandsAlone inline l)
    (hd : description d ≠ none) : ∃ next : Link, ∀ links,
    ((laidOut inline l).foldlM addLine links).result = .ok (links ++ [⟨l.names, []⟩, next]) := by
  rw [← description_blank_append isBlank_descMargin] at hd
  obtain ⟨d', hd'⟩ := Option.ne_none_iff_exists'.mp hd
  obtain ⟨found, hfound, hdescribed⟩ := Option.bind_eq_some_iff.mp hd'
  refine ⟨⟨found.names, [d'] ++ more⟩, fun links => ?_⟩
  have hstep := h.addLine_colon links
  have hblank := h.isBlank_desc (hdesc ▸ List.mem_cons_self)
  rw [← isBlank_descMargin_append] at hblank
  have hbelow := addLine_listed (links ++ [⟨l.names, []⟩]) hblank hfound fun hnone => by
    rw [hnone] at hdescribed
    cases hdescribed
  rw [hdescribed] at hbelow
  rw [h.laidOut_alone hdesc halone, List.map_cons, Run.result_foldlM_cons hstep,
    Run.result_foldlM_cons hbelow]
  refine (foldlM_below (links ++ [⟨l.names, []⟩]) found.names [d'] (h.below hdesc)).trans ?_
  rw [List.append_assoc]
  rfl

end Again

/-- Where a first line of description stands alone, it is read back. -/
def IsKept (inline : Bool) (l : Link) : Prop :=
  StandsAlone inline l → ∀ d ∈ l.desc.head?, Continues d

instance (inline : Bool) (l : Link) : Decidable (IsKept inline l) :=
  inferInstanceAs (Decidable (StandsAlone inline l → ∀ d ∈ l.desc.head?, Continues d))

/-- **The lines of a printed link are read as one or more links, and as the link itself exactly if its
description is kept.** -/
theorem IsRead.exists_foldlM (h : IsRead l) (inline : Bool) : ∃ again : List Link, again ≠ [] ∧
    (again = [l] ↔ IsKept inline l) ∧
    ∀ links, ((laidOut inline l).foldlM addLine links).result = .ok (links ++ again) := by
  cases hdesc : l.desc with
  | nil =>
    refine ⟨[l], List.cons_ne_nil _ _, ?_, fun links => h.foldlM_undescribed links hdesc⟩
    refine iff_of_true rfl fun _ d hd => ?_
    rw [hdesc] at hd
    cases hd
  | cons d more =>
    by_cases halone : StandsAlone inline l
    · -- The first line of the description is stripped, or begins another link.
      by_cases hd : description d = none
      · refine ⟨[⟨l.names, strip d :: more⟩], List.cons_ne_nil _ _, ?_,
          fun links => h.foldlM_alone links hdesc halone hd⟩
        obtain ⟨names, desc⟩ := l
        obtain rfl : desc = d :: more := hdesc
        simp [IsKept, halone, Continues, hd]
      · obtain ⟨next, hnext⟩ := h.foldlM_divided hdesc halone hd
        refine ⟨_, List.cons_ne_nil _ _, ?_, hnext⟩
        refine iff_of_false (fun hone => ?_) fun hkept => ?_
        · cases (List.cons.inj hone).2
        · exact hd (hkept halone d (by rw [hdesc]; rfl)).2
    · refine ⟨[l], List.cons_ne_nil _ _, ?_, fun links => h.foldlM_inline links hdesc halone⟩
      exact iff_of_true rfl fun h => absurd h halone

/-- **Printed links are read as at least as many links**, and as themselves exactly if all descriptions
are kept. -/
theorem exists_foldlM_laidOut (hls : ∀ l ∈ ls, IsRead l) (inline : Bool) : ∃ again : List Link,
    ls.length ≤ again.length ∧ (again = ls ↔ ∀ l ∈ ls, IsKept inline l) ∧
    ∀ links, ((ls.flatMap (laidOut inline)).foldlM addLine links).result = .ok (links ++ again) := by
  induction ls with
  | nil =>
    refine ⟨[], Nat.le_refl 0, iff_of_true rfl fun l hl => absurd hl List.not_mem_nil, fun links => ?_⟩
    rw [List.append_nil]
    rfl
  | cons l ls ih =>
    rw [List.forall_mem_cons] at hls
    obtain ⟨first, hne, hfirst, hfold⟩ := hls.1.exists_foldlM inline
    obtain ⟨more, hlength, hmore, hfolds⟩ := ih hls.2
    have hpos := List.length_pos_of_ne_nil hne
    refine ⟨first ++ more, ?_, ?_, fun links => ?_⟩
    · rw [List.length_append, List.length_cons]
      omega
    · rw [List.forall_mem_cons, ← hfirst, ← hmore]
      constructor
      · -- As many links as there were can only be one for each.
        intro heq
        have hsum := congrArg List.length heq
        rw [List.length_append, List.length_cons] at hsum
        exact List.append_inj heq (by rw [List.length_singleton]; omega)
      · rintro ⟨rfl, rfl⟩
        rfl
    · rw [List.flatMap_cons, Run.result_foldlM_append (hfold links), hfolds, List.append_assoc]

/-! ## Printing -/

theorem IsRead.nameLine_ne_nil (h : IsRead l) : nameLine l ≠ [] := by
  obtain ⟨c, t, hstart, -⟩ := h.head_nameLine []
  rw [← List.append_nil (nameLine l), hstart]
  exact List.cons_ne_nil c t

theorem IsRead.isNamed (h : IsRead l) : IsNamed l := by
  refine ⟨isUnbroken_nameLine fun n hn c hc => ?_, h.nameLine_ne_nil⟩
  exact isLineBreak_eq_false ((h.legible n hn).isSpace_of_mem c hc)

/-! ## Reading links again -/

/-- The character is a space or stands in the description of the link. -/
def IsDescribed (l : Link) (c : Char) : Prop := c = ' ' ∨ ∃ d ∈ l.desc, c ∈ d

/-- The first line of a printed link begins with the names, and the others are lines of description. -/
theorem IsRead.exists_laidOut (h : IsRead l) (inline : Bool) : ∃ rest below,
    laidOut inline l = (nameLine l ++ rest) :: below.map (descMargin ++ ·) ∧
      (∀ c ∈ rest, isSpace c = true → IsDescribed l c) ∧ below ⊆ l.desc := by
  have hcolon : OnlySpaces " : " := by decide +kernel
  cases hdesc : l.desc with
  | nil =>
    refine ⟨[], [], ?_, by simp, List.Subset.refl _⟩
    rw [h.laidOut_undescribed hdesc, List.append_nil]
    rfl
  | cons d more =>
    by_cases halone : StandsAlone inline l
    · refine ⟨" :", d :: more, h.laidOut_alone hdesc halone, fun c hc hspace => ?_, List.Subset.refl _⟩
      exact .inl (hcolon c (List.mem_append_left [' '] hc) hspace)
    · refine ⟨" : " ++ d, more, h.laidOut_inline hdesc halone, fun c hc hspace => ?_,
        List.subset_cons_self d more⟩
      rcases List.mem_append.mp hc with hc | hc
      · exact .inl (hcolon c hc hspace)
      · exact .inr ⟨d, hdesc ▸ List.mem_cons_self, hc⟩

theorem IsRead.isSpace_of_mem_nameLine (h : IsRead l) {c : Char} (hc : c ∈ nameLine l)
    (hspace : isSpace c = true) : c = ' ' := by
  have hcomma : OnlySpaces ", " := by decide +kernel
  by_contra hne
  refine not_mem_intercalate (fun hmem => hne (hcomma c hmem hspace)) (fun t ht hmem => ?_) hc
  obtain ⟨n, hn, rfl⟩ := List.mem_map.mp ht
  rw [(h.legible n hn).isSpace_of_mem c hmem] at hspace
  cases hspace

/-- White space in the lines of a printed link is a space or comes from the description. -/
theorem IsRead.of_mem_laidOut (h : IsRead l) (hline : line ∈ laidOut inline l) :
    isBlank line = false ∧ ∀ c ∈ line, isSpace c = true → IsDescribed l c := by
  have hmargin : OnlySpaces descMargin := by decide +kernel
  obtain ⟨rest, below, hlines, hrest, hbelow⟩ := h.exists_laidOut inline
  rw [hlines] at hline
  rcases List.mem_cons.mp hline with rfl | hline
  · obtain ⟨c, t, hstart, hc⟩ := h.head_nameLine rest
    refine ⟨by rw [hstart, isBlank_cons, hc, Bool.false_and], fun c hmem hspace => ?_⟩
    rcases List.mem_append.mp hmem with hmem | hmem
    · exact .inl (h.isSpace_of_mem_nameLine hmem hspace)
    · exact hrest c hmem hspace
  · obtain ⟨d, hd, rfl⟩ := List.mem_map.mp hline
    refine ⟨by rw [isBlank_descMargin_append, h.isBlank_desc (hbelow hd)], fun c hmem hspace => ?_⟩
    rcases List.mem_append.mp hmem with hmem | hmem
    · exact .inl (hmargin c hmem hspace)
    · exact .inr ⟨d, hbelow hd, hmem⟩

theorem IsRead.not_mem_of_mem_laidOut (h : IsRead l) (hline : line ∈ laidOut inline l) : '\n' ∉ line := by
  intro hmem
  rcases (h.of_mem_laidOut hline).2 '\n' hmem rfl with hspace | ⟨d, hd, hmem⟩
  · cases hspace
  · exact h.newline d hd hmem

theorem IsRead.onlySpaces_of_mem_laidOut (h : IsRead l) (hdesc : ∀ d ∈ l.desc, OnlySpaces d)
    (hline : line ∈ laidOut inline l) : OnlySpaces line := by
  intro c hc hspace
  rcases (h.of_mem_laidOut hline).2 c hc hspace with hc | ⟨d, hd, hmem⟩
  · exact hc
  · exact hdesc d hd c hmem hspace

/-- The lines below the title, with the empty line that the last newline leaves. -/
def bodyLines (settings : Settings) (inline : Bool) (ls : List Link) : List Text :=
  titleGap settings ++ ls.flatMap (laidOut inline) ++ [[]]

theorem eq_nil_of_mem_titleGap {settings : Settings} (h : line ∈ titleGap settings) : line = [] := by
  unfold titleGap at h
  split at h
  · exact List.mem_singleton.mp h
  · cases h

theorem addLine_nil (links : List Link) : (addLine links []).result = .ok links := by
  rw [result_addLine]
  rfl

/-- Printed links have no margin, whatever empty lines stand around them. -/
theorem dedentLines_laidOut (inline : Bool) (hls : ∀ l ∈ ls, IsRead l) (front back : List Text)
    (hfront : ∀ line ∈ front, line = []) (hback : ∀ line ∈ back, line = []) :
    dedentLines (front ++ ls.flatMap (laidOut inline) ++ back) =
      front ++ ls.flatMap (laidOut inline) ++ back := by
  apply dedentLines_eq_self
  · refine IsCleared.append (IsCleared.append ?_ ?_) ?_
    · exact fun line hline _ => hfront line hline
    · intro line hline hblank
      obtain ⟨l, hl, hline⟩ := List.mem_flatMap.mp hline
      rw [((hls l hl).of_mem_laidOut hline).1] at hblank
      cases hblank
    · exact fun line hline _ => hback line hline
  · cases ls with
    | nil =>
      -- Empty lines have no margins.
      rw [sharedMargin_eq, margins_eq_nil]
      · rfl
      · intro line hline
        rw [List.flatMap_nil, List.append_nil] at hline
        exact (List.mem_append.mp hline).elim (hfront line) (hback line)
    | cons l ls =>
      -- The first name stands at the margin.
      obtain ⟨rest, below, hlines, -, -⟩ := (hls l List.mem_cons_self).exists_laidOut inline
      obtain ⟨c, t, hstart, hc⟩ := (hls l List.mem_cons_self).head_nameLine rest
      refine sharedMargin_eq_nil (c := c) (t := t) ?_ hc
      rw [← hstart]
      refine List.mem_append_left _ (List.mem_append_right _ ?_)
      rw [List.flatMap_cons, hlines]
      exact List.mem_append_left _ List.mem_cons_self

/-- Without empty lines around them, too, links are read back exactly if they are kept. -/
theorem ofLines_laidOut (inline : Bool) (hls : ∀ l ∈ ls, IsRead l) :
    ∃ again : List Link, (again = ls ↔ ∀ l ∈ ls, IsKept inline l) ∧
      (ofLines (ls.flatMap (laidOut inline))).result = .ok again := by
  obtain ⟨again, -, hsame, hfold⟩ := exists_foldlM_laidOut hls inline
  refine ⟨again, hsame, ?_⟩
  have hdedent := dedentLines_laidOut inline hls [] [] (by simp) (by simp)
  rw [List.nil_append, List.append_nil] at hdedent
  have hresult := hfold []
  rw [List.nil_append] at hresult
  unfold ofLines
  cases hlines : ls.flatMap (laidOut inline) with
  | nil =>
    rw [hlines] at hresult
    rw [dedentBody, Run.result_foldlM_cons (addLine_nil [])]
    exact hresult
  | cons first rest =>
    rw [hlines] at hdedent hresult
    rw [dedentBody, hdedent, hresult]

theorem foldlM_titleGap (settings : Settings) (links : List Link) :
    ((titleGap settings).foldlM addLine links).result = .ok links := by
  unfold titleGap
  split
  · rw [Run.result_foldlM_cons (addLine_nil links)]
    rfl
  · rfl

/-- Links are read from the printed lines as if nothing stood around these. -/
theorem result_ofLines_bodyLines (settings : Settings) (inline : Bool) (hls : ∀ l ∈ ls, IsRead l)
    {again : List Link} (h : ((ls.flatMap (laidOut inline)).foldlM addLine []).result = .ok again) :
    (ofLines (bodyLines settings inline ls)).result = .ok again := by
  have hbody : dedentBody (bodyLines settings inline ls) = bodyLines settings inline ls := by
    have hsame := dedentLines_laidOut inline hls (titleGap settings) [[]]
      (fun _ => eq_nil_of_mem_titleGap) fun _ => List.mem_singleton.mp
    change dedentLines (bodyLines settings inline ls) = bodyLines settings inline ls at hsame
    cases hlines : bodyLines settings inline ls with
    | nil => exact absurd hlines (List.append_ne_nil_of_right_ne_nil _ (List.cons_ne_nil _ _))
    | cons first rest => rwa [hlines] at hsame
  unfold ofLines
  -- The empty lines in front and behind are skipped.
  rw [hbody, bodyLines, List.append_assoc, Run.result_foldlM_append (foldlM_titleGap settings []),
    Run.result_foldlM_append h, Run.result_foldlM_cons (addLine_nil again)]
  rfl

theorem splitOn_sectionLines (settings : Settings) (inline : Bool) (hls : ∀ l ∈ ls, IsRead l) :
    ((ended (sectionLines settings inline ls)).splitOn '\n').drop 2 = bodyLines settings inline ls := by
  unfold sectionLines
  rw [splitOn_ended]
  · rfl
  · rw [List.forall_mem_cons, List.forall_mem_cons, List.forall_mem_append]
    refine ⟨fun hmem => ?_, fun hmem => ?_, fun line hline => ?_, fun line hline => ?_⟩
    · cases isUnbroken_title .seeAlso '\n' hmem
    · cases List.eq_of_mem_replicate hmem
    · rw [eq_nil_of_mem_titleGap hline]
      exact List.not_mem_nil
    · obtain ⟨l, hl, hline⟩ := List.mem_flatMap.mp hline
      exact (hls l hl).not_mem_of_mem_laidOut hline

/-- **Links are read back from a printed section exactly if every description that is put on a line of its
own continues there.**  This is where a link has several names, and for all links where one of them has no
room behind its name.  Whatever the descriptions are, links are printed, and the lines below the title are
read as links again, of which there are no fewer. -/
theorem ofLines_printLinks_iff (settings : Settings) (anyWidth : Bool)
    (hcontent : ∀ line ∈ content, '\n' ∉ line) (hread : (ofLines content).result = .ok ls) :
    ∃ text again, printLinks settings anyWidth ls = some text ∧
      (ofLines ((text.splitOn '\n').drop 2)).result = .ok again ∧ ls.length ≤ again.length ∧
      (again = ls ↔ ∀ l ∈ ls, 1 < l.names.length ∨ ¬ IsInline anyWidth ls →
        ∀ d ∈ l.desc.head?, Continues d) := by
  have hls := isRead_of_mem_ofLines hcontent hread
  obtain ⟨again, hlength, hsame, hfold⟩ :=
    exists_foldlM_laidOut hls (decide (IsInline anyWidth ls))
  refine ⟨_, again, printLinks_lines settings anyWidth fun l hl => (hls l hl).isNamed, ?_, hlength, ?_⟩
  · rw [splitOn_sectionLines settings _ hls]
    exact result_ofLines_bodyLines settings _ hls (hfold [])
  · rw [hsame]
    simp only [IsKept, StandsAlone, decide_eq_false_iff_not]

def sharedLines : List Text := ["a, b : Both.", "    More.", ":func:\x60c\x60 : One : two "]

def sharedLinks : List Link :=
  [⟨[⟨"a", none⟩, ⟨"b", none⟩], ["Both.", "More."]⟩, ⟨[⟨"c", some "func"⟩], ["One : two "]⟩]

/-- A description with a colon, and white space behind it, is read back behind a sole name. -/
theorem shared_links_read_back :
    (ofLines sharedLines).result = .ok sharedLinks ∧
    (∀ l ∈ sharedLinks, 1 < l.names.length ∨ ¬ IsInline false sharedLinks →
      ∀ d ∈ l.desc.head?, Continues d) ∧
    ∃ text, printLinks {} false sharedLinks = some text ∧
      (ofLines ((text.splitOn '\n').drop 2)).result = .ok sharedLinks := by
  have hread : (ofLines sharedLines).result = .ok sharedLinks := Run.eq_ok_of_toOption (by decide +kernel)
  have hkept : ∀ l ∈ sharedLinks, 1 < l.names.length ∨ ¬ IsInline false sharedLinks →
      ∀ d ∈ l.desc.head?, Continues d := by decide +kernel
  obtain ⟨text, again, hprinted, hagain, -, hsame⟩ :=
    ofLines_printLinks_iff {} false (by decide +kernel) hread
  rw [hsame.mpr hkept] at hagain
  exact ⟨hread, hkept, text, hprinted, hagain⟩

def nestedLink : Link := ⟨[⟨"a", none⟩, ⟨"b", none⟩], ["c : d"]⟩

def nestedText : Text := "See Also\n--------\na, b :\n    c : d\n"

/-- Below several names, a description with a colon is read as a link of its own. -/
theorem nested_description_read_apart :
    (ofLines ["a, b : c : d"]).result = .ok [nestedLink] ∧
    printLinks {} false [nestedLink] = some nestedText ∧
    (ofLines ((nestedText.splitOn '\n').drop 2)).result =
      .ok [⟨nestedLink.names, []⟩, ⟨[⟨"c", none⟩], ["d"]⟩] :=
  ⟨Run.eq_ok_of_toOption (by decide +kernel), by decide +kernel, Run.eq_ok_of_toOption (by decide +kernel)⟩

end DocTidy.Link
