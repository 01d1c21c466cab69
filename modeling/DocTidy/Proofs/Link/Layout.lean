import DocTidy.Proofs.Printer

/-!
# The layout of printed links

A link is printed as the line of its names and the lines of its description below.  The first line of the
description leads: it stands behind a sole name, or on a line of its own.  Links are tried with all leads
behind the names, and one that does not fit puts all of them below; `printLinks_lines` says which lines
come out, and that there is always a text.
-/

namespace DocTidy.Link

open Text Printer

variable {l : Link} {ls : List Link} {d above : Text} {inline anyWidth : Bool}

/-! ## The lines of a link -/

/-- The names of a link as they are printed. -/
def nameLine (l : Link) : Text := (", " : Text).intercalate (l.names.map printLinkName)

/-- The first line of the description stands on a line of its own. -/
def StandsAlone (inline : Bool) (l : Link) : Prop := 1 < l.names.length ∨ inline = false

instance (inline : Bool) (l : Link) : Decidable (StandsAlone inline l) := inferInstanceAs (Decidable (_ ∨ _))

/-- The first line of the description, unless it is empty. -/
def lead? (l : Link) : Option Text := l.desc.head?.filter fun d => !d.isEmpty

/-- The lines that a link is printed as.  An empty first line of the description is left out. -/
def laidOut (inline : Bool) (l : Link) : List Text :=
  match l.lead? with
  | none => nameLine l :: l.desc.tail.map (descMargin ++ ·)
  | some d =>
    if StandsAlone inline l then
      (nameLine l ++ " :") :: (descMargin ++ d) :: l.desc.tail.map (descMargin ++ ·)
    else (nameLine l ++ " : " ++ d) :: l.desc.tail.map (descMargin ++ ·)

/-- There is room for the lead behind the name, or there need be none. -/
def HasRoom (anyWidth : Bool) (l : Link) : Prop :=
  anyWidth = true ∨ ∀ d ∈ l.lead?, (nameLine l).length + 3 + d.length ≤ 80

instance (anyWidth : Bool) (l : Link) : Decidable (HasRoom anyWidth l) := inferInstanceAs (Decidable (_ ∨ _))

/-- There is room behind its name for the lead of every link with one name. -/
def IsInline (anyWidth : Bool) (ls : List Link) : Prop :=
  ∀ l ∈ ls, StandsAlone true l ∨ HasRoom anyWidth l

instance (anyWidth : Bool) (ls : List Link) : Decidable (IsInline anyWidth ls) :=
  List.decidableBAll (fun l => StandsAlone true l ∨ HasRoom anyWidth l) ls

/-- The names show, on one line. -/
structure IsNamed (l : Link) : Prop where
  isUnbroken : IsUnbroken (nameLine l)
  ne_nil : nameLine l ≠ []

/-! ## Printing -/

/-- The lines below the first one, and the end of the last line. -/
def linesBelow (more : List Text) : Text := more.flatMap (fun line => ("\n    " : Text) ++ line) ++ "\n"

theorem linesBelow_cons (d : Text) (more : List Text) :
    linesBelow (d :: more) = ("\n    " : Text) ++ d ++ linesBelow more := by
  rw [linesBelow, List.flatMap_cons, List.append_assoc, linesBelow]

theorem ended_below (first : Text) (more : List Text) :
    ended (first :: more.map (descMargin ++ ·)) = first ++ linesBelow more := by
  induction more generalizing first with
  | nil => rw [List.map_nil, ended_cons]; rfl
  | cons line more ih =>
    rw [List.map_cons, ended_cons, ih, linesBelow_cons, List.append_assoc]
    rfl

/-- The names begin a line, and this is the last one so far. -/
theorem IsNamed.getLast?_nameLine (h : IsNamed l) (habove : EndsLine above) :
    (splitLines (above ++ nameLine l)).getLast? = some (nameLine l) := by
  have hlast := endedLines_unbroken h.isUnbroken h.ne_nil
  rcases habove with rfl | hnewline
  · rw [List.nil_append, splitLines, hlast]
    rfl
  · obtain ⟨a, rfl⟩ := List.getLast?_eq_some_iff.mp hnewline
    rw [List.append_assoc, List.singleton_append, splitLines, endedLines_append_newline, hlast,
      List.map_append]
    exact List.getLast?_concat

theorem addLink_of_none (h : l.lead? = none) (inline anyWidth : Bool) (above : Text) :
    addLink inline anyWidth above l = some (above ++ nameLine l ++ linesBelow l.desc.tail) := by
  unfold addLink
  rw [← List.drop_one]
  cases hdesc : l.desc with
  | nil => rfl
  | cons d more =>
    cases d with
    | nil => rfl
    | cons c d => simp [lead?, hdesc] at h

theorem addLink_of_some (h : l.lead? = some d) (inline anyWidth : Bool) (above : Text) :
    addLink inline anyWidth above l =
      if 1 < l.names.length || !inline then
        some (above ++ nameLine l ++ " :\n    " ++ d ++ linesBelow l.desc.tail)
      else if 80 < ((splitLines (above ++ nameLine l)).getLast?.getD []).length + 3 + d.length && !anyWidth
        then none
      else some (above ++ nameLine l ++ " : " ++ d ++ linesBelow l.desc.tail) := by
  unfold addLink
  rw [← List.drop_one]
  cases hdesc : l.desc with
  | nil => simp [lead?, hdesc] at h
  | cons first more =>
    cases first with
    | nil => simp [lead?, hdesc] at h
    | cons c first =>
      obtain ⟨rfl, -⟩ : c :: first = d ∧ d ≠ [] := by simpa [lead?, hdesc] using h
      rfl

/-- What is printed of a link, if there is room for it. -/
theorem IsNamed.addLink_eq (h : IsNamed l) (inline anyWidth : Bool) (habove : EndsLine above) :
    addLink inline anyWidth above l = if StandsAlone inline l ∨ HasRoom anyWidth l
      then some (above ++ ended (laidOut inline l)) else none := by
  unfold laidOut
  cases hlead : l.lead? with
  | none =>
    -- Without a lead there is nothing to fit in.
    have hroom : HasRoom anyWidth l := .inr (by rw [hlead]; exact fun d hd => by cases hd)
    rw [if_pos (.inr hroom), addLink_of_none hlead]
    simp only [ended_below, List.append_assoc]
  | some d =>
    have hroom : HasRoom anyWidth l ↔ anyWidth = true ∨ (nameLine l).length + 3 + d.length ≤ 80 := by
      unfold HasRoom
      rw [hlead]
      simp
    have halone : (1 < l.names.length || !inline) = true ↔ StandsAlone inline l := by
      unfold StandsAlone
      simp
    rw [addLink_of_some hlead, h.getLast?_nameLine habove, Option.getD_some]
    dsimp only
    by_cases hown : StandsAlone inline l
    · have hlines : ended ((nameLine l ++ " :") :: (descMargin ++ d) :: l.desc.tail.map (descMargin ++ ·)) =
          nameLine l ++ " :" ++ linesBelow (d :: l.desc.tail) := ended_below _ (d :: l.desc.tail)
      rw [if_pos (halone.mpr hown), if_pos (.inl hown), if_pos hown, hlines, linesBelow_cons]
      simp only [List.append_assoc]
      rfl
    · -- Behind the name the width decides.
      have hfull : (80 < (nameLine l).length + 3 + d.length && !anyWidth) = true ↔ ¬ HasRoom anyWidth l := by
        rw [hroom]
        simp [and_comm]
      rw [if_neg (halone.not.mpr hown), if_neg hown, ended_below]
      by_cases hfit : HasRoom anyWidth l
      · rw [if_neg (fun h => hfull.mp h hfit), if_pos (.inr hfit)]
        simp only [List.append_assoc]
      · rw [if_pos (hfull.mpr hfit), if_neg (not_or.mpr ⟨hown, hfit⟩)]

/-- Links are printed one below the other, if there is room for each. -/
theorem foldlM_addLink (hls : ∀ l ∈ ls, IsNamed l) (inline anyWidth : Bool) (habove : EndsLine above) :
    ls.foldlM (addLink inline anyWidth) above =
      if ∀ l ∈ ls, StandsAlone inline l ∨ HasRoom anyWidth l
        then some (above ++ ended (ls.flatMap (laidOut inline))) else none := by
  induction ls generalizing above with
  | nil =>
    rw [if_pos fun l hl => absurd hl List.not_mem_nil, List.flatMap_nil]
    exact congrArg some (List.append_nil above).symm
  | cons l ls ih =>
    rw [List.forall_mem_cons] at hls
    have hstep := hls.1.addLink_eq inline anyWidth habove
    rw [List.foldlM_cons]
    by_cases hl : StandsAlone inline l ∨ HasRoom anyWidth l
    · rw [if_pos hl] at hstep
      have hall : (∀ k ∈ l :: ls, StandsAlone inline k ∨ HasRoom anyWidth k) ↔
          ∀ k ∈ ls, StandsAlone inline k ∨ HasRoom anyWidth k := by
        rw [List.forall_mem_cons]
        exact and_iff_right hl
      rw [hstep, Option.bind_eq_bind, Option.bind_some, ih hls.2 (endsLine_addLink hstep)]
      simp only [hall, List.flatMap_cons, ended_append, List.append_assoc]
    · -- Nothing is printed if one link does not fit.
      rw [if_neg hl] at hstep
      rw [hstep, if_neg fun hall => hl (hall l List.mem_cons_self)]
      rfl

/-- The blank line below the title, if there is one. -/
def titleGap (settings : Settings) : List Text := if settings.spaceInSeeAlsoTitle then [[]] else []

/-- The lines of a section of links: the title, its underline, a gap, and the lines of each link. -/
def sectionLines (settings : Settings) (inline : Bool) (ls : List Link) : List Text :=
  Section.seeAlso.title :: replicate Section.seeAlso.title.length '-' ::
    (titleGap settings ++ ls.flatMap (laidOut inline))

theorem printLinksAs?_eq (settings : Settings) (inline anyWidth : Bool) (hls : ∀ l ∈ ls, IsNamed l) :
    printLinksAs? settings inline anyWidth ls =
      if ∀ l ∈ ls, StandsAlone inline l ∨ HasRoom anyWidth l then
        some (ended (sectionLines settings inline ls)) else none := by
  have htitle : titled Section.seeAlso.title ++ (if settings.spaceInSeeAlsoTitle then ['\n'] else []) =
      ended ([Section.seeAlso.title, replicate Section.seeAlso.title.length '-'] ++ titleGap settings) := by
    rw [ended_append, ← titled_eq, titleGap]
    split <;> rfl
  rw [printLinksAs?, foldlM_addLink hls inline anyWidth (endsLine_linksTitle settings), htitle,
    ← ended_append, List.append_assoc]
  rfl

/-- **Links whose names show are always printed**, with the leads behind the names exactly if there is room
for each of them. -/
theorem printLinks_lines (settings : Settings) (anyWidth : Bool) (hls : ∀ l ∈ ls, IsNamed l) :
    printLinks settings anyWidth ls =
      some (ended (sectionLines settings (decide (IsInline anyWidth ls)) ls)) := by
  rw [printLinks, printLinksAs?_eq settings true anyWidth hls, printLinksAs?_eq settings false anyWidth hls]
  by_cases hroom : IsInline anyWidth ls
  · rw [decide_eq_true hroom]
    unfold IsInline at hroom
    rw [if_pos hroom, Option.orElse_some]
  · -- Below the names there is always room.
    have halone : ∀ l ∈ ls, StandsAlone false l ∨ HasRoom anyWidth l := fun l _ => .inl (.inr rfl)
    rw [decide_eq_false hroom]
    unfold IsInline at hroom
    rw [if_neg hroom, Option.orElse_none, if_pos halone]

/-! ## Links without line boundaries -/

/-- The link has a name that is not empty, and no line boundary anywhere. -/
structure IsPresentable (l : Link) : Prop where
  named : ∃ n ∈ l.names, n.name ≠ []
  names : ∀ n ∈ l.names, IsUnbroken n.name ∧ ∀ role ∈ n.role, IsUnbroken role
  desc : ∀ line ∈ l.desc, IsUnbroken line

instance (l : Link) : Decidable (IsPresentable l) :=
  decidable_of_iff ((∃ n ∈ l.names, n.name ≠ []) ∧
      (∀ n ∈ l.names, IsUnbroken n.name ∧ ∀ role ∈ n.role, IsUnbroken role) ∧
      ∀ line ∈ l.desc, IsUnbroken line)
    ⟨fun h => ⟨h.1, h.2.1, h.2.2⟩, fun h => ⟨h.named, h.names, h.desc⟩⟩

theorem isUnbroken_printLinkName {n : LinkName} (hname : IsUnbroken n.name)
    (hrole : ∀ role ∈ n.role, IsUnbroken role) : IsUnbroken (printLinkName n) := by
  have hcolon : IsUnbroken ":" := by decide
  have hopen : IsUnbroken ":\x60" := by decide
  have hclose : IsUnbroken "\x60" := by decide
  unfold printLinkName
  cases hn : n.role with
  | none => exact hname
  | some role => exact (((hcolon.append (hrole role hn)).append hopen).append hname).append hclose

theorem name_subset_printLinkName (n : LinkName) : n.name ⊆ printLinkName n := by
  unfold printLinkName
  intro c hc
  cases n.role with
  | none => exact hc
  | some role => exact List.mem_append_left _ (List.mem_append_right _ hc)

theorem isUnbroken_nameLine (h : ∀ n ∈ l.names, IsUnbroken (printLinkName n)) : IsUnbroken (nameLine l) := by
  refine isUnbroken_intercalate (by decide) fun name hname => ?_
  obtain ⟨n, hn, rfl⟩ := List.mem_map.mp hname
  exact h n hn

namespace IsPresentable

theorem isNamed (h : IsPresentable l) : IsNamed l := by
  refine ⟨isUnbroken_nameLine fun n hn => ?_, ?_⟩
  · obtain ⟨hname, hrole⟩ := h.names n hn
    exact isUnbroken_printLinkName hname hrole
  · -- A character of a name shows in the line.
    obtain ⟨n, hn, hne⟩ := h.named
    obtain ⟨c, hc⟩ := List.exists_mem_of_ne_nil n.name hne
    exact List.ne_nil_of_mem
      (mem_intercalate (List.mem_map_of_mem hn) (name_subset_printLinkName n hc))

theorem isUnbroken_laidOut (h : IsPresentable l) (inline : Bool) :
    ∀ line ∈ laidOut inline l, IsUnbroken line := by
  have hnames := h.isNamed.isUnbroken
  have hcolon : IsUnbroken " :" := by decide
  have hapart : IsUnbroken " : " := by decide
  have hmore : ∀ line ∈ l.desc.tail.map (descMargin ++ ·), IsUnbroken line := by
    intro line hline
    obtain ⟨d, hd, rfl⟩ := List.mem_map.mp hline
    exact isUnbroken_descMargin.append (h.desc d (List.mem_of_mem_tail hd))
  unfold laidOut
  cases hlead : l.lead? with
  | none => exact List.forall_mem_cons.mpr ⟨hnames, hmore⟩
  | some d =>
    have hd : IsUnbroken d := h.desc d (List.mem_of_mem_head? (Option.eq_some_of_filter_eq_some hlead))
    dsimp only
    split
    · rw [List.forall_mem_cons, List.forall_mem_cons]
      exact ⟨hnames.append hcolon, isUnbroken_descMargin.append hd, hmore⟩
    · exact List.forall_mem_cons.mpr ⟨(hnames.append hapart).append hd, hmore⟩

theorem not_standsAlone_iff (h : IsPresentable l) : ¬ StandsAlone true l ↔ l.names.length = 1 := by
  obtain ⟨n, hn, -⟩ := h.named
  have hpos := List.length_pos_of_mem hn
  simp only [StandsAlone, Bool.true_eq_false, or_false]
  omega

end IsPresentable

theorem isUnbroken_sectionLines (settings : Settings) (inline : Bool) (hls : ∀ l ∈ ls, IsPresentable l) :
    ∀ line ∈ sectionLines settings inline ls, IsUnbroken line := by
  unfold sectionLines titleGap
  rw [List.forall_mem_cons, List.forall_mem_cons, List.forall_mem_append]
  refine ⟨isUnbroken_title .seeAlso, by decide, fun line hline => ?_, fun line hline => ?_⟩
  · split at hline
    · rw [List.mem_singleton.mp hline]
      decide
    · cases hline
  · obtain ⟨l, hl, hline⟩ := List.mem_flatMap.mp hline
    exact (hls l hl).isUnbroken_laidOut inline line hline

/-- **The descriptions of all links stand behind their names, or those of none.**  A section of links is
always printed.  Its lines are those of the links in one of two layouts: the first lines of the descriptions
stand behind the names, except for links with several names, or all of them stand on lines of their own.
The former is chosen exactly if none of its lines is wider than 80 characters. -/
theorem printLinks_all_or_none_inline (settings : Settings) (hls : ∀ l ∈ ls, IsPresentable l) :
    ∃ text inline, printLinks settings false ls = some text ∧
      splitLines text = sectionLines settings inline ls ∧
      (inline = true ↔ ∀ l ∈ ls, l.names.length = 1 →
        ∀ d ∈ l.lead?, (nameLine l ++ " : " ++ d).length ≤ 80) := by
  refine ⟨_, _, printLinks_lines settings false fun l hl => (hls l hl).isNamed,
    splitLines_ended (isUnbroken_sectionLines settings _ hls), ?_⟩
  have hroom (l : Link) (hl : l ∈ ls) : StandsAlone true l ∨ HasRoom false l ↔
      (l.names.length = 1 → ∀ d ∈ l.lead?, (nameLine l ++ " : " ++ d).length ≤ 80) := by
    have hlength (d : Text) : (nameLine l ++ " : " ++ d).length = (nameLine l).length + 3 + d.length := by
      rw [List.length_append, List.length_append]
      rfl
    rw [← (hls l hl).not_standsAlone_iff, ← or_iff_not_imp_left]
    simp only [HasRoom, hlength, Bool.false_eq_true, false_or]
  rw [decide_eq_true_iff]
  exact forall₂_congr hroom

def briefLinks : List Link :=
  [⟨[⟨"a", some "func"⟩], ["One.", "More."]⟩, ⟨[⟨"b", none⟩, ⟨"c", none⟩], ["Both."]⟩,
    ⟨[⟨"d", none⟩], [[], "Below."]⟩]

/-- A description with one character too many behind its name. -/
def wideLink : Link := ⟨[⟨"e", none⟩], [replicate 77 'x']⟩

/-- One description that is too wide moves those of the other links below their names as well. -/
theorem wide_link_moves_all_below :
    (∀ l ∈ briefLinks ++ [wideLink], IsPresentable l) ∧
    (∃ text, printLinks {} false briefLinks = some text ∧ splitLines text =
      (["See Also", "--------", ":func:\x60a\x60 : One.", "    More.", "b, c :", "    Both.", "d",
        "    Below."] : List Text)) ∧
    ∃ text, printLinks {} false (briefLinks ++ [wideLink]) = some text ∧ splitLines text =
      (["See Also", "--------", ":func:\x60a\x60 :", "    One.", "    More.", "b, c :", "    Both.", "d",
        "    Below.", "e :", "    " ++ replicate 77 'x'] : List Text) := by
  have hall : ∀ l ∈ briefLinks ++ [wideLink], IsPresentable l := by decide
  have hbrief : ∀ l ∈ briefLinks, IsPresentable l := fun l hl => hall l (List.mem_append_left _ hl)
  obtain ⟨brief, inline, hbrief, hlines, hinline⟩ := printLinks_all_or_none_inline {} hbrief
  obtain ⟨wide, below, hwide, hlines', hbelow⟩ := printLinks_all_or_none_inline {} hall
  rw [hinline.mpr (by decide)] at hlines
  rw [Bool.eq_false_iff.mpr fun h => absurd (hbelow.mp h) (by decide)] at hlines'
  exact ⟨hall, ⟨brief, hbrief, hlines⟩, wide, hwide, hlines'⟩

end DocTidy.Link
