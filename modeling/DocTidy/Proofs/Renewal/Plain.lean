import DocTidy.Proofs.Renewal.Prose
import DocTidy.Proofs.Renewal.Sections

/-!
# Reading plain text

Where spaces and newlines are the only white space, the contents that are read of a docstring have the
form that printing and reading leave alone (`Content.IsRead`).  A frame adds no other white space
(`Text.IsPlain.fill`).
-/

namespace DocTidy

open Text

/-- Spaces and newlines are the only white space of the text. -/
def Text.IsPlain (t : Text) : Prop := ∀ c ∈ t, isSpace c = true → c = ' ' ∨ c = '\n'

instance (t : Text) : Decidable t.IsPlain :=
  decidable_of_iff ((t.all fun c => !isSpace c || (c == ' ' || c == '\n')) = true)
    (by simp [Text.IsPlain, List.all_eq_true, or_iff_not_imp_left])

namespace Text

variable {s t : Text} {ls : List Text}

theorem IsPlain.mono (ht : t.IsPlain) (hs : s ⊆ t) : s.IsPlain := fun c hc => ht c (hs hc)

theorem IsPlain.append (hs : s.IsPlain) (ht : t.IsPlain) : IsPlain (s ++ t) :=
  List.forall_mem_append.mpr ⟨hs, ht⟩

theorem isPlain_spaces (n : Nat) : (spaces n).IsPlain := fun _ hc _ => .inl (List.eq_of_mem_replicate hc)

theorem isPlain_ended (hls : ∀ l ∈ ls, OnlySpaces l) : (ended ls).IsPlain := by
  intro c hc hspace
  obtain ⟨l, hl, hc⟩ := List.mem_flatMap.mp hc
  rcases List.mem_append.mp hc with hc | hc
  · exact .inl (hls l hl c hc hspace)
  · exact .inr (List.mem_singleton.mp hc)

theorem IsPlain.indent (ht : t.IsPlain) (level : Nat) : (indent (spaces level) t).IsPlain := by
  intro c hc
  obtain ⟨l, hl, hc⟩ := List.mem_flatten.mp hc
  obtain ⟨k, hk, rfl⟩ := List.mem_map.mp hl
  have hline : k.IsPlain := ht.mono fun a ha => by
    rw [← flatten_splitLinesKeep t]
    exact List.mem_flatten_of_mem hk ha
  split at hc
  · exact hline c hc
  · exact (isPlain_spaces level).append hline c hc

/-- **A frame adds spaces and newlines only.** -/
theorem IsPlain.fill (ht : t.IsPlain) (f : Frame) (level : Nat) : (f.fill level t).IsPlain := by
  have hmargin := isPlain_spaces level
  have htail : (f.tail level).IsPlain := by
    unfold Frame.tail
    split
    · exact List.forall_mem_cons.mpr ⟨fun _ => .inr rfl, hmargin⟩
    · exact hmargin
  have hindented : IsPlain (dropEndWhile (· == ' ') (Text.indent (spaces level) t ++ spaces level)) :=
    ((ht.indent level).append hmargin).mono (List.rdropWhile_prefix (· == ' ') _).subset
  have hopened {u : Text} (hu : u.IsPlain) :
      IsPlain (if f.startsAtOnce then (if f.startsWithSpace then [' '] else []) ++ stripLeft u else '\n' :: u) := by
    split
    · exact IsPlain.append (by split <;> decide) (hu.mono (List.dropWhile_suffix _).subset)
    · exact List.forall_mem_cons.mpr ⟨fun _ => .inr rfl, hu⟩
  have hended {u : Text} (hu : u.IsPlain) : IsPlain (if f.endsBlank then u else stripRight u) := by
    split
    · exact hu
    · exact hu.mono (List.rdropWhile_prefix _ _).subset
  exact hended (hopened (hindented.append htail))

end Text

/-! ## Paragraphs -/

namespace Document

variable {docstring : Text} {d : Document} {s : Section} {c : Content}

theorem onlySpaces_of_mem_readParagraphs (hplain : docstring.IsPlain) {p : List Text} {l : Text}
    (hp : p ∈ readParagraphs docstring) (hl : l ∈ p) : OnlySpaces l := by
  intro c hc hspace
  by_contra hne
  refine not_mem_of_mem_readParagraphs (fun hnewline hmem => ?_) hp hl hc
  exact (hplain c hmem hspace).elim hne hnewline

/-- Paragraphs of lines without other white space than spaces. -/
def ArePlain (ps : List (List Text)) : Prop := AreParagraphs ps ∧ ∀ p ∈ ps, ∀ l ∈ p, OnlySpaces l

theorem arePlain_readParagraphs (hplain : docstring.IsPlain) : ArePlain (readParagraphs docstring) :=
  ⟨areParagraphs_paragraphs _, fun _ hp _ hl => onlySpaces_of_mem_readParagraphs hplain hp hl⟩

theorem ArePlain.mono {ps qs : List (List Text)} (h : ArePlain ps) (hsub : qs ⊆ ps) : ArePlain qs :=
  ⟨fun p hp => h.1 p (hsub hp), fun p hp => h.2 p (hsub hp)⟩

theorem ArePlain.onlySpaces_joinParagraphs {ps : List (List Text)} (h : ArePlain ps) :
    ∀ l ∈ joinParagraphs ps, OnlySpaces l := by
  intro l hl
  obtain rfl | ⟨p, hp, hl⟩ := of_mem_joinParagraphs hl
  · decide
  · exact h.2 p hp l hl

/-- The lines of a section are squeezed. -/
theorem isSqueezed_sectionLines {group : List Text × List (List Text)}
    (h : AreParagraphs (group.1 :: group.2)) : IsSqueezed (sectionLines group) := by
  have hsuffix : sectionLines group <:+ joinParagraphs (group.1 :: group.2) :=
    (List.dropWhile_suffix isBlank).trans (List.drop_suffix 2 _)
  refine h.isSqueezed.of_isInfix hsuffix.isInfix ⟨fun l hl => ?_, fun l hl => ?_⟩
  · have hhead := List.head?_dropWhile_not isBlank ((joinParagraphs (group.1 :: group.2)).drop 2)
    rw [show (((joinParagraphs (group.1 :: group.2)).drop 2).dropWhile isBlank).head? = some l from hl] at hhead
    exact hhead
  · refine h.isSqueezed.trimmed.2 l ?_
    obtain ⟨front, hfront⟩ := hsuffix
    have hne : sectionLines group ≠ [] := by
      intro hnil
      rw [hnil] at hl
      cases hl
    rw [← hfront, List.getLast?_append_of_ne_nil front hne, hl]

/-! ## Contents -/

open Content

theorem onlySpaces_oneLine {p : List Text} (h : ∀ l ∈ p, OnlySpaces l) : OnlySpaces (oneLine p) := by
  unfold oneLine
  refine OnlySpaces.strip fun c hc hspace => ?_
  by_contra hne
  refine not_mem_intercalate (fun hmem => hne (List.mem_singleton.mp hmem)) (fun l hl hmem => ?_) hc
  obtain ⟨k, hk, rfl⟩ := List.mem_map.mp hl
  exact hne ((h k hk).strip c hmem hspace)

/-- Squeezed lines without white space at the end of a line. -/
theorem areLines_map_stripRight {ls : List Text} (hls : IsSqueezed ls) (hspaces : ∀ l ∈ ls, OnlySpaces l)
    (hinked : s = .summary → ∀ l ∈ ls, isBlank l = false) : AreLines s (ls.map stripRight) where
  squeezed := hls.map isBlank_stripRight rfl
  spaces l hl := by
    obtain ⟨k, hk, rfl⟩ := List.mem_map.mp hl
    exact (hspaces k hk).mono (List.rdropWhile_prefix isSpace k).subset
  stripped _ l hl := by
    obtain ⟨k, -, rfl⟩ := List.mem_map.mp hl
    exact List.rdropWhile_idempotent isSpace k
  inked hs l hl := by
    obtain ⟨k, hk, rfl⟩ := List.mem_map.mp hl
    exact (isBlank_stripRight k).trans (hinked hs k hk)

theorem isRead_frontEntries {headed : Bool} {front : List (List Text)} (h : ArePlain front) :
    ∀ e ∈ frontEntries headed front, (recordedAs e.1 e.2).IsRead e.1 := by
  have hempty : ∀ s : Section, AreLines s ([].map stripRight) := fun s =>
    areLines_map_stripRight (isSqueezed_of_inked (by simp)) (by simp) (by simp)
  induction front with
  | nil =>
    rw [frontEntries, List.forall_mem_cons, List.forall_mem_singleton]
    exact ⟨⟨rfl, hempty _⟩, rfl, hempty _⟩
  | cons p rest ih =>
    have hrest : ArePlain rest := h.mono (List.subset_cons_self p rest)
    obtain ⟨⟨-, hinked⟩, -⟩ := List.forall_mem_cons.mp h.1
    have hspaces := h.2 p List.mem_cons_self
    have hsummary : AreLines .summary (p.map stripRight) :=
      areLines_map_stripRight (isSqueezed_of_inked hinked) hspaces fun _ => hinked
    rw [frontEntries]
    split
    · -- A signature with nothing between it and a heading is read as the summary too.
      rename_i hsignature
      have hfirst : (recordedAs .signature (.text (oneLine p))).IsRead .signature :=
        ⟨rfl, onlySpaces_oneLine hspaces, strip_strip _, hsignature⟩
      refine List.forall_mem_cons.mpr ⟨hfirst, ?_⟩
      split
      · exact List.forall_mem_singleton.mpr ⟨rfl, hsummary⟩
      · exact ih hrest
    · refine List.forall_mem_cons.mpr ⟨⟨rfl, hsummary⟩, ?_⟩
      split
      · exact fun e he => absurd he List.not_mem_nil
      · refine List.forall_mem_singleton.mpr ⟨rfl, ?_⟩
        exact areLines_map_stripRight hrest.1.isSqueezed hrest.onlySpaces_joinParagraphs (by simp)

theorem isRead_openingEntries {headed : Bool} {front : List (List Text)} (h : ArePlain front) :
    ∀ e ∈ openingEntries headed front, (recordedAs e.1 e.2).IsRead e.1 := by
  unfold openingEntries
  split
  · exact fun e he => absurd he List.not_mem_nil
  · exact isRead_frontEntries h

/-- What is read below a title. -/
theorem isRead_readContent {ls : List Text} (hls : IsSqueezed ls) (hspaces : ∀ l ∈ ls, OnlySpaces l)
    (hs : s.hasTitle = true) (h : (readContent s ls).result = .ok c) : c.IsRead s := by
  unfold readContent at h
  split at h
  · rename_i hlayout
    obtain rfl := Except.ok.inj h
    refine ⟨hlayout, hls, hspaces, fun huntitled => ?_, ?_⟩
    · rw [hs] at huntitled
      cases huntitled
    · rintro rfl
      cases hs
  · rename_i soleType hlayout
    obtain rfl := Except.ok.inj h
    exact ⟨soleType, hlayout, Param.areRead_ofLines soleType hls hspaces⟩
  · rename_i hlayout
    obtain ⟨links, hlinks, h⟩ := Run.result_bind_eq_ok.mp h
    obtain rfl := Except.ok.inj h
    have hnewline : ∀ l ∈ ls, '\n' ∉ l := fun l hl hmem => by cases hspaces l hl '\n' hmem rfl
    exact ⟨hlayout, fun l hl => ⟨Link.isRead_of_mem_ofLines hnewline hlinks l hl,
      Link.onlySpaces_of_mem_ofLines hspaces hlinks l hl⟩⟩

/-- A group of plain paragraphs is read as contents that stay as they are.  A signature below a heading
is the exception: it is read as lines, for which there is no printer. -/
theorem isRead_reads {group : List Text × List (List Text)} {e : Section × Content}
    (hgroup : ArePlain (group.1 :: group.2)) (h : Reads group e) (hsummary : e.1 ≠ .summary)
    (hprint : Printer.canPrint e.1 (recordedAs e.1 e.2) = true) : (recordedAs e.1 e.2).IsRead e.1 := by
  obtain ⟨s, c⟩ := e
  have hls := isSqueezed_sectionLines hgroup.1
  have hspaces : ∀ l ∈ sectionLines group, OnlySpaces l := by
    intro l hl
    refine hgroup.onlySpaces_joinParagraphs l ?_
    exact ((List.dropWhile_suffix isBlank).trans (List.drop_suffix 2 _)).subset hl
  have hread : (readContent s (sectionLines group)).result = .ok c := h.2
  cases htitle : s.hasTitle with
  | true =>
    rw [Renewal.recordedAs_of_hasTitle htitle]
    exact isRead_readContent hls hspaces htitle hread
  | false =>
    rw [readContent, layout_untitled htitle] at hread
    obtain rfl := Except.ok.inj hread
    cases s with
    | signature => cases hprint
    | summary => exact absurd rfl hsummary
    | extendedSummary => exact ⟨rfl, areLines_map_stripRight hls hspaces (by simp)⟩
    | parameters | returns | yields | receives | raises | warns | otherParameters | attributes | methods
    | seeAlso | notes | warnings | references | examples | index => cases htitle

/-- **The contents that are read of plain text** stay as they are when they are printed and read again. -/
theorem isRead_of_read (hplain : docstring.IsPlain)
    (h : (read none (dedentDocstring docstring)).result = .ok d) (hs : s.title ∈ d.order)
    (hprint : Printer.canPrint s (d.content s) = true) : (d.content s).IsRead s := by
  obtain ⟨es, hes, rfl⟩ := read_eq_ok_iff.mp h
  have hparagraphs := arePlain_readParagraphs hplain
  rw [order_addAll] at hs
  obtain ⟨e, he, hname⟩ := List.mem_map.mp hs
  have hindex : e.1 ≠ .index := by
    intro hindex
    rw [hindex] at hname
    exact title_ne_index s hname.symm
  obtain rfl : e.1 = s := Section.title_injective ((recordName_eq_title hindex).symm.trans hname)
  rw [content_addAll_of_mem content_blank.1 (nodup_of_nodup_names hes.nodup) he hindex] at hprint ⊢
  obtain he | he := List.mem_append.mp he
  · refine isRead_openingEntries (hparagraphs.mono fun p hp => ?_) e he
    exact mem_of_mem_fst_headedRuns hp
  · obtain ⟨group, hgroup, hread⟩ := exists_of_mem_forall₂ hes.reads he
    refine isRead_reads (hparagraphs.mono fun p hp => ?_) hread (hes.notSummary e he) hprint
    exact mem_of_mem_snd_headedRuns hgroup hp

theorem areRead_params (hplain : docstring.IsPlain)
    (h : (read none (dedentDocstring docstring)).result = .ok d) : Param.AreRead false d.params := by
  have hd := sound_read h
  obtain hcontent | ⟨hnil, -⟩ := params_cases hd
  · by_cases hname : Section.parameters.title ∈ d.order
    · have hread := isRead_of_read hplain h hname (by rw [hcontent]; rfl)
      rw [hcontent] at hread
      obtain ⟨soleType, hlayout, hps⟩ := hread
      cases hlayout
      exact hps
    · rw [hd.unrecorded _ hname] at hcontent
      rw [← Content.params.inj hcontent]
      exact .inr nofun
  · rw [hnil]
    exact .inr nofun

end Document
end DocTidy
