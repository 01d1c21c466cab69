import DocTidy.Proofs.Document.Headings
import DocTidy.Proofs.Renewal.Frame

/-!
# The headings of a renewed docstring

Every section that is printed with a title shows in the new docstring as a heading, and the new
docstring has no ink but that of its titles and that of the document.
-/

namespace DocTidy

open Text

/-- The title of a section and the line below it. -/
def Section.heading (s : Section) : Text × Text := (s.title, replicate s.title.length '-')

namespace Document

variable {d : Document} {m : Text}

/-! ## A printed title is a heading -/

/-- A line that is not blank and has no white space at its ends. -/
def IsLine (l : Text) : Prop :=
  isBlank l = false ∧ strip l = l ∧ l.any isLineBreak = false

theorem IsLine.isLineBreak {l : Text} (h : IsLine l) : ∀ c ∈ l, isLineBreak c = false := by
  intro c hc
  rw [← Bool.not_eq_true]
  exact List.any_eq_false.mp h.2.2 c hc

theorem isLine_title (s : Section) : IsLine s.title := by
  cases s <;> exact ⟨rfl, rfl, rfl⟩

theorem isLine_underline (s : Section) : IsLine s.heading.2 := by
  cases s <;> exact ⟨rfl, rfl, rfl⟩

theorem isHeading_heading (s : Section) (p : List Text) :
    isHeading (s.title :: s.heading.2 :: p) = true ∧
      headLines (s.title :: s.heading.2 :: p) = s.heading := by
  have hlines : headLines (s.title :: s.heading.2 :: p) = s.heading := by
    rw [headLines, (isLine_title s).2.1, (isLine_underline s).2.1, Section.heading]
  refine ⟨?_, hlines⟩
  have hunderline : startsWith s.heading.2 (replicate s.heading.1.length '-') = true :=
    List.isPrefixOf_iff_prefix.mpr List.prefix_rfl
  rw [isHeading, hlines]
  simp [hunderline]

theorem splitOn_line {l : Text} (hl : '\n' ∉ l) (t : Text) :
    (l ++ '\n' :: t).splitOn '\n' = l :: t.splitOn '\n' := by
  rw [List.splitOn_append_cons_self, List.splitOn_eq_singleton hl, List.singleton_append]

/-- An indented line is no more than one line, and the same when it is stripped. -/
theorem strip_indentFrom_line (hm : isBlank m = true) (hnewline : '\n' ∉ m) {l : Text}
    (hl : ∀ c ∈ l, isLineBreak c = false) :
    '\n' ∉ indentFrom m true l ∧ strip (indentFrom m true l) = strip l := by
  obtain ⟨w, hw, hindent⟩ := indentFrom_line (m := m) hl
  have hwblank : isBlank w = true ∧ '\n' ∉ w := by
    obtain rfl | rfl := hw
    · exact ⟨hm, hnewline⟩
    · exact ⟨rfl, List.not_mem_nil⟩
  rw [hindent]
  refine ⟨fun hmem => ?_, strip_blank_append hwblank.1 l⟩
  obtain hmem | hmem := List.mem_append.mp hmem
  · exact hwblank.2 hmem
  · exact absurd (hl _ hmem) (by decide)

/-- Indented or not, the title of a section is the first heading. -/
theorem headings_titled (hm : isBlank m = true) (hnewline : '\n' ∉ m) (s : Section) (t : Text) :
    ∃ hs, headings (indentFrom m true (Printer.titled s.title ++ t)) = s.heading :: hs := by
  obtain ⟨htitle, hstrip, -⟩ := isLine_title s
  obtain ⟨hunderline, hstrip', -⟩ := isLine_underline s
  obtain ⟨hone, hsame⟩ := strip_indentFrom_line hm hnewline (isLine_title s).isLineBreak
  obtain ⟨hone', hsame'⟩ := strip_indentFrom_line hm hnewline (isLine_underline s).isLineBreak
  have htext : Printer.titled s.title ++ t = s.title ++ '\n' :: (s.heading.2 ++ '\n' :: t) := by
    unfold Printer.titled
    simp only [List.append_assoc]
    rfl
  obtain ⟨p, ps, -, hparagraphs⟩ := paragraphs_cons_cons htitle hunderline
    (((indentFrom m true t).splitOn '\n').map strip)
  obtain ⟨hheading, hlines⟩ := isHeading_heading s p
  refine ⟨(ps.filter isHeading).map headLines, ?_⟩
  rw [htext, indentFrom_append_newline, indentFrom_append_newline, headings, strippedParagraphs,
    splitOn_line hone, splitOn_line hone', List.map_cons, List.map_cons, hsame, hsame', hstrip,
    hstrip', hparagraphs, List.filter_cons_of_pos hheading, List.map_cons, hlines]

/-! ## The printed sections one below the other -/

/-- The paragraphs of printed sections are those of each section. -/
theorem strippedParagraphs_intercalate {texts : List Text}
    (htexts : ∀ t ∈ texts, t.getLast? = some '\n') :
    strippedParagraphs (indentFrom m true (['\n'].intercalate texts)) =
      texts.flatMap fun t => strippedParagraphs (indentFrom m true t) := by
  induction texts with
  | nil => rfl
  | cons t texts ih =>
    cases texts with
    | nil => simp
    | cons u texts =>
      obtain ⟨front, rfl⟩ := List.getLast?_eq_some_iff.mp (htexts t List.mem_cons_self)
      rw [List.flatMap_cons, ← ih fun v hv => htexts v (List.mem_cons_of_mem _ hv),
        List.intercalate_cons_cons]
      -- The text ends its last line, so the separator is a blank line between paragraphs.
      generalize ['\n'].intercalate (u :: texts) = rest
      have hgap : indentFrom m true ('\n' :: rest) = '\n' :: indentFrom m true rest :=
        indentFrom_append_newline [] rest
      have hfront : strippedParagraphs (indentFrom m true (front ++ ['\n'])) =
          strippedParagraphs (indentFrom m true front) := by
        rw [indentFrom_append_newline]
        exact strippedParagraphs_append_space (by decide) _
      rw [hfront, List.append_assoc, List.append_assoc, List.singleton_append,
        List.singleton_append, indentFrom_append_newline, hgap, strippedParagraphs_append]

/-- A frame does not touch the paragraphs. -/
theorem strippedParagraphs_fill (f : Frame) (level : Nat) {body : Text} (hblank : isBlank body = false)
    (hend : body.getLast? = some '\n') :
    strippedParagraphs (f.fill level body) =
      strippedParagraphs (indentFrom (spaces level) true body) := by
  have hshown : strippedParagraphs (indentFrom (spaces level) (!f.startsAtOnce) (f.shown body)) =
      strippedParagraphs (indentFrom (spaces level) (!f.startsAtOnce) (f.started body)) := by
    unfold Frame.shown
    split
    · rfl
    · rw [← stripRight_indentFrom, strippedParagraphs_stripRight]
  rw [Frame.fill_eq hblank hend, strippedParagraphs_append_blank (f.isBlank_closing level),
    strippedParagraphs_blank_append f.isBlank_opening, hshown]
  unfold Frame.started
  cases f.startsAtOnce with
  | true =>
    have hleft : stripLeft (indentFrom (spaces level) true body) =
        indentFrom (spaces level) false (stripLeft body) :=
      stripLeft_indentFrom (isBlank_spaces level) body
    rw [if_pos rfl, Bool.not_true, ← hleft, strippedParagraphs_stripLeft]
  | false => rfl

theorem ink_fill (f : Frame) (level : Nat) {body : Text} (hblank : isBlank body = false)
    (hend : body.getLast? = some '\n') : Text.ink (f.fill level body) = Text.ink body := by
  rw [← inkOf_strippedParagraphs, strippedParagraphs_fill f level hblank hend,
    inkOf_strippedParagraphs, ink_indentFrom (isBlank_spaces level)]

/-! ## The sections of a document with a title -/

/-- The sections among some names that have a title and contents. -/
def titledAmong (d : Document) (names : List Text) : List Section :=
  (names.filterMap Section.ofTitle?).filter fun s => s.hasTitle && (d.contents? s).isSome

/-- The recorded sections that have a title and contents, in order. -/
def titledSections (d : Document) : List Section := d.titledAmong d.order

theorem titledAmong_cons (d : Document) (s : Section) (names : List Text) :
    d.titledAmong (s.title :: names) =
      (if s.hasTitle && (d.contents? s).isSome then [s] else []) ++ d.titledAmong names := by
  unfold titledAmong
  rw [List.filterMap_cons_some s.ofTitle?_title, List.filter_cons]
  split <;> rfl

theorem exists_title_of_get {name : Text} {c : Content} (hd : d.IsComplete)
    (h : d.get name = .ok c) : ∃ s : Section, name = s.title ∧ d.content s = c := by
  by_cases htitle : ∃ s : Section, name = s.title
  · obtain ⟨s, rfl⟩ := htitle
    rw [get_title hd] at h
    exact ⟨s, rfl, Except.ok.inj h⟩
  · have hnone : d.get? name = none := by
      rw [get?, hd, tabulate, List.lookup_eq_none_iff]
      intro e he
      obtain ⟨s, -, rfl⟩ := List.mem_map.mp he
      rw [bne_iff_ne]
      exact fun hname => htitle ⟨s, hname⟩
    rw [get, hnone] at h
    cases h

/-- The name is the title of a section that is empty or can be printed. -/
def Printable (d : Document) (name : Text) : Prop :=
  ∃ s : Section, name = s.title ∧ ∀ c, d.contents? s = some c → Printer.canPrint s c = true

end Document

namespace Renewal

open Document

variable {r : Renewal} {d : Document} {m name t : Text} {names texts : List Text}

/-- What is printed for a name: nothing, or the section of that title. -/
theorem printRecorded_cases (hd : d.IsComplete) (h : (r.printRecorded d name).result = .ok t) :
    ∃ s : Section, name = s.title ∧ (d.contents? s = none ∧ t = [] ∨
      ∃ c, d.contents? s = some c ∧
        (Printer.printSection r.settings r.anyWidth s c).result = .ok t) := by
  unfold printRecorded at h
  obtain ⟨c, hc, h⟩ := Run.result_bind_eq_ok.mp h
  rw [Run.result_ofExcept] at hc
  obtain ⟨s, rfl, rfl⟩ := exists_title_of_get hd hc
  refine ⟨s, rfl, ?_⟩
  rw [Section.ofTitle?_title] at h
  unfold contents?
  split at h
  · rename_i hempty
    exact .inl ⟨if_pos hempty, (Except.ok.inj h).symm⟩
  · rename_i hempty
    exact .inr ⟨_, if_neg hempty, h⟩

/-- A recorded name is printed exactly if it can be. -/
theorem printRecorded_succeeds_iff (hd : d.IsComplete) :
    (∃ t, (r.printRecorded d name).result = .ok t) ↔ d.Printable name := by
  constructor
  · rintro ⟨t, ht⟩
    obtain ⟨s, rfl, ⟨hnone, -⟩ | ⟨c, hc, hprint⟩⟩ := printRecorded_cases hd ht
    · exact ⟨s, rfl, fun c hc => by rw [hnone] at hc; cases hc⟩
    · refine ⟨s, rfl, fun c' hc' => ?_⟩
      rw [hc] at hc'
      rw [← Option.some.inj hc']
      exact (Printer.printSection_succeeds_iff ..).mp ⟨t, hprint⟩
  · rintro ⟨s, rfl, hprint⟩
    unfold printRecorded
    rw [get_title hd, Section.ofTitle?_title]
    by_cases hempty : (d.content s).isEmpty = true
    · refine ⟨[], Run.result_bind_eq_ok.mpr ⟨_, rfl, ?_⟩⟩
      rw [if_pos hempty]
      rfl
    · obtain ⟨t, ht⟩ := (Printer.printSection_succeeds_iff r.settings r.anyWidth s _).mpr
        (hprint _ (if_neg hempty))
      refine ⟨t, Run.result_bind_eq_ok.mpr ⟨_, rfl, ?_⟩⟩
      rw [if_neg hempty]
      exact ht

/-- A document is printed exactly if each of its recorded names can be. -/
theorem printDocument_succeeds_iff (hd : d.IsComplete) :
    (∃ body, (r.printDocument d).result = .ok body) ↔ ∀ name ∈ d.order, d.Printable name := by
  constructor
  · rintro ⟨body, hprint⟩ name hname
    obtain ⟨texts, htexts, -⟩ := Run.result_bind_eq_ok.mp hprint
    obtain ⟨t, -, ht⟩ := exists_of_mem_forall₂ (Run.mapM_eq_ok.mp htexts).flip hname
    exact (printRecorded_succeeds_iff hd).mp ⟨t, ht⟩
  · intro hprintable
    obtain ⟨texts, htexts⟩ := Run.exists_mapM fun name hname =>
      (printRecorded_succeeds_iff (r := r) hd).mpr (hprintable name hname)
    exact ⟨_, Run.result_bind_eq_ok.mpr ⟨texts, htexts, rfl⟩⟩

/-- The names are recorded ones, and the texts are printed for them. -/
abbrev Prints (r : Renewal) (d : Document) (names texts : List Text) : Prop :=
  List.Forall₂ (fun name t => (r.printRecorded d name).result = .ok t) names texts

theorem headings_printed (hd : d.IsComplete) (hm : isBlank m = true) (hnewline : '\n' ∉ m)
    (h : r.Prints d names texts) :
    ((d.titledAmong names).map Section.heading).Sublist
      ((texts.filter fun t => !t.isEmpty).flatMap fun t => headings (indentFrom m true t)) := by
  induction h with
  | nil => exact List.Sublist.slnil
  | @cons name t names texts hprint _ ih =>
    obtain ⟨s, rfl, hcases⟩ := printRecorded_cases hd hprint
    rw [titledAmong_cons, List.map_append]
    obtain ⟨hnone, rfl⟩ | ⟨c, hsome, hprinted⟩ := hcases
    · rw [hnone]
      simpa using ih
    · rw [hsome]
      cases htitle : s.hasTitle with
      | true =>
        -- What is printed below the title may show as further headings.
        obtain ⟨below, rfl⟩ := Printer.titled_printSection htitle hprinted
        obtain ⟨hs, hheadings⟩ := headings_titled hm hnewline s below
        rw [List.filter_cons_of_pos (by simp [Printer.titled]), List.flatMap_cons, hheadings]
        exact (ih.trans (List.sublist_append_right hs _)).cons_cons s.heading
      | false =>
        refine ih.trans ?_
        rw [List.filter_cons]
        split
        · exact List.sublist_append_right _ _
        · exact List.Sublist.refl _

theorem ink_titled (s : Section) : Text.ink (Printer.titled s.title) = headingInk s.heading := by
  have hnewline : Text.ink ("\n" : Text) = 0 := rfl
  unfold Printer.titled headingInk Section.heading
  rw [ink_append, ink_append, ink_append, hnewline]
  dsimp only
  omega

theorem ink_printed_le (hd : d.Sound) (h : r.Prints d names texts) :
    inkOf texts ≤ ((d.titledAmong names).map fun s => headingInk s.heading).sum +
      ((names.filterMap Section.ofTitle?).map fun s => (d.content s).ink).sum := by
  induction h with
  | nil => exact Nat.le_refl _
  | @cons name t names texts hprint _ ih =>
    obtain ⟨s, rfl, hcases⟩ := printRecorded_cases hd.isComplete hprint
    rw [titledAmong_cons, List.map_append, List.sum_append, inkOf_cons,
      List.filterMap_cons_some s.ofTitle?_title, List.map_cons, List.sum_cons]
    obtain ⟨hnone, rfl⟩ | ⟨c, hsome, hprinted⟩ := hcases
    · rw [ink_nil]
      omega
    · have hink := Printer.ink_printSection_le (hd.fits s c hsome) hprinted
      rw [ink_titled] at hink
      rw [hsome, (contents?_eq_some_iff.mp hsome).2]
      cases htitle : s.hasTitle with
      | true =>
        simp only [htitle, ↓reduceIte, Option.isSome_some, Bool.and_self, List.map_cons,
          List.map_nil, List.sum_cons, List.sum_nil] at hink ⊢
        omega
      | false =>
        simp only [htitle, Bool.false_eq_true, ↓reduceIte, Bool.false_and, List.map_nil,
          List.sum_nil] at hink ⊢
        omega

theorem title_of_ofTitle? {s : Section} (h : Section.ofTitle? name = some s) : s.title = name := by
  have hfound := List.find?_some h
  exact beq_iff_eq.mp hfound

theorem nodup_filterMap_ofTitle? (h : names.Nodup) :
    (names.filterMap Section.ofTitle?).Nodup := by
  refine h.filterMap fun name name' s hs hs' => ?_
  rw [← title_of_ofTitle? hs, ← title_of_ofTitle? hs']

/-- What is printed for a document has no ink but that of its titles and its contents. -/
theorem ink_printed_order_le (hd : d.Sound) (h : r.Prints d d.order texts) :
    inkOf texts ≤ (d.titledSections.map fun s => headingInk s.heading).sum + d.ink := by
  have hprinted := ink_printed_le hd h
  have hcontents : ((d.order.filterMap Section.ofTitle?).map fun s => (d.content s).ink).sum ≤
      d.ink := by
    -- No section is recorded twice, so the recorded ones are a part of all.
    unfold Document.ink
    rw [← List.sum_toFinset _ (nodup_filterMap_ofTitle? hd.nodup),
      ← List.sum_toFinset _ Section.nodup_all]
    exact Finset.sum_le_sum_of_subset fun s _ => List.mem_toFinset.mpr s.mem_all
  unfold titledSections
  omega

end Renewal
end DocTidy
