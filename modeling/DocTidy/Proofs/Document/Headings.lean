import DocTidy.Proofs.Document.Paragraphs
import DocTidy.Proofs.Document.Reading

/-!
# Headings

Which paragraphs are headings does not depend on the margin of a docstring, and the ink of headings
is not found in any section: `ink_read_le` weighs what is read against what is written.
-/

namespace DocTidy.Document

open Text

variable {d : Document} {p : List Text} {docstring : Text}

theorem headLines_map_strip (p : List Text) : headLines (p.map strip) = headLines p := by
  match p with
  | [] => rfl
  | [l] => rw [List.map_singleton, headLines, headLines, strip_strip]
  | l :: u :: rest =>
    rw [List.map_cons, List.map_cons, headLines, headLines, strip_strip, strip_strip]

theorem isHeading_map_strip (p : List Text) : isHeading (p.map strip) = isHeading p := by
  rw [isHeading, headLines_map_strip, isHeading]

/-- The headings of a text, each with its underline. -/
def headings (t : Text) : List (Text × Text) :=
  ((strippedParagraphs t).filter isHeading).map headLines

theorem headings_dedentDocstring (t : Text) : headings (dedentDocstring t) = headings t := by
  rw [headings, strippedParagraphs_dedentDocstring, headings]

theorem strippedParagraphs_eq (t : Text) :
    strippedParagraphs t = (paragraphs (dedentLines (t.splitOn '\n'))).map (·.map strip) := by
  rw [← paragraphs_map isBlank_strip, map_strip_dedentLines, strippedParagraphs]

theorem map_headLines_headedParagraphs (docstring : Text) :
    (headedParagraphs docstring).2.map (fun group => headLines group.1) = headings docstring := by
  have hgroups : (headedParagraphs docstring).2.map (fun group => headLines group.1) =
      ((headedParagraphs docstring).2.map (·.1)).map headLines := by
    rw [List.map_map]
    rfl
  rw [hgroups, headedParagraphs, map_fst_headedRuns, headings, strippedParagraphs_eq,
    List.filter_map, List.map_map]
  have hisHeading : isHeading ∘ (List.map strip) = isHeading := funext isHeading_map_strip
  have hheadLines : headLines ∘ (List.map strip) = headLines := funext headLines_map_strip
  rw [hisHeading, hheadLines]

/-! ## The ink of headings -/

def headingInk (heading : Text × Text) : Nat := Text.ink heading.1 + Text.ink heading.2

theorem ink_pos_of_startsWith {t front : Text} {c : Char} (h : startsWith t front = true)
    (hmem : c ∈ front) (hc : isInk c = true) : 0 < Text.ink t :=
  List.countP_pos_iff.mpr ⟨c, (List.isPrefixOf_iff_prefix.mp h).subset hmem, hc⟩

theorem fst_headLines (l : Text) (rest : List Text) : (headLines (l :: rest)).1 = strip l := by
  cases rest <;> rfl

/-- A heading has ink: that of its underline, or of the directive. -/
theorem headingInk_pos {ls : List Text} (hp : p ∈ paragraphs ls) (hheading : isHeading p = true) :
    0 < headingInk (headLines p) := by
  -- The first line of a paragraph is not blank, so the underline has a character at least.
  have hlength : (headLines p).1.length ≠ 0 := by
    obtain ⟨l, rest, rfl⟩ := List.exists_cons_of_ne_nil (ne_nil_of_mem_paragraphs hp)
    have hl := (mem_of_mem_paragraphs hp List.mem_cons_self).2
    rw [fst_headLines, ne_eq, List.length_eq_zero_iff]
    intro hnil
    rw [← isBlank_strip, hnil] at hl
    cases hl
  unfold isHeading at hheading
  unfold headingInk
  simp only [Bool.or_eq_true] at hheading
  obtain (hindex | hhyphens) | hequals := hheading
  · have := ink_pos_of_startsWith hindex (c := '.') (by decide) (by decide)
    omega
  · have := ink_pos_of_startsWith hhyphens (List.mem_replicate.mpr ⟨hlength, rfl⟩) (by decide)
    omega
  · have := ink_pos_of_startsWith hequals (List.mem_replicate.mpr ⟨hlength, rfl⟩) (by decide)
    omega

theorem headingInk_pos_of_mem {t : Text} {heading : Text × Text} (h : heading ∈ headings t) :
    0 < headingInk heading := by
  obtain ⟨p, hp, rfl⟩ := List.mem_map.mp h
  obtain ⟨hp, hheading⟩ := List.mem_filter.mp hp
  exact headingInk_pos hp hheading

/-! ## The ink of what is read -/

theorem inkOf_joinParagraphs (ps : List (List Text)) :
    inkOf (joinParagraphs ps) = inkOf ps.flatten := by
  unfold joinParagraphs
  induction ps with
  | nil => rfl
  | cons p ps ih =>
    cases ps with
    | nil => simp
    | cons q ps =>
      rw [List.intercalate_cons_cons, inkOf_append, inkOf_append, ih]
      exact (inkOf_append p _).symm

theorem headingInk_le (p below : List Text) :
    headingInk (headLines p) ≤ inkOf ((p ++ below).take 2) := by
  match p with
  | [] => exact Nat.zero_le _
  | [l] =>
    rw [headLines, headingInk, ink_strip, List.singleton_append, List.take_succ_cons, inkOf_cons]
    exact Nat.le_add_right (Text.ink l) _
  | l :: u :: rest =>
    rw [headLines, headingInk, ink_strip, ink_strip]
    exact Nat.le_refl _

/-- The lines of a section do not hold its heading. -/
theorem inkOf_sectionLines_le (group : List Text × List (List Text)) :
    inkOf (sectionLines group) + headingInk (headLines group.1) ≤
      inkOf (group.1 :: group.2).flatten := by
  have hbelow : inkOf (sectionLines group) ≤ inkOf ((joinParagraphs (group.1 :: group.2)).drop 2) :=
    inkOf_le_of_sublist (List.dropWhile_sublist _)
  have hhead : headingInk (headLines group.1) ≤
      inkOf ((joinParagraphs (group.1 :: group.2)).take 2) := by
    obtain ⟨below, hjoin⟩ := joinParagraphs_cons group.1 group.2
    rw [hjoin]
    exact headingInk_le group.1 below
  have hsplit := congrArg inkOf (List.take_append_drop 2 (joinParagraphs (group.1 :: group.2)))
  rw [inkOf_append, inkOf_joinParagraphs] at hsplit
  omega

theorem ink_reads_le {groups : List (List Text × List (List Text))} {es : List (Section × Content)}
    (h : List.Forall₂ Reads groups es) :
    (es.map (·.2.ink)).sum + (groups.map fun group => headingInk (headLines group.1)).sum ≤
      inkOf (groups.flatMap fun group => (group.1 :: group.2).flatten) := by
  induction h with
  | nil => exact Nat.le_refl _
  | @cons group e _ _ hread _ ih =>
    have hcontent := ink_readContent_le hread.2
    have hgroup := inkOf_sectionLines_le group
    rw [List.map_cons, List.map_cons, List.sum_cons, List.sum_cons, List.flatMap_cons, inkOf_append]
    omega

theorem ink_oneLine (p : List Text) : Text.ink (oneLine p) = inkOf p := by
  rw [oneLine, ink_strip, ink_intercalate rfl, inkOf_map ink_strip]

/-- A signature is all that stands before the first heading.  It is then read twice, as the signature
and as the summary. -/
def IsReadTwice (headed : Bool) (front : List (List Text)) : Prop :=
  ∃ p, front = [p] ∧ isSignature (oneLine p) = true ∧ headed = true

theorem ink_frontEntries_le {headed : Bool} {front : List (List Text)}
    (hnodup : ((frontEntries headed front).map (·.1.recordName)).Nodup) :
    IsReadTwice headed front ∨
      ((frontEntries headed front).map (·.2.ink)).sum ≤ inkOf front.flatten := by
  induction front with
  | nil => exact .inr (Nat.le_refl _)
  | cons p rest ih =>
    have hp : (Content.text (oneLine p)).ink = inkOf p := ink_oneLine p
    rw [frontEntries] at hnodup ⊢
    rw [List.flatten_cons, inkOf_append]
    cases hsignature : isSignature (oneLine p) with
    | true =>
      simp only [hsignature, ↓reduceIte] at hnodup ⊢
      cases hlast : rest.isEmpty && headed with
      | true =>
        -- The one case in which a paragraph gives two entries.
        obtain ⟨hrest, hheaded⟩ := Bool.and_eq_true_iff.mp hlast
        exact .inl ⟨p, by rw [List.isEmpty_iff.mp hrest], hsignature, hheaded⟩
      | false =>
        simp only [hlast, Bool.false_eq_true, ↓reduceIte, List.map_cons, List.nodup_cons,
          List.sum_cons] at hnodup ⊢
        right
        obtain ⟨q, rfl, hq, -⟩ | hrest := ih hnodup.2
        · -- A second signature is refused.
          refine absurd ?_ hnodup.1
          rw [frontEntries, hq]
          exact List.mem_cons_self
        · omega
    | false =>
      right
      simp only [Bool.false_eq_true, ↓reduceIte, List.map_cons, List.sum_cons]
      cases hlast : rest.isEmpty && headed with
      | true =>
        simp only [↓reduceIte, List.map_nil, List.sum_nil]
        exact Nat.le_add_right (inkOf p) _
      | false =>
        simp only [Bool.false_eq_true, ↓reduceIte, List.map_cons, List.map_nil, List.sum_cons,
          List.sum_nil]
        exact Nat.add_le_add_left (inkOf_joinParagraphs rest).le (inkOf p)

theorem ink_openingEntries_le {headed : Bool} {front : List (List Text)}
    (hnodup : ((openingEntries headed front).map (·.1.recordName)).Nodup) :
    IsReadTwice headed front ∨
      ((openingEntries headed front).map (·.2.ink)).sum ≤ inkOf front.flatten := by
  unfold openingEntries at hnodup ⊢
  split
  · exact .inr (Nat.zero_le _)
  · rename_i hfront
    rw [if_neg hfront] at hnodup
    exact ink_frontEntries_le hnodup

theorem inkOf_headedParagraphs (docstring : Text) :
    inkOf (headedParagraphs docstring).1.flatten +
        inkOf ((headedParagraphs docstring).2.flatMap fun group => (group.1 :: group.2).flatten) =
      Text.ink docstring := by
  have hall := congrArg List.flatten
    (headedRuns_flatten isHeading (paragraphs (dedentLines (docstring.splitOn '\n'))))
  have hink := congrArg inkOf hall
  rw [inkOf_flatten_paragraphs, inkOf_dedentLines, inkOf_splitOn, List.flatten_append,
    inkOf_append] at hink
  rw [← hink, List.flatten_flatten, List.map_map, List.flatMap_def]
  rfl

/-- **Nothing is read but what is written.**  The ink of the sections and of the headings is that
of the docstring at most, unless a signature is read twice. -/
theorem ink_read_le (h : (read none docstring).result = .ok d) :
    IsReadTwice (!(headedParagraphs docstring).2.isEmpty) (headedParagraphs docstring).1 ∨
      d.ink + ((headings docstring).map headingInk).sum ≤ Text.ink docstring := by
  obtain ⟨es, hes, rfl⟩ := read_eq_ok_iff.mp h
  have hnodup := hes.nodup
  rw [List.map_append] at hnodup
  refine (ink_openingEntries_le (List.nodup_append.mp hnodup).1).imp_right fun hopening => ?_
  -- Weigh the entries of the front and of the headed sections against their paragraphs.
  have hentries := ink_addAll_le content_blank.1
    (openingEntries (!(headedParagraphs docstring).2.isEmpty) (headedParagraphs docstring).1 ++ es)
  rw [ink_blank, List.map_append, List.sum_append] at hentries
  have hsections := ink_reads_le hes.reads
  have hheadings : ((headedParagraphs docstring).2.map fun group => headingInk (headLines group.1)) =
      (headings docstring).map headingInk := by
    rw [← map_headLines_headedParagraphs, List.map_map]
    rfl
  rw [hheadings] at hsections
  have htotal := inkOf_headedParagraphs docstring
  omega

/-! ## A signature that is read twice -/

theorem paragraphs_of_headedParagraphs {group : List Text × List (List Text)}
    {groups : List (List Text × List (List Text))} (hfront : (headedParagraphs docstring).1 = [p])
    (hgroups : (headedParagraphs docstring).2 = group :: groups) :
    ∃ ps, paragraphs (dedentLines (docstring.splitOn '\n')) = p :: group.1 :: ps ∧
      isHeading group.1 = true := by
  have hall := headedRuns_flatten isHeading (paragraphs (dedentLines (docstring.splitOn '\n')))
  have hheads := map_fst_headedRuns isHeading (paragraphs (dedentLines (docstring.splitOn '\n')))
  rw [← headedParagraphs] at hall hheads
  rw [hfront, hgroups] at hall
  rw [hgroups] at hheads
  refine ⟨_, hall.symm, ?_⟩
  have hmem : group.1 ∈ (paragraphs (dedentLines (docstring.splitOn '\n'))).filter isHeading :=
    hheads ▸ List.mem_cons_self
  exact (List.mem_filter.mp hmem).2

theorem oneLine_singleton (l : Text) : oneLine [l] = strip l := by
  rw [oneLine, List.map_singleton, List.intercalate_singleton, strip_strip]

theorem not_mem_oneLine {c : Char} (hp : ∀ l ∈ p, c ∉ l) (hc : c ≠ ' ') : c ∉ oneLine p := by
  refine not_mem_strip (not_mem_intercalate (by simpa using hc) fun l hl => ?_)
  obtain ⟨k, hk, rfl⟩ := List.mem_map.mp hl
  exact not_mem_strip (hp k hk)

theorem isBlank_oneLine (h : isSignature (oneLine p) = true) : isBlank (oneLine p) = false := by
  rw [← Bool.not_eq_true]
  intro hblank
  have hnil : oneLine p = [] := by
    rw [oneLine, isBlank_strip] at hblank
    rw [oneLine, strip, stripLeft_eq_nil_iff.mpr hblank]
    rfl
  rw [hnil] at h
  cases h

/-- A signature on a line of its own is no heading. -/
theorem isHeading_signature {l : Text} (h : isSignature (strip l) = true) :
    isHeading [l] = false := by
  have hindex : startsWith (strip l) ".. index::" = false := by
    rw [← Bool.not_eq_true]
    intro hstarts
    obtain ⟨rest, hrest⟩ := List.isPrefixOf_iff_prefix.mp hstarts
    have hnone : isSignature ((".. index::" : Text) ++ rest) = false := rfl
    rw [← hrest, hnone] at h
    cases h
  cases hline : strip l with
  | nil =>
    rw [hline] at h
    cases h
  | cons c r =>
    rw [isHeading, headLines]
    dsimp only
    rw [hindex, hline]
    rfl

theorem contents_of_isReadTwice (h : (read none docstring).result = .ok d)
    (hfront : (headedParagraphs docstring).1 = [p]) (hp : p ≠ [])
    (hsignature : isSignature (oneLine p) = true)
    (hheaded : (!(headedParagraphs docstring).2.isEmpty) = true) :
    d.contents? .signature = some (.text (oneLine p)) ∧
      d.contents? .summary = some (.lines (p.map stripRight)) := by
  obtain ⟨es, hes, rfl⟩ := read_eq_ok_iff.mp h
  have hopening : openingEntries (!(headedParagraphs docstring).2.isEmpty)
      (headedParagraphs docstring).1 = [(.signature, .text (oneLine p)), (.summary, .lines p)] := by
    rw [hheaded, hfront]
    change frontEntries true [p] = _
    rw [frontEntries, if_pos hsignature]
    rfl
  have hnodup := nodup_of_nodup_names hes.nodup
  rw [hopening] at hnodup ⊢
  constructor
  · refine contents?_eq_some_iff.mpr ⟨?_, ?_⟩
    · cases hline : oneLine p with
      | nil =>
        rw [hline] at hsignature
        cases hsignature
      | cons c r => rfl
    · exact content_addAll_of_mem (s := .signature) (c := .text (oneLine p)) content_blank.1 hnodup
        (by simp) (by simp)
  · refine contents?_eq_some_iff.mpr ⟨?_, ?_⟩
    · cases p with
      | nil => exact absurd rfl hp
      | cons l rest => rfl
    · exact content_addAll_of_mem (s := .summary) (c := .lines p) content_blank.1 hnodup
        (by simp) (by simp)

end DocTidy.Document
