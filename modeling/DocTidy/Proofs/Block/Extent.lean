import DocTidy.Proofs.Block.Progress

/-!
# The lines of a definition list

A definition list is made of pieces: the lines of an entry, and blank lines between entries.  The pieces
in their order are the lines that the list takes, so no line is passed over or taken twice, and the
entries come from the pieces one after the other.  The list goes on to a header or to the end, and no
header is taken in on the way.
-/

namespace DocTidy.Block

open Text

/-! ## The pieces of a list -/

/-- A part of a definition list: a blank line between entries, or the first line of an entry with the
lines below it. -/
inductive Piece where
  | gap (line : Text)
  | item (first : Text) (below : List Text)

namespace Piece

def lines : Piece → List Text
  | gap line => [line]
  | item first below => first :: below

/-- The entries that come from a piece.  The first line holds the head of an entry and what stands behind
its colon, and the lines below are those of the entry; or it holds several heads, and no line is below. -/
def entries : Piece → List Entry
  | gap _ => []
  | item first below => entriesOf first below

/-- A gap is blank, and the lines of an item belong together. -/
def IsSound : Piece → Prop
  | gap line => isBlank line = true
  | item first below => isBlank first = false ∧ AreBelow below

end Piece

variable {line : Text} {lines below left : List Text} {es : List Entry}

theorem Defines.exists_pieces (h : Defines lines es left) :
    ∃ pieces : List Piece, lines = pieces.flatMap Piece.lines ++ left ∧
      es = pieces.flatMap Piece.entries ∧ ∀ p ∈ pieces, p.IsSound := by
  induction h with
  | nil => exact ⟨[], rfl, rfl, by simp⟩
  | @blank line rest es left hblank _ ih =>
    obtain ⟨pieces, hlines, hentries, hsound⟩ := ih
    refine ⟨.gap line :: pieces, ?_, ?_, ?_⟩
    · rw [List.flatMap_cons, List.append_assoc, ← hlines]
      rfl
    · rw [List.flatMap_cons, ← hentries]
      rfl
    · exact List.forall_mem_cons.mpr ⟨hblank, hsound⟩
  | header => exact ⟨[], rfl, rfl, by simp⟩
  | @entry line rest es left hblank _ _ ih =>
    obtain ⟨pieces, hlines, hentries, hsound⟩ := ih
    refine ⟨.item line (splitBelow rest).1 :: pieces, ?_, ?_, ?_⟩
    · rw [List.flatMap_cons, List.append_assoc, ← hlines, Piece.lines, List.cons_append,
        splitBelow_append]
    · rw [List.flatMap_cons, ← hentries]
      rfl
    · exact List.forall_mem_cons.mpr ⟨⟨hblank, areBelow_splitBelow rest⟩, hsound⟩

/-! ## Where a list ends -/

theorem Defines.left_cases (h : Defines lines es left) : left = [] ∨ atHeader left = true := by
  induction h with
  | nil => exact .inl rfl
  | blank _ _ ih => exact ih
  | header _ hheader => exact .inr hheader
  | entry _ _ _ ih => exact ih

theorem not_atMargin_of_areBelow (hbelow : AreBelow below) {l : Text} (hl : l ∈ below) :
    ¬AtMargin l := by
  intro hmargin
  cases below with
  | nil => cases hl
  | cons next ls =>
    obtain ⟨hindent, hls⟩ := hbelow
    obtain rfl | hl := List.mem_cons.mp hl
    · rw [hmargin.indentOf] at hindent
      exact Nat.lt_irrefl 0 hindent
    · have hbelongs := hls l hl
      rw [hmargin.belongsBelow hindent] at hbelongs
      cases hbelongs

/-- An end of some lines begins in their first part, or it is an end of the second. -/
theorem suffix_append_cases {front back : List Text} (h : line :: below <:+ front ++ back) :
    line ∈ front ∨ line :: below <:+ back := by
  rcases List.suffix_or_suffix_of_suffix h (List.suffix_append front back) with hback | hback
  · exact .inr hback
  · rcases List.suffix_cons_iff.mp hback with rfl | ⟨between, rfl⟩
    · exact .inr List.suffix_rfl
    · -- What stands between the line and the second part is the rest of the first part.
      obtain ⟨before, hbefore⟩ := h
      rw [← List.cons_append, ← List.append_assoc] at hbefore
      rw [← List.append_cancel_right hbefore]
      exact .inl (List.mem_append_right before List.mem_cons_self)

/-- No line that the list takes begins a header, unless it is indented. -/
theorem Defines.not_atHeader (h : Defines lines es left) (hline : line :: below <:+ lines)
    (hleft : left <:+ below) (hmargin : AtMargin line) : atHeader (line :: below) = false := by
  induction h with
  | nil => cases List.suffix_nil.mp hline
  | @blank first rest es left hblank _ ih =>
    rcases List.suffix_cons_iff.mp hline with heq | hrest
    · obtain ⟨rfl, rfl⟩ := List.cons.inj heq
      exact absurd (hblank.symm.trans hmargin.isBlank) (by decide)
    · exact ih hrest hleft
  | header =>
    -- Nothing is taken here: the line would be one of those that are left.
    have htoo_long := hline.length_le.trans hleft.length_le
    rw [List.length_cons] at htoo_long
    omega
  | @entry first rest es left hblank hheader _ ih =>
    rcases List.suffix_cons_iff.mp hline with heq | hrest
    · obtain ⟨rfl, rfl⟩ := List.cons.inj heq
      exact hheader
    · -- Below the first line the entry has no line at the margin, so the line is one of a later piece.
      rw [← splitBelow_append rest] at hrest
      rcases suffix_append_cases hrest with hmem | hafter
      · exact absurd hmargin (not_atMargin_of_areBelow (areBelow_splitBelow rest) hmem)
      · exact ih hafter hleft

/-- **A definition list takes its own lines.**  It is made of pieces that follow one another, with every
line of an entry in its place, and ends before a header or with the last line.  None of the lines that it
takes begins a header at the margin. -/
theorem readDefinitions_takes_own_lines (lines : List Text) :
    ∃ es left, ∃ pieces : List Piece, (readDefinitions lines).result = .ok (es, left) ∧
      lines = pieces.flatMap Piece.lines ++ left ∧ es = pieces.flatMap Piece.entries ∧
      (∀ p ∈ pieces, p.IsSound) ∧
      (left = [] ∨ ∃ header below, header? left = .ok (header, below)) ∧
      ∀ line below, line :: below <:+ lines → left <:+ below → AtMargin line →
        header? (line :: below) = .error .noMatch := by
  obtain ⟨es, left, h⟩ := exists_defines lines
  obtain ⟨pieces, hlines, hentries, hsound⟩ := h.exists_pieces
  refine ⟨es, left, pieces, readDefinitions_eq_ok_iff.mpr h, hlines, hentries, hsound, ?_, ?_⟩
  · refine h.left_cases.imp_right fun hheader => ?_
    obtain ⟨title, underline, below, rfl, hunderline⟩ := exists_of_atHeader hheader
    exact ⟨_, below, header?_eq_ok hunderline below⟩
  · intro line below hline hleft hmargin
    exact header?_eq_error (h.not_atHeader hline hleft hmargin)

end DocTidy.Block
