import DocTidy.Proofs.Document.Paragraphs
import DocTidy.Proofs.Example.Pieces

/-!
# Tidied example lines

Tidying replaces the code of every piece and prints the pieces of each block.  It succeeds if the code of every
piece can be replaced, and then it takes no note.
-/

namespace DocTidy.Example

open Text Document

variable {p : Piece} {ps : List Piece} {block lines out : List Text}
  {onCode : List Text → Except Error (List Text)}

/-! ## Pieces and blocks -/

/-- `q` is the piece `p` with its code replaced. -/
structure Rewrites (onCode : List Text → Except Error (List Text)) (p q : Piece) : Prop where
  input_eq : onCode p.input = .ok q.input
  output_eq : q.output = p.output

theorem tidyPiece_eq_ok_iff : tidyPiece onCode p = .ok lines ↔ ∃ q, Rewrites onCode p q ∧ q.lines = lines := by
  rw [tidyPiece, Run.except_bind_eq_ok]
  constructor
  · rintro ⟨code, hcode, h⟩
    exact ⟨⟨code, p.output⟩, ⟨hcode, rfl⟩, Except.ok.inj h⟩
  · rintro ⟨q, hq, rfl⟩
    refine ⟨q.input, hq.input_eq, ?_⟩
    rw [Piece.lines, hq.output_eq]
    rfl

theorem forall₂_tidyPiece_iff {pieces : List (List Text)} :
    List.Forall₂ (fun p ls => tidyPiece onCode p = .ok ls) ps pieces ↔
      ∃ qs, List.Forall₂ (Rewrites onCode) ps qs ∧ qs.map Piece.lines = pieces := by
  induction ps generalizing pieces with
  | nil => simp [eq_comm]
  | cons p ps ih =>
    rw [List.forall₂_cons_left_iff]
    constructor
    · rintro ⟨ls, rest, hp, hps, rfl⟩
      obtain ⟨q, hq, rfl⟩ := tidyPiece_eq_ok_iff.mp hp
      obtain ⟨qs, hqs, rfl⟩ := ih.mp hps
      exact ⟨q :: qs, .cons hq hqs, rfl⟩
    · rintro ⟨qs, hqs, rfl⟩
      cases hqs with
      | cons hq hqs => exact ⟨_, _, tidyPiece_eq_ok_iff.mpr ⟨_, hq, rfl⟩, ih.mpr ⟨_, hqs, rfl⟩, rfl⟩

/-- A block is tidied by replacing the code of its pieces. -/
theorem tidyBlock_eq_ok_iff : tidyBlock onCode block = .ok lines ↔
    ∃ ps qs, piecesOf block = .ok ps ∧ List.Forall₂ (Rewrites onCode) ps qs ∧ printed qs = lines := by
  rw [tidyBlock, Run.except_bind_eq_ok]
  simp only [Run.except_bind_eq_ok, Run.except_mapM_eq_ok, forall₂_tidyPiece_iff]
  constructor
  · rintro ⟨ps, hps, _, ⟨qs, hqs, rfl⟩, h⟩
    exact ⟨ps, qs, hps, hqs, Except.ok.inj h⟩
  · rintro ⟨ps, qs, hps, hqs, rfl⟩
    exact ⟨ps, hps, _, ⟨qs, hqs, rfl⟩, rfl⟩

theorem exists_piecesOf (h : block ≠ []) : ∃ ps, piecesOf block = .ok ps := by
  cases block with
  | nil => exact absurd rfl h
  | cons first rest =>
    rw [piecesOf]
    split
    · exact ⟨_, rfl⟩
    · exact ⟨_, rfl⟩

/-! ## Blocks one after another -/

/-- The pieces that lines are read as, over all blocks. -/
def piecesIn (lines : List Text) : List Piece :=
  (paragraphs lines).flatMap fun block => (piecesOf block).toOption.getD []

theorem mem_piecesIn (hblock : block ∈ paragraphs lines) (hps : piecesOf block = .ok ps) (hp : p ∈ ps) :
    p ∈ piecesIn lines := by
  apply List.mem_flatMap.mpr
  refine ⟨block, hblock, ?_⟩
  rw [hps]
  exact hp

theorem result_tidyWith_iff : (tidyWith onCode lines).result = .ok out ↔
    ∃ blocks, List.Forall₂ (fun block ls => tidyBlock onCode block = .ok ls) (paragraphs lines) blocks ∧
      joinParagraphs blocks = out := by
  rw [tidyWith, Run.result_bind_eq_ok]
  simp only [Run.mapM_eq_ok, Run.result_onFailure, Run.result_ofExcept, Run.result_pure, Except.ok.injEq]
  rfl

/-- Where tidying succeeds, nothing is shown. -/
theorem tidyWith_eq_pure (h : (tidyWith onCode lines).result = .ok out) :
    tidyWith onCode lines = pure out := by
  rw [tidyWith, Run.result_bind_eq_ok] at h
  obtain ⟨blocks, hblocks, hout⟩ := h
  -- The only notes are those of a block that fails.
  rw [tidyWith, Run.mapM_eq_pure ?_ hblocks, pure_bind]
  · rw [Run.result_pure, Except.ok.injEq] at hout
    rw [hout]
  · intro block ls hls
    rw [Run.result_onFailure, Run.result_ofExcept] at hls
    rw [Run.onFailure_of_ok hls, hls]
    rfl

theorem exists_tidyWith (h : ∀ p ∈ piecesIn lines, ∃ code, onCode p.input = .ok code) :
    ∃ out, tidyWith onCode lines = pure out := by
  have hblocks : ∀ block ∈ paragraphs lines, ∃ ls, tidyBlock onCode block = .ok ls := by
    intro block hblock
    obtain ⟨ps, hps⟩ := exists_piecesOf (ne_nil_of_mem_paragraphs hblock)
    have hcode : ∀ p ∈ ps, ∃ q, Rewrites onCode p q := by
      intro p hp
      obtain ⟨code, hcode⟩ := h p (mem_piecesIn hblock hps hp)
      exact ⟨⟨code, p.output⟩, hcode, rfl⟩
    obtain ⟨qs, hqs⟩ := exists_forall₂ hcode
    exact ⟨_, tidyBlock_eq_ok_iff.mpr ⟨ps, qs, hps, hqs, rfl⟩⟩
  obtain ⟨blocks, hblocks⟩ := exists_forall₂ hblocks
  exact ⟨_, tidyWith_eq_pure (result_tidyWith_iff.mpr ⟨blocks, hblocks, rfl⟩)⟩

end DocTidy.Example
