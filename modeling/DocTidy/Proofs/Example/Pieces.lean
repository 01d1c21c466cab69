import DocTidy.Example
import DocTidy.Proofs.Run
import DocTidy.Proofs.Text.Margin

/-!
# The pieces of example lines

A block of example lines is read as pieces, and each piece is printed as its code lines under prompts with its
output below.  `AreRead` says which lists of pieces a block can be read as: a text, or code inputs that are held
apart by their outputs, perhaps below a text.  Such pieces are read back from their printed lines, also after
every code input has been replaced by other code.
-/

namespace DocTidy.Example

open Text

variable {p : Piece} {ps : List Piece} {input output block : List Text} {line : Text} {inCode : Bool}

/-! ## Prompts -/

theorem exists_of_startsWith {t head : Text} (h : startsWith t head = true) : ∃ r, t = head ++ r := by
  obtain ⟨r, rfl⟩ := List.isPrefixOf_iff_prefix.mp h
  exact ⟨r, rfl⟩

/-- No line is under both prompts. -/
theorem not_continued_of_prompted (h : startsWith line ">>> " = true) : startsWith line "... " = false := by
  obtain ⟨r, rfl⟩ := exists_of_startsWith h
  rfl

theorem withPrompts_concat (hinput : input ≠ []) (line : Text) :
    withPrompts (input ++ [line]) = withPrompts input ++ ["... " ++ line] := by
  cases input with
  | nil => exact absurd rfl hinput
  | cons first rest =>
    rw [List.cons_append, withPrompts, withPrompts, List.map_append]
    rfl

theorem isBlank_of_mem_withPrompts (h : line ∈ withPrompts input) : isBlank line = false := by
  cases input with
  | nil => cases h
  | cons first rest =>
    rw [withPrompts, List.mem_cons, List.mem_map] at h
    obtain rfl | ⟨code, -, rfl⟩ := h
    · rfl
    · rfl

/-! ## The steps of a session -/

theorem finished_of_input (h : input ≠ []) (output : List Text) : finished input output = [⟨input, output⟩] := by
  simp [finished, h]

/-- Below an output, a line under the first prompt starts a new piece. -/
theorem sessionPieces_prompted (h : startsWith line ">>> " = true) (input output rest : List Text) :
    sessionPieces false input output (line :: rest) =
      finished input output ++ sessionPieces true [line.drop 4] [] rest := by
  rw [sessionPieces, h]
  rfl

/-- Below a code line, a line under either prompt continues the input. -/
theorem sessionPieces_continued (h : startsWith line "... " = true ∨ startsWith line ">>> " = true)
    (input output rest : List Text) :
    sessionPieces true input output (line :: rest) = sessionPieces true (input ++ [line.drop 4]) output rest := by
  have hmore : (startsWith line "... " || startsWith line ">>> ") = true := by
    rw [Bool.or_eq_true]
    exact h
  rw [sessionPieces, hmore, Bool.not_true, Bool.and_false]
  rfl

theorem sessionPieces_output (hprompt : startsWith line ">>> " = false)
    (hmore : inCode = true → startsWith line "... " = false) (input output rest : List Text) :
    sessionPieces inCode input output (line :: rest) = sessionPieces false input (output ++ [line]) rest := by
  rw [sessionPieces, hprompt]
  cases inCode with
  | false =>
    rw [Bool.and_false]
    rfl
  | true =>
    rw [hmore rfl]
    rfl

/-- What a line of a session does: it starts an input, continues one, or is output. -/
theorem line_cases (inCode : Bool) (line : Text) :
    (inCode = false ∧ startsWith line ">>> " = true) ∨
      (inCode = true ∧ (startsWith line "... " = true ∨ startsWith line ">>> " = true)) ∨
      (startsWith line ">>> " = false ∧ (inCode = true → startsWith line "... " = false)) := by
  cases inCode <;> cases startsWith line ">>> " <;> cases startsWith line "... " <;> simp

/-! ## Printing -/

/-- The lines that a piece is printed as. -/
def Piece.lines (p : Piece) : List Text := withPrompts p.input ++ p.output

def printed (ps : List Piece) : List Text := ps.flatMap Piece.lines

theorem printed_cons (p : Piece) (ps : List Piece) : printed (p :: ps) = p.lines ++ printed ps := List.flatMap_cons

theorem printed_append (ps qs : List Piece) : printed (ps ++ qs) = printed ps ++ printed qs := List.flatMap_append

theorem printed_finished (input output : List Text) :
    printed (finished input output) = withPrompts input ++ output := by
  unfold finished
  split
  · rename_i h
    obtain ⟨rfl, rfl⟩ : input = [] ∧ output = [] := by simpa using h
    rfl
  · exact List.flatMap_singleton Piece.lines _

/-! ## Pieces that are read -/

/-- The piece is a code input with an output below that is read neither as more of the input nor as the start
of another one. -/
structure Piece.IsInput (p : Piece) : Prop where
  hasCode : p.input ≠ []
  unprompted : ∀ l ∈ p.output, startsWith l ">>> " = false
  ends : ∀ l, p.output.head? = some l → startsWith l "... " = false

theorem isInput_of_code (h : input ≠ []) : Piece.IsInput ⟨input, []⟩ :=
  ⟨h, fun l hl => absurd hl List.not_mem_nil, fun l hl => by cases hl⟩

/-- One more line of output; the first one must not continue the input. -/
theorem Piece.IsInput.concat (hp : Piece.IsInput ⟨input, output⟩) (hprompt : startsWith line ">>> " = false)
    (hmore : output = [] → startsWith line "... " = false) : Piece.IsInput ⟨input, output ++ [line]⟩ := by
  constructor
  · exact hp.hasCode
  · exact List.forall_mem_append.mpr ⟨hp.unprompted, by simpa using hprompt⟩
  · intro l hl
    cases output with
    | nil =>
      obtain rfl : line = l := by simpa using hl
      exact hmore rfl
    | cons k ks => exact hp.ends l hl

/-- Code inputs that follow one another: all but the last have an output. -/
inductive AreInputs : List Piece → Prop
  | nil : AreInputs []
  | last {p : Piece} (hp : p.IsInput) : AreInputs [p]
  | cons {p : Piece} {ps : List Piece} (hp : p.IsInput) (hout : p.output ≠ []) (hps : AreInputs ps) :
      AreInputs (p :: ps)

/-- The pieces that a block can be read as. -/
inductive AreRead : List Piece → Prop
  | text {l : Text} {ls : List Text} (hl : startsWith l ">>>" = false) : AreRead [⟨[], l :: ls⟩]
  | session {p : Piece} {ps : List Piece} (hps : AreInputs (p :: ps)) : AreRead (p :: ps)
  | led {l : Text} {ls : List Text} {ps : List Piece} (hl : startsWith l ">>>" = true)
      (hls : ∀ k ∈ l :: ls, startsWith k ">>> " = false) (hps : AreInputs ps) :
      AreRead (⟨[], l :: ls⟩ :: ps)

/-- An input begun is finished, and inputs follow it. -/
theorem exists_areInputs (hp : Piece.IsInput ⟨input, output⟩) (hcode : inCode = output.isEmpty)
    (rest : List Text) :
    ∃ p ps, sessionPieces inCode input output rest = p :: ps ∧ AreInputs (p :: ps) := by
  -- On the lines to come; the flag says whether the output of the input begun is still empty.
  induction rest generalizing inCode input output with
  | nil => exact ⟨_, [], finished_of_input hp.hasCode output, .last hp⟩
  | cons line rest ih =>
    obtain ⟨rfl, hprompt⟩ | ⟨rfl, hmore⟩ | ⟨hprompt, hmore⟩ := line_cases inCode line
    · -- A new input ends the one begun, which has an output by now.
      have hout : output ≠ [] := by
        rintro rfl
        cases hcode
      obtain ⟨q, qs, hqs, hinputs⟩ :
          ∃ q qs, sessionPieces true [line.drop 4] [] rest = q :: qs ∧ AreInputs (q :: qs) :=
        ih (isInput_of_code (List.cons_ne_nil _ [])) rfl
      refine ⟨_, q :: qs, ?_, .cons hp hout hinputs⟩
      rw [sessionPieces_prompted hprompt, finished_of_input hp.hasCode, hqs]
      rfl
    · obtain rfl : output = [] := List.isEmpty_iff.mp hcode.symm
      rw [sessionPieces_continued hmore]
      exact ih (isInput_of_code (by simp)) rfl
    · rw [sessionPieces_output hprompt hmore]
      apply ih
      · apply hp.concat hprompt
        rintro rfl
        exact hmore hcode
      · simp

theorem exists_areInputs_below (line : Text) (rest : List Text) :
    ∃ p ps, sessionPieces true [line.drop 4] [] rest = p :: ps ∧ AreInputs (p :: ps) :=
  exists_areInputs (isInput_of_code (List.cons_ne_nil _ [])) rfl rest

/-- Text above the first input stays text until a line under the first prompt comes. -/
theorem areRead_sessionPieces {l : Text} {ls : List Text} (hl : startsWith l ">>>" = true)
    (hls : ∀ k ∈ l :: ls, startsWith k ">>> " = false) (rest : List Text) :
    AreRead (sessionPieces false [] (l :: ls) rest) := by
  induction rest generalizing ls with
  | nil => exact .led hl hls .nil
  | cons line rest ih =>
    cases hprompt : startsWith line ">>> " with
    | true =>
      obtain ⟨q, qs, hqs, hinputs⟩ := exists_areInputs_below line rest
      rw [sessionPieces_prompted hprompt, hqs]
      exact .led hl hls hinputs
    | false =>
      rw [sessionPieces_output hprompt (by simp)]
      apply ih
      show ∀ k ∈ (l :: ls) ++ [line], startsWith k ">>> " = false
      exact List.forall_mem_append.mpr ⟨hls, by simpa using hprompt⟩

theorem areRead_of_piecesOf (h : piecesOf block = .ok ps) : AreRead ps := by
  cases block with
  | nil => cases h
  | cons first rest =>
    rw [piecesOf] at h
    split at h
    · rename_i hfirst
      cases h
      cases hprompt : startsWith first ">>> " with
      | true =>
        obtain ⟨q, qs, hqs, hinputs⟩ := exists_areInputs_below first rest
        rw [sessionPieces_prompted hprompt, hqs]
        exact .session hinputs
      | false =>
        rw [sessionPieces_output hprompt (by simp)]
        exact areRead_sessionPieces hfirst (by simpa using hprompt) rest
    · rename_i hfirst
      cases h
      exact .text (by simpa using hfirst)

/-! ## Reading printed pieces -/

theorem sessionPieces_append_code (code input output rest : List Text) :
    sessionPieces true input output ((code.map fun line : Text => "... " ++ line) ++ rest) =
      sessionPieces true (input ++ code) output rest := by
  induction code generalizing input with
  | nil => simp
  | cons line code ih =>
    have hmore : startsWith ("... " ++ line) "... " = true := rfl
    rw [List.map_cons, List.cons_append, sessionPieces_continued (.inl hmore), ih, List.append_assoc]
    rfl

theorem sessionPieces_append_output {out : List Text} (hout : ∀ l ∈ out, startsWith l ">>> " = false)
    (input output rest : List Text) :
    sessionPieces false input output (out ++ rest) = sessionPieces false input (output ++ out) rest := by
  induction out generalizing output with
  | nil => simp
  | cons line out ih =>
    obtain ⟨hline, hrest⟩ := List.forall_mem_cons.mp hout
    rw [List.cons_append, sessionPieces_output hline (by simp), ih hrest, List.append_assoc]
    rfl

/-- The lines of a code input are read as that input. -/
theorem sessionPieces_append_input (hp : p.IsInput) (input output rest : List Text) :
    sessionPieces false input output (p.lines ++ rest) =
      finished input output ++ sessionPieces p.output.isEmpty p.input p.output rest := by
  obtain ⟨_ | ⟨first, code⟩, out⟩ := p
  · exact absurd rfl hp.hasCode
  · have hprompt : startsWith (">>> " ++ first) ">>> " = true := rfl
    show sessionPieces false input output (withPrompts (first :: code) ++ out ++ rest) = _
    rw [withPrompts, List.append_assoc, List.cons_append, sessionPieces_prompted hprompt, sessionPieces_append_code]
    congr 1
    -- The code has been read; what is left is the output, if there is any.
    cases out with
    | nil => rfl
    | cons line out =>
      obtain ⟨hline, hout⟩ := List.forall_mem_cons.mp hp.unprompted
      show sessionPieces true (first :: code) [] (line :: (out ++ rest)) = _
      rw [sessionPieces_output hline fun _ => hp.ends line rfl, sessionPieces_append_output hout]
      rfl

/-- Code inputs are read back behind whatever piece was begun. -/
theorem AreInputs.sessionPieces_printed (h : AreInputs ps) (input output : List Text) :
    sessionPieces false input output (printed ps) = finished input output ++ ps := by
  induction h generalizing input output with
  | nil => simp [printed, sessionPieces]
  | @last p hp =>
    rw [printed_cons, sessionPieces_append_input hp]
    congr 1
    exact finished_of_input hp.hasCode p.output
  | @cons p ps hp hout hps ih =>
    have hempty : p.output.isEmpty = false := by simpa using hout
    rw [printed_cons, sessionPieces_append_input hp, hempty, ih, finished_of_input hp.hasCode]
    rfl

/-- The first line of code inputs is under the first prompt. -/
theorem AreInputs.exists_printed (h : AreInputs (p :: ps)) :
    ∃ (code : Text) (rest : List Text), printed (p :: ps) = (">>> " ++ code) :: rest := by
  have hp : p.input ≠ [] := by
    cases h with
    | last hp => exact hp.hasCode
    | cons hp => exact hp.hasCode
  obtain ⟨code, more, hinput⟩ := List.exists_cons_of_ne_nil hp
  rw [printed_cons, Piece.lines, hinput, withPrompts]
  exact ⟨code, _, rfl⟩

/-- **Pieces are read back from their lines.** -/
theorem AreRead.piecesOf_printed (h : AreRead ps) : piecesOf (printed ps) = .ok ps := by
  cases h with
  | @text l ls hl =>
    show piecesOf (l :: (ls ++ [])) = _
    rw [List.append_nil, piecesOf, hl]
    rfl
  | @session p ps hps =>
    have hread := hps.sessionPieces_printed [] []
    obtain ⟨code, rest, hlines⟩ := hps.exists_printed
    have hfirst : startsWith (">>> " ++ code) ">>>" = true := rfl
    rw [hlines] at hread ⊢
    rw [piecesOf, hfirst, if_pos rfl, hread]
    rfl
  | @led l ls ps hl hls hps =>
    have hread : sessionPieces false [] [] ((l :: ls) ++ printed ps) = ⟨[], l :: ls⟩ :: ps := by
      rw [sessionPieces_append_output hls, hps.sessionPieces_printed]
      rfl
    rw [printed_cons]
    show piecesOf (l :: (ls ++ printed ps)) = _
    rw [piecesOf, hl, if_pos rfl]
    rw [List.cons_append] at hread
    rw [hread]

end DocTidy.Example
