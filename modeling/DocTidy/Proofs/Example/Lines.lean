import DocTidy.Proofs.Example.Tidying

/-!
# Example lines that come back

If all code stays as it is, tidying changes no line but those that continue a code input under the first prompt,
and no blank line but those at the ends and next to another one.  Which lines these are is said of the lines
above them and not of the reader: `readsCode` tells from the lines of a block what the reader has come to.
-/

namespace DocTidy.Example

open Text Document

variable {ps : List Piece} {above seen block input output rest lines : List Text} {line : Text}
  {inCode : Bool} {onCode : List Text → Except Error (List Text)}

/-! ## Lines that continue an input

Lines above a line are listed from the nearest one up. -/

/-- The block begins with a prompt. -/
def isSession (seen : List Text) : Bool := seen.getLast?.any (startsWith · ">>>")

/-- The nearest line is a code line: above it, past lines under the second prompt, comes one under the first. -/
def readsCode (seen : List Text) : Bool :=
  (seen.find? fun l => !startsWith l "... ").any (startsWith · ">>> ")

/-- The line begins with the first prompt, although it stands directly below a code line. -/
def continuesInput (above : List Text) (line : Text) : Bool :=
  let seen := above.takeWhile fun l => !isBlank l
  startsWith line ">>> " && isSession seen && readsCode seen

/-- The lines with the second prompt wherever one of them continues an input. -/
def renewedBelow (above : List Text) : List Text → List Text
  | [] => []
  | line :: rest =>
    (if continuesInput above line then "... " ++ line.drop 4 else line) :: renewedBelow (line :: above) rest

def renewed (lines : List Text) : List Text := renewedBelow [] lines

theorem readsCode_cons (line : Text) (seen : List Text) : readsCode (line :: seen) =
    (startsWith line ">>> " || startsWith line "... " && readsCode seen) := by
  unfold readsCode
  rw [List.find?_cons]
  cases hmore : startsWith line "... " with
  | false => simp
  | true =>
    -- The search goes on above the line, which is not under the first prompt.
    cases hprompt : startsWith line ">>> " with
    | false => simp
    | true =>
      rw [not_continued_of_prompted hprompt] at hmore
      cases hmore

theorem isSession_cons (hseen : seen ≠ []) (line : Text) : isSession (line :: seen) = isSession seen := by
  rw [isSession, List.getLast?_cons_of_ne_nil hseen, isSession]

theorem continuesInput_of_inked (hseen : ∀ l ∈ seen, isBlank l = false) (line : Text) :
    continuesInput seen line = (startsWith line ">>> " && isSession seen && readsCode seen) := by
  have hrun : seen.takeWhile (fun l => !isBlank l) = seen := by
    apply List.takeWhile_eq_self_iff.mpr
    intro l hl
    rw [hseen l hl]
    rfl
  rw [continuesInput, hrun]

/-! ## Blocks -/

/-- In a text without a prompt at its beginning no line changes. -/
theorem renewedBelow_of_text (hne : seen ≠ []) (hseen : ∀ l ∈ seen, isBlank l = false)
    (hsession : isSession seen = false) (hrest : ∀ l ∈ rest, isBlank l = false) :
    renewedBelow seen rest = rest := by
  induction rest generalizing seen with
  | nil => rfl
  | cons line rest ih =>
    obtain ⟨hline, hrest⟩ := List.forall_mem_cons.mp hrest
    have hmore := ih (List.cons_ne_nil line seen) (List.forall_mem_cons.mpr ⟨hline, hseen⟩)
      ((isSession_cons hne line).trans hsession) hrest
    rw [renewedBelow, hmore, continuesInput_of_inked hseen, hsession]
    simp

/-- The reader of a session has come to this state below the lines it has seen.  In code, the piece begun has
code and no output yet. -/
structure ReaderAt (seen : List Text) (inCode : Bool) (input output : List Text) : Prop where
  ne_nil : seen ≠ []
  inked : ∀ l ∈ seen, isBlank l = false
  session : isSession seen = true
  reads : readsCode seen = inCode
  begun : inCode = true → input ≠ [] ∧ output = []

theorem ReaderAt.inked_cons (h : ReaderAt seen inCode input output) (hline : isBlank line = false) :
    ∀ l ∈ line :: seen, isBlank l = false := by
  rw [List.forall_mem_cons]
  exact ⟨hline, h.inked⟩

theorem ReaderAt.session_cons (h : ReaderAt seen inCode input output) (line : Text) :
    isSession (line :: seen) = true := (isSession_cons h.ne_nil line).trans h.session

theorem ReaderAt.continuesInput_eq (h : ReaderAt seen inCode input output) (line : Text) :
    continuesInput seen line = (startsWith line ">>> " && inCode) := by
  rw [continuesInput_of_inked h.inked, h.session, h.reads, Bool.and_true]

/-- Below a line under the first prompt the reader is in code, whatever it has seen before. -/
theorem readerAt_prompted (hinked : ∀ l ∈ line :: seen, isBlank l = false)
    (hsession : isSession (line :: seen) = true) (hprompt : startsWith line ">>> " = true) :
    ReaderAt (line :: seen) true [line.drop 4] [] := by
  refine ⟨List.cons_ne_nil line seen, hinked, hsession, ?_, ?_⟩
  · rw [readsCode_cons, hprompt, Bool.true_or]
  · exact fun _ => ⟨List.cons_ne_nil _ [], rfl⟩

theorem ReaderAt.continued (h : ReaderAt seen true input output) (hline : isBlank line = false)
    (hmore : startsWith line "... " = true ∨ startsWith line ">>> " = true) :
    ReaderAt (line :: seen) true (input ++ [line.drop 4]) output := by
  refine ⟨List.cons_ne_nil line seen, h.inked_cons hline, h.session_cons line, ?_, ?_⟩
  · rw [readsCode_cons, h.reads, Bool.and_true, Bool.or_comm, Bool.or_eq_true]
    exact hmore
  · exact fun _ => ⟨by simp, (h.begun rfl).2⟩

theorem ReaderAt.shown (h : ReaderAt seen inCode input output) (hline : isBlank line = false)
    (hprompt : startsWith line ">>> " = false) (hmore : inCode = true → startsWith line "... " = false) :
    ReaderAt (line :: seen) false input (output ++ [line]) := by
  refine ⟨List.cons_ne_nil line seen, h.inked_cons hline, h.session_cons line, ?_, ?_⟩
  · rw [readsCode_cons, hprompt, h.reads, Bool.false_or]
    cases inCode with
    | false => exact Bool.and_false _
    | true => rw [hmore rfl, Bool.false_and]
  · intro hcode
    cases hcode

/-- A session is printed with its prompts renewed. -/
theorem printed_sessionPieces (h : ReaderAt seen inCode input output) (hrest : ∀ l ∈ rest, isBlank l = false) :
    printed (sessionPieces inCode input output rest) =
      withPrompts input ++ output ++ renewedBelow seen rest := by
  induction rest generalizing inCode input output seen with
  | nil =>
    rw [renewedBelow, List.append_nil]
    exact printed_finished input output
  | cons line rest ih =>
    obtain ⟨hline, hrest⟩ := List.forall_mem_cons.mp hrest
    rw [renewedBelow, h.continuesInput_eq]
    obtain ⟨rfl, hprompt⟩ | ⟨rfl, hmore⟩ | ⟨hprompt, hmore⟩ := line_cases inCode line
    · -- A new input begins; its first line keeps its prompt.
      have hnext := ih (readerAt_prompted (h.inked_cons hline) (h.session_cons line) hprompt) hrest
      obtain ⟨code, rfl⟩ := exists_of_startsWith hprompt
      rw [sessionPieces_prompted hprompt, printed_append, printed_finished, hnext, Bool.and_false]
      rfl
    · -- The input goes on, under the second prompt whichever one the line had.
      obtain ⟨hinput, rfl⟩ := h.begun rfl
      have hnext := ih (h.continued hline hmore) hrest
      have hsame : (if startsWith line ">>> " && true then "... " ++ line.drop 4 else line) =
          ("... " ++ line.drop 4 : Text) := by
        obtain hmore | hprompt := hmore
        · obtain ⟨code, rfl⟩ := exists_of_startsWith hmore
          rfl
        · rw [hprompt]
          rfl
      rw [sessionPieces_continued hmore, hnext, withPrompts_concat hinput, hsame, List.append_nil,
        List.append_nil, List.append_assoc]
      rfl
    · -- An output line stays, also under the second prompt.
      have hnext := ih (h.shown hline hprompt hmore) hrest
      rw [sessionPieces_output hprompt hmore, hnext, hprompt, Bool.false_and]
      simp

/-- A block is printed with its prompts renewed. -/
theorem printed_of_piecesOf (hblock : ∀ l ∈ block, isBlank l = false) (h : piecesOf block = .ok ps) :
    printed ps = renewed block := by
  cases block with
  | nil => cases h
  | cons first rest =>
    obtain ⟨hfirst, hrest⟩ := List.forall_mem_cons.mp hblock
    have hseen : ∀ l ∈ [first], isBlank l = false := by simpa using hfirst
    have hrenewed : renewed (first :: rest) = first :: renewedBelow [first] rest := by
      rw [renewed, renewedBelow, continuesInput_of_inked (by simp)]
      simp [isSession]
    have hstart : isSession [first] = startsWith first ">>>" := rfl
    rw [hrenewed]
    rw [piecesOf] at h
    split at h
    · rename_i hsession
      cases h
      cases hprompt : startsWith first ">>> " with
      | true =>
        have hreader := readerAt_prompted hseen (hstart.trans hsession) hprompt
        rw [sessionPieces_prompted hprompt, printed_append, printed_sessionPieces hreader hrest]
        obtain ⟨code, rfl⟩ := exists_of_startsWith hprompt
        rfl
      | false =>
        have hreader : ReaderAt [first] false [] [first] := by
          refine ⟨List.cons_ne_nil first [], hseen, hstart.trans hsession, ?_, ?_⟩
          · rw [readsCode_cons, hprompt, Bool.false_or]
            exact Bool.and_false _
          · intro hcode
            cases hcode
        rw [sessionPieces_output hprompt (by simp)]
        exact printed_sessionPieces hreader hrest
    · rename_i hsession
      cases h
      rw [renewedBelow_of_text (List.cons_ne_nil first []) hseen (by simpa [hstart] using hsession) hrest]
      exact List.flatMap_singleton Piece.lines _

/-! ## All lines -/

theorem exists_of_continuesInput (h : continuesInput above line = true) : ∃ code : Text, line = ">>> " ++ code := by
  simp only [continuesInput, Bool.and_eq_true] at h
  exact exists_of_startsWith h.1.1

theorem isBlank_renewedLine (above : List Text) (line : Text) :
    isBlank (if continuesInput above line then "... " ++ line.drop 4 else line) = isBlank line := by
  split
  · rename_i h
    obtain ⟨code, rfl⟩ := exists_of_continuesInput h
    rfl
  · rfl

/-- Line for line, what was blank stays blank and what was not does not become so. -/
theorem map_isBlank_renewedBelow (above lines : List Text) :
    (renewedBelow above lines).map isBlank = lines.map isBlank := by
  induction lines generalizing above with
  | nil => rfl
  | cons line rest ih => rw [renewedBelow, List.map_cons, List.map_cons, ih, isBlank_renewedLine]

/-- Of the lines above, only those of the same block matter. -/
theorem renewedBelow_congr {above' : List Text}
    (h : above.takeWhile (fun l => !isBlank l) = above'.takeWhile fun l => !isBlank l) (lines : List Text) :
    renewedBelow above lines = renewedBelow above' lines := by
  induction lines generalizing above above' with
  | nil => rfl
  | cons line rest ih =>
    have hline : continuesInput above line = continuesInput above' line := by
      rw [continuesInput, continuesInput, h]
    have hmore : (line :: above).takeWhile (fun l => !isBlank l) =
        (line :: above').takeWhile fun l => !isBlank l := by
      rw [List.takeWhile_cons, List.takeWhile_cons, h]
    rw [renewedBelow, renewedBelow, hline, ih hmore]

theorem renewedBelow_append (above ls rest : List Text) :
    renewedBelow above (ls ++ rest) = renewedBelow above ls ++ renewedBelow (ls.reverse ++ above) rest := by
  induction ls generalizing above with
  | nil => rfl
  | cons line ls ih =>
    rw [List.cons_append, renewedBelow, renewedBelow, ih, List.reverse_cons, List.append_assoc]
    rfl

/-- Behind a blank line everything begins anew. -/
theorem renewedBelow_cons_blank (hline : isBlank line = true) (above rest : List Text) :
    renewedBelow above (line :: rest) = line :: renewed rest := by
  have hstays : continuesInput above line = false := by
    cases hcontinues : continuesInput above line with
    | false => rfl
    | true =>
      obtain ⟨code, rfl⟩ := exists_of_continuesInput hcontinues
      cases hline
  have hanew : (line :: above).takeWhile (fun l => !isBlank l) = [].takeWhile fun l => !isBlank l := by
    rw [List.takeWhile_cons, hline]
    rfl
  rw [renewedBelow, hstays, renewedBelow_congr hanew, renewed]
  rfl

theorem isBlank_of_mem_renewed (hls : ∀ l ∈ lines, isBlank l = false) : ∀ l ∈ renewed lines, isBlank l = false := by
  intro l hl
  have hmem : isBlank l ∈ lines.map isBlank := by
    rw [← map_isBlank_renewedBelow [] lines]
    exact List.mem_map_of_mem hl
  obtain ⟨k, hk, hkl⟩ := List.mem_map.mp hmem
  rw [← hkl, hls k hk]

theorem paragraphs_of_run (hls : ∀ l ∈ lines, isBlank l = false) :
    paragraphs (renewed lines) = (paragraphs lines).map renewed := by
  cases lines with
  | nil => rfl
  | cons line rest =>
    have hne : renewed (line :: rest) ≠ [] := List.cons_ne_nil _ _
    rw [paragraphs_of_inked hne (isBlank_of_mem_renewed hls), paragraphs_of_inked (List.cons_ne_nil line rest) hls,
      List.map_singleton]

/-- Lines are renewed block by block. -/
theorem paragraphs_renewed (lines : List Text) : paragraphs (renewed lines) = (paragraphs lines).map renewed := by
  induction lines using runs_induction with
  | run ls hls => exact paragraphs_of_run hls
  | blank ls l rest hls hl ih =>
    rw [renewed, renewedBelow_append, renewedBelow_cons_blank hl]
    rw [paragraphs_append_blank hl, paragraphs_append_blank hl, List.map_append, ih]
    exact congrArg (· ++ _) (paragraphs_of_run hls)

theorem tidyBlock_of_kept (hblock : block ∈ paragraphs lines)
    (hcode : ∀ p ∈ piecesIn lines, onCode p.input = .ok p.input) :
    tidyBlock onCode block = .ok (renewed block) := by
  obtain ⟨ps, hps⟩ := exists_piecesOf (ne_nil_of_mem_paragraphs hblock)
  have hinked : ∀ l ∈ block, isBlank l = false := fun l hl => (mem_of_mem_paragraphs hblock hl).2
  have hkept : List.Forall₂ (Rewrites onCode) ps ps := by
    apply List.forall₂_same.mpr
    intro p hp
    exact ⟨hcode p (mem_piecesIn hblock hps hp), rfl⟩
  exact tidyBlock_eq_ok_iff.mpr ⟨ps, ps, hps, hkept, printed_of_piecesOf hinked hps⟩

/-- **Where code stays as it is, no line is lost.**  The lines that are not blank come back in order, each as it was
or, if it continues a code input under the first prompt, under the second one.  One empty line stands where blank
lines stood between two of them, and there are no others. -/
theorem tidyWith_keeps_lines (hcode : ∀ p ∈ piecesIn lines, onCode p.input = .ok p.input) :
    ∃ out, tidyWith onCode lines = pure out ∧
      (out.filter fun l => !isBlank l) = ((renewed lines).filter fun l => !isBlank l) ∧
      (renewed lines).map isBlank = lines.map isBlank ∧
      out = joinParagraphs (paragraphs (renewed lines)) := by
  have hblocks : List.Forall₂ (fun block ls => tidyBlock onCode block = .ok ls) (paragraphs lines)
      ((paragraphs lines).map renewed) := by
    rw [List.forall₂_map_right_iff]
    exact List.forall₂_same.mpr fun block hblock => tidyBlock_of_kept hblock hcode
  have hresult := result_tidyWith_iff.mpr ⟨_, hblocks, rfl⟩
  rw [← paragraphs_renewed] at hresult
  refine ⟨_, tidyWith_eq_pure hresult, ?_, map_isBlank_renewedBelow [] lines, rfl⟩
  rw [← flatten_paragraphs, ← flatten_paragraphs, (areParagraphs_paragraphs _).paragraphs_joinParagraphs]

/-- An input under the first prompt only, one below a line that merely looks like a prompt, and prompts in a text. -/
def lesson : List Text :=
  [" ", ">>>  a", ">>> b", "... c", ">>>", ">>> d", ">>> e", "", "  ", "Text", ">>> x", ">>> y", "",
    ">>>z", "... w", ">>> u", ">>> v", ""]

theorem lesson_keeps_lines : ∃ out : List Text, tidyWith Except.ok lesson = pure out ∧
    out = ([">>>  a", "... b", "... c", ">>>", ">>> d", "... e", "", "Text", ">>> x", ">>> y", "",
      ">>>z", "... w", ">>> u", "... v"] : List Text) := by
  have hcode : ∀ p ∈ piecesIn lesson, (Except.ok p.input : Except Error (List Text)) = .ok p.input :=
    fun p _ => rfl
  obtain ⟨out, htidy, -, -, hout⟩ := tidyWith_keeps_lines hcode
  refine ⟨out, htidy, hout.trans ?_⟩
  decide +kernel

end DocTidy.Example
