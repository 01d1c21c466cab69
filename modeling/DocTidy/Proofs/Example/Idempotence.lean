import DocTidy.Proofs.Example.Tidying

/-!
# Tidying example lines again

Tidied lines are read as the same blocks and the same pieces, with the code that the formatter wrote in place of
the old one: an output line still stands below a code line and is not taken for code.  So a second run changes
nothing if the formatter leaves its own code alone.
-/

namespace DocTidy.Example

open Text Document

variable {p q : Piece} {ps qs : List Piece} {block input output rest lines out : List Text} {l : Text}
  {inCode : Bool} {onCode : List Text → Except Error (List Text)} {format : CodeFormatter}

/-- Code that was rewritten is left alone, no code stays no code, and code that shows is never lost. -/
structure Settles (onCode : List Text → Except Error (List Text)) : Prop where
  nil : onCode [] = .ok []
  again : ∀ code out, onCode code = .ok out → onCode out = .ok out
  shows : ∀ code out, onCode code = .ok out → (∃ l ∈ code, isBlank l = false) → out ≠ []

/-! ## Rewritten pieces -/

theorem Rewrites.eq_of_text (hnil : onCode [] = .ok []) (h : Rewrites onCode ⟨[], output⟩ q) :
    q = ⟨[], output⟩ := by
  have hinput : [] = q.input := Except.ok.inj (hnil.symm.trans h.input_eq)
  have houtput : q.output = output := h.output_eq
  rw [hinput, ← houtput]

theorem Piece.IsInput.rewritten (hp : p.IsInput) (h : Rewrites onCode p q) (hcode : q.input ≠ []) :
    q.IsInput := by
  constructor
  · exact hcode
  · rw [h.output_eq]
    exact hp.unprompted
  · rw [h.output_eq]
    exact hp.ends

/-- No code input becomes one without code. -/
def KeepsInputs (onCode : List Text → Except Error (List Text)) (ps : List Piece) : Prop :=
  ∀ p ∈ ps, p.input ≠ [] → ∀ code, onCode p.input = .ok code → code ≠ []

theorem AreInputs.rewritten (h : AreInputs ps) (hkeeps : KeepsInputs onCode ps)
    (hqs : List.Forall₂ (Rewrites onCode) ps qs) : AreInputs qs := by
  induction h generalizing qs with
  | nil =>
    cases hqs
    exact .nil
  | @last p hp =>
    cases hqs with
    | cons hq hnil =>
      cases hnil
      have hcode := hkeeps p List.mem_cons_self hp.hasCode _ hq.input_eq
      exact .last (hp.rewritten hq hcode)
  | @cons p ps hp hout hps ih =>
    cases hqs with
    | cons hq hqs =>
      have hcode := hkeeps p List.mem_cons_self hp.hasCode _ hq.input_eq
      apply AreInputs.cons (hp.rewritten hq hcode)
      · rwa [hq.output_eq]
      · exact ih (fun p' hp' => hkeeps p' (List.mem_cons_of_mem p hp')) hqs

/-- New code in place of the old leaves the kind of every piece as it was. -/
theorem AreRead.rewritten (h : AreRead ps) (hnil : onCode [] = .ok []) (hkeeps : KeepsInputs onCode ps)
    (hqs : List.Forall₂ (Rewrites onCode) ps qs) : AreRead qs := by
  cases h with
  | text hl =>
    cases hqs with
    | cons hq hrest =>
      cases hrest
      rw [hq.eq_of_text hnil]
      exact .text hl
  | session hps =>
    have hinputs := hps.rewritten hkeeps hqs
    cases hqs with
    | cons hq hqs => exact .session hinputs
  | led hl hls hps =>
    cases hqs with
    | cons hq hqs =>
      rw [hq.eq_of_text hnil]
      exact .led hl hls (hps.rewritten (fun p hp => hkeeps p (List.mem_cons_of_mem _ hp)) hqs)

/-! ## Lines that show -/

theorem eq_of_mem_finished (h : p ∈ finished input output) : p = ⟨input, output⟩ := by
  unfold finished at h
  split at h
  · cases h
  · exact List.mem_singleton.mp h

/-- The reader makes output of nothing but the lines it is given. -/
theorem mem_of_mem_sessionPieces (hp : p ∈ sessionPieces inCode input output rest) (hl : l ∈ p.output) :
    l ∈ output ∨ l ∈ rest := by
  induction rest generalizing inCode input output with
  | nil =>
    rw [eq_of_mem_finished hp] at hl
    exact .inl hl
  | cons line rest ih =>
    obtain ⟨rfl, hprompt⟩ | ⟨rfl, hmore⟩ | ⟨hprompt, hmore⟩ := line_cases inCode line
    · rw [sessionPieces_prompted hprompt, List.mem_append] at hp
      obtain hp | hp := hp
      · rw [eq_of_mem_finished hp] at hl
        exact .inl hl
      · exact .inr (List.mem_cons_of_mem line ((ih hp).resolve_left List.not_mem_nil))
    · rw [sessionPieces_continued hmore] at hp
      exact (ih hp).imp_right (List.mem_cons_of_mem line)
    · rw [sessionPieces_output hprompt hmore] at hp
      obtain hmem | hmem := ih hp
      · obtain hmem | hmem := List.mem_append.mp hmem
        · exact .inl hmem
        · rw [List.mem_singleton.mp hmem]
          exact .inr List.mem_cons_self
      · exact .inr (List.mem_cons_of_mem line hmem)

theorem mem_of_mem_output (h : piecesOf block = .ok ps) (hp : p ∈ ps) (hl : l ∈ p.output) : l ∈ block := by
  cases block with
  | nil => cases h
  | cons first rest =>
    rw [piecesOf] at h
    split at h
    · cases h
      have hmem := mem_of_mem_sessionPieces hp hl
      simpa using hmem
    · cases h
      rw [List.mem_singleton.mp hp] at hl
      exact hl

/-- No tidied line is blank: it is under a prompt, or it is an output line of the block. -/
theorem isBlank_of_mem_printed (h : piecesOf block = .ok ps) (hblock : ∀ l ∈ block, isBlank l = false)
    (hqs : List.Forall₂ (Rewrites onCode) ps qs) : ∀ l ∈ printed qs, isBlank l = false := by
  intro l hl
  obtain ⟨q, hq, hl⟩ := List.mem_flatMap.mp hl
  obtain ⟨p, hp, hrewrites⟩ := exists_of_mem_forall₂ hqs hq
  obtain hl | hl := List.mem_append.mp hl
  · exact isBlank_of_mem_withPrompts hl
  · rw [hrewrites.output_eq] at hl
    exact hblock l (mem_of_mem_output h hp hl)

/-! ## A second run -/

/-- A tidied block is a block, and it is tidied to itself. -/
theorem tidyBlock_again (hsettles : Settles onCode) (hblock : ∀ l ∈ block, isBlank l = false)
    (hkeeps : ∀ ps, piecesOf block = .ok ps → KeepsInputs onCode ps)
    (h : tidyBlock onCode block = .ok out) :
    (out ≠ [] ∧ ∀ l ∈ out, isBlank l = false) ∧ tidyBlock onCode out = .ok out := by
  obtain ⟨ps, qs, hps, hqs, rfl⟩ := tidyBlock_eq_ok_iff.mp h
  have hread := (areRead_of_piecesOf hps).rewritten hsettles.nil (hkeeps ps hps) hqs
  -- The printed lines are read as the rewritten pieces, and these are rewritten to themselves.
  have hpieces := hread.piecesOf_printed
  have hne : printed qs ≠ [] := by
    intro hnil
    rw [hnil] at hpieces
    cases hpieces
  have hsame : List.Forall₂ (Rewrites onCode) qs qs := by
    apply List.forall₂_same.mpr
    intro q hq
    obtain ⟨p, -, hrewrites⟩ := exists_of_mem_forall₂ hqs hq
    exact ⟨hsettles.again _ _ hrewrites.input_eq, rfl⟩
  exact ⟨⟨hne, isBlank_of_mem_printed hps hblock hqs⟩, tidyBlock_eq_ok_iff.mpr ⟨qs, qs, hpieces, hsame, rfl⟩⟩

/-- All code inputs hold a line that is not blank. -/
def InputsShow (lines : List Text) : Prop :=
  ∀ p ∈ piecesIn lines, p.isCode = true → ∃ l ∈ p.input, isBlank l = false

theorem keepsInputs_of_inputsShow (hsettles : Settles onCode) (hshow : InputsShow lines)
    (hblock : block ∈ paragraphs lines) (hps : piecesOf block = .ok ps) : KeepsInputs onCode ps := by
  intro p hp hinput code hcode
  have hisCode : p.isCode = true := by
    rw [Piece.isCode, Bool.not_eq_true', List.isEmpty_eq_false_iff]
    exact hinput
  exact hsettles.shows _ _ hcode (hshow p (mem_piecesIn hblock hps hp) hisCode)

theorem tidyWith_again (hsettles : Settles onCode) (hshow : InputsShow lines)
    (h : (tidyWith onCode lines).result = .ok out) : tidyWith onCode out = pure out := by
  obtain ⟨blocks, hblocks, rfl⟩ := result_tidyWith_iff.mp h
  have hagain : ∀ ls ∈ blocks, (ls ≠ [] ∧ ∀ l ∈ ls, isBlank l = false) ∧ tidyBlock onCode ls = .ok ls := by
    intro ls hls
    obtain ⟨block, hblock, htidy⟩ := exists_of_mem_forall₂ hblocks hls
    have hinked : ∀ l ∈ block, isBlank l = false := fun l hl => (mem_of_mem_paragraphs hblock hl).2
    exact tidyBlock_again hsettles hinked
      (fun ps hps => keepsInputs_of_inputsShow hsettles hshow hblock hps) htidy
  have hparagraphs : AreParagraphs blocks := fun ls hls => (hagain ls hls).1
  apply tidyWith_eq_pure
  apply result_tidyWith_iff.mpr
  refine ⟨blocks, ?_, rfl⟩
  rw [hparagraphs.paragraphs_joinParagraphs]
  exact List.forall₂_same.mpr fun ls hls => (hagain ls hls).2

/-- **Tidying again changes nothing.**  If a formatter leaves its own code alone and every code input holds a line
that is not blank, then a second run gives what the first one gave, also where that is a failure; and the first
run succeeds where the formatter does. -/
theorem tidy_again (hsettles : Settles (tidyCode format)) (hshow : InputsShow lines) :
    (tidy format lines >>= tidy format) = tidy format lines ∧
      ((∀ p ∈ piecesIn lines, ∃ code, tidyCode format p.input = .ok code) →
        ∃ out, tidy format lines = pure out ∧ tidy format out = pure out) := by
  constructor
  · cases hresult : (tidy format lines).result with
    | error e =>
      show (tidy format lines).andThen (tidy format) = _
      rw [Run.andThen, hresult]
      show (⟨(tidy format lines).notes, .error e⟩ : Run (List Text)) = _
      rw [← hresult]
    | ok out =>
      have hfirst : tidy format lines = pure out := tidyWith_eq_pure hresult
      rw [hfirst, pure_bind]
      exact tidyWith_again hsettles hshow hresult
  · intro hcode
    obtain ⟨out, hfirst⟩ := exists_tidyWith hcode
    refine ⟨out, hfirst, tidyWith_again hsettles hshow ?_⟩
    rw [hfirst]
    rfl

/-! ## A formatter that settles -/

/-- Drops the white space at the end of the code. -/
def trimming : CodeFormatter := fun code => some (stripRight code)

theorem exists_unlines_concat (front : List Text) (l : Text) : ∃ above, unlines (front ++ [l]) = above ++ l := by
  induction front with
  | nil => exact ⟨[], List.intercalate_singleton⟩
  | cons k front ih =>
    obtain ⟨above, habove⟩ := ih
    have hne : front ++ [l] ≠ [] := by simp
    refine ⟨k ++ '\n' :: above, ?_⟩
    unfold unlines at habove ⊢
    rw [List.cons_append, List.intercalate_cons_of_ne_nil hne, habove]
    simp

/-- The lines of a stripped text are joined to a stripped text and found again. -/
theorem splitLines_stripRight_again (t : Text) :
    splitLines (stripRight (unlines (splitLines (stripRight t)))) = splitLines (stripRight t) := by
  have hstripped : stripRight (stripRight t) = stripRight t := List.rdropWhile_idempotent isSpace t
  have hlast := stripRight_eq_self_iff.mp hstripped
  obtain hnil | ⟨s, c, hconcat⟩ := List.eq_nil_or_concat (stripRight t)
  · rw [hnil]
    rfl
  · rw [List.concat_eq_append] at hconcat
    rw [hconcat] at hlast ⊢
    have hc : isSpace c = false := hlast c List.getLast?_concat
    -- The last line ends as the text does, so that it is neither stripped nor empty.
    obtain ⟨line, hline⟩ := splitLines_getLast? (isLineBreak_eq_false hc) s
    obtain ⟨front, hfront⟩ := List.getLast?_eq_some_iff.mp hline
    obtain ⟨above, habove⟩ := exists_unlines_concat front (line ++ [c])
    have hsame : stripRight (unlines (splitLines (s ++ [c]))) = unlines (splitLines (s ++ [c])) := by
      apply stripRight_eq_self_iff.mpr
      intro a ha
      rw [hfront, habove, ← List.append_assoc, List.getLast?_concat] at ha
      rw [← Option.some.inj ha]
      exact hc
    rw [hsame, splitLines_unlines (isUnbroken_of_mem_splitLines _), hline, if_neg (by simp)]

theorem tidyCode_trimming (code : List Text) : tidyCode trimming code =
    if includes "doctest:" (unlines code) then .ok code else .ok (splitLines (stripRight (unlines code))) := rfl

theorem settles_trimming : Settles (tidyCode trimming) := by
  constructor
  · rfl
  · intro code out h
    by_cases hdirective : includes "doctest:" (unlines code) = true
    · rw [tidyCode_trimming, if_pos hdirective] at h
      rw [← Except.ok.inj h, tidyCode_trimming, if_pos hdirective]
    · rw [tidyCode_trimming, if_neg hdirective] at h
      rw [← Except.ok.inj h, tidyCode_trimming, splitLines_stripRight_again, ite_self]
  · intro code out h hshow
    obtain ⟨l, hl, hinked⟩ := hshow
    rw [tidyCode_trimming] at h
    split at h
    · rw [← Except.ok.inj h]
      exact List.ne_nil_of_mem hl
    · rw [← Except.ok.inj h]
      intro hnil
      have hblank : isBlank (unlines code) = true := by
        apply stripRight_eq_nil_iff.mp
        apply endedLines_eq_nil_iff.mp
        exact List.map_eq_nil_iff.mp hnil
      rw [isBlank_unlines, all_isBlank_eq_false hl hinked] at hblank
      cases hblank

/-- Two prompts for one input, an output that looks like code, and a prompt in a text. -/
def drills : List Text :=
  [">>> if x:", ">>>     y = 2  ", "2", "... more", ">>> y ", "", " ", "Text", ">>> no code  "]

def tidiedDrills : List Text :=
  [">>> if x:", "...     y = 2", "2", "... more", ">>> y", "", "Text", ">>> no code  "]

theorem drills_tidied_again :
    tidy trimming drills = pure tidiedDrills ∧ tidy trimming tidiedDrills = pure tidiedDrills := by
  have hshow : InputsShow drills := by
    unfold InputsShow
    decide +kernel
  have hcode : ∀ p ∈ piecesIn drills, ∃ code, tidyCode trimming p.input = .ok code := by
    intro p _
    rw [tidyCode_trimming]
    split
    · exact ⟨_, rfl⟩
    · exact ⟨_, rfl⟩
  obtain ⟨out, hfirst, hagain⟩ := (tidy_again settles_trimming hshow).2 hcode
  have hout : (tidy trimming drills).result.toOption = some tidiedDrills := by decide +kernel
  rw [hfirst] at hout
  obtain rfl : out = tidiedDrills := Option.some.inj hout
  exact ⟨hfirst, hagain⟩

end DocTidy.Example
