import DocTidy.Proofs.Reflow.Width

/-!
# Words divided into lines

Filling is greedy: a line takes words as long as they fit.  Among all divisions of the words into lines that
fit it has the fewest lines, because each of its lines reaches at least as far as the line of the same number
in any other division.  Every line holds a word, except that a first word wider than a line is set on a second
line below an empty one.
-/

namespace DocTidy.Reflow

open Text

variable {w : Text} {ws line : List Text} {lines : List (List Text)}

/-! ## Lines without words -/

/-- A wide first word goes below a line that is left without words. -/
theorem fill_of_not_startsShort (h : ¬ StartsShort ws) :
    ∃ lines, [] ∉ lines ∧ fill ws = [] :: lines := by
  cases ws with
  | nil =>
    exfalso
    apply h
    intro w hw
    cases hw
  | cons w ws =>
    have hwide : width < w.length := by
      by_contra hshort
      apply h
      intro v hv
      obtain rfl : w = v := by simpa using hv
      omega
    refine ⟨fillFrom [w] ws, not_mem_fillFrom (List.cons_ne_nil w []) ws, ?_⟩
    rw [fill_cons, if_pos hwide]

/-- An empty line in front is printed as a line break. -/
theorem render_cons_nil (hne : lines ≠ []) : render ([] :: lines) = '\n' :: render lines := by
  cases lines with
  | nil => exact absurd rfl hne
  | cons line lines =>
    show ['\n'].intercalate ([] :: joined line :: lines.map joined) = _
    rw [List.intercalate_cons_cons]
    rfl

/-- **Which words leave a line empty.**  Filling keeps the words in order.  Every line holds one exactly if the
first word is no wider than a line; otherwise the first line is empty, all others hold words, and the text that
is printed begins with a line break that stands for no word. -/
theorem fill_leaves_no_line_empty_iff (ws : List Text) :
    (fill ws).flatten = ws ∧ ([] ∉ fill ws ↔ StartsShort ws) ∧
      (StartsShort ws ∨ ∃ lines, [] ∉ lines ∧ fill ws = [] :: lines ∧
        render (fill ws) = '\n' :: render lines) := by
  have hflatten := flatten_fill ws
  by_cases hshort : StartsShort ws
  · exact ⟨hflatten, ⟨fun _ => hshort, fun _ => not_mem_fill hshort⟩, .inl hshort⟩
  · obtain ⟨lines, hlines, hfill⟩ := fill_of_not_startsShort hshort
    have hne : lines ≠ [] := by
      rintro rfl
      -- Without further lines there would be no words, and then none is wide.
      rw [hfill] at hflatten
      apply hshort
      intro w hw
      rw [← hflatten] at hw
      cases hw
    refine ⟨hflatten, ⟨fun hmem => ?_, fun h => absurd h hshort⟩, .inr ⟨lines, hlines, hfill, ?_⟩⟩
    · rw [hfill] at hmem
      exact absurd List.mem_cons_self hmem
    · rw [hfill, render_cons_nil hne]

/-- One more character than a line has room for. -/
def wideWord : Text := replicate 81 'a'

theorem wideWord_leaves_line_empty :
    [] ∈ fill [wideWord] ∧ reflow wideWord = '\n' :: wideWord := by
  decide +kernel

/-! ## The fewest lines -/

/-- The lines are a division of the words, and they all fit. -/
structure Divides (ws : List Text) (lines : List (List Text)) : Prop where
  flatten_eq : lines.flatten = ws
  fits : ∀ line ∈ lines, (joined line).length ≤ width

/-- A line that goes on beyond some words, with a word that does not fit behind them, does not fit. -/
theorem width_lt_joined (hfull : width < room line + w.length) (before after : List Text) :
    width < (joined (before ++ line ++ w :: after)).length := by
  have hne : before ++ line ++ w :: after ≠ [] := by simp
  have hroom := length_joined hne
  rw [room_append, room_append, room] at hroom
  omega

/-- The line begun and those that follow it are no more than the lines of any division that begins with the
same word or earlier. -/
theorem length_fillFrom_le (before line ws : List Text)
    (h : Divides (before ++ line ++ ws) lines) : (fillFrom line ws).length ≤ lines.length := by
  -- On the words to come.  The other division may have words `before` on its current line, so that
  -- it never gets ahead.
  induction ws generalizing before line lines with
  | nil =>
    rw [fillFrom]
    split
    · exact Nat.zero_le _
    · rename_i hline
      have hne : lines ≠ [] := by
        rintro rfl
        have hnil := h.flatten_eq
        simp_all
      exact List.length_pos_iff.mpr hne
  | cons w ws ih =>
    rw [fillFrom]
    split
    · rename_i hfull
      obtain _ | ⟨first, more⟩ := lines
      · have hnil := h.flatten_eq
        simp at hnil
      · -- The first line of the division ends above the word that did not fit, so the others hold it.
        obtain ⟨rest, hrest⟩ : ∃ rest, more.flatten = rest ++ w :: ws := by
          have hflatten := h.flatten_eq
          rw [List.flatten_cons, List.append_eq_append_iff] at hflatten
          obtain ⟨rest, -, hmore⟩ | ⟨beyond, hfirst, hmore⟩ := hflatten
          · exact ⟨rest, hmore⟩
          · cases beyond with
            | nil => exact ⟨[], hmore.symm⟩
            | cons v beyond =>
              obtain ⟨rfl, -⟩ := List.cons.inj hmore
              have hfits := h.fits first List.mem_cons_self
              have hwide := width_lt_joined hfull before beyond
              rw [← hfirst] at hwide
              omega
        have hdivides : Divides (rest ++ [w] ++ ws) more := by
          constructor
          · simpa using hrest
          · exact fun line hline => h.fits line (List.mem_cons_of_mem first hline)
        have hlength := ih rest [w] hdivides
        rw [List.length_cons, List.length_cons]
        omega
    · apply ih before (line ++ [w])
      simpa using h

theorem divides_fill (hws : ∀ w ∈ ws, w.length ≤ width) : Divides ws (fill ws) := by
  constructor
  · exact flatten_fill ws
  · intro line hline
    obtain hfits | hone := isNarrow_of_mem_fill ws line hline
    · exact hfits
    · obtain ⟨w, rfl⟩ := List.length_eq_one_iff.mp hone
      have hmem : w ∈ ws := by
        rw [← flatten_fill ws]
        exact List.mem_flatten.mpr ⟨[w], hline, List.mem_cons_self⟩
      show ([' '].intercalate [w]).length ≤ width
      rw [List.intercalate_singleton]
      exact hws w hmem

/-- **Filling breaks words into the fewest lines.**  If no word is wider than a line, the words are divided into
lines that fit and hold words, and no division into lines that fit has fewer of them. -/
theorem fill_has_fewest_lines (hws : ∀ w ∈ ws, w.length ≤ width) :
    Divides ws (fill ws) ∧ [] ∉ fill ws ∧
      ∀ lines, Divides ws lines → (fill ws).length ≤ lines.length := by
  refine ⟨divides_fill hws, ?_, ?_⟩
  · apply not_mem_fill
    intro w hw
    exact hws w (List.mem_of_mem_head? hw)
  · intro lines hlines
    exact length_fillFrom_le [] [] ws hlines

/-- The second word just fits, behind the first or before the third. -/
def fittingWords : List Text := [replicate 39 'a', replicate 40 'b', replicate 39 'c']

theorem fittingWords_fewest_lines :
    fill fittingWords = [[replicate 39 'a', replicate 40 'b'], [replicate 39 'c']] ∧
      ∀ lines, Divides fittingWords lines → 2 ≤ lines.length := by
  have hfits : ∀ w ∈ fittingWords, w.length ≤ width := by decide
  obtain ⟨-, -, hfewest⟩ := fill_has_fewest_lines hfits
  have hfill : fill fittingWords = [[replicate 39 'a', replicate 40 'b'], [replicate 39 'c']] := by
    decide +kernel
  rw [hfill] at hfewest
  exact ⟨hfill, hfewest⟩

end DocTidy.Reflow
