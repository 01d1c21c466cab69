import DocTidy.Proofs.Reflow

/-!
# The words and the width of a refilled text

Refilling may set an empty word before the first word and may lose one at the end, but the words that
show stay as they are.  A line is as wide as the room of its words, less the space behind the last one, so
that a word is only added where the line still fits.
-/

namespace DocTidy.Reflow

open Text

variable {t w : Text} {ws line : List Text}

/-! ## Words that show -/

/-- The words that are not empty. -/
def shownWords (ws : List Text) : List Text := ws.filter fun w => !w.isEmpty

theorem shownWords_led (ws : List Text) : shownWords (led ws) = shownWords ws := by
  cases ws with
  | nil => rfl
  | cons w ws =>
    rw [led]
    split
    · rfl
    · rfl

theorem shownWords_dropLast (h : ws.getLast? = some []) : shownWords ws.dropLast = shownWords ws := by
  obtain ⟨front, rfl⟩ := List.getLast?_eq_some_iff.mp h
  simp [shownWords]

/-- A line with nothing but an empty word ends the words with that word. -/
theorem getLast?_of_fill (h : (fill ws).getLast? = some [[]]) : ws.getLast? = some [] := by
  obtain ⟨front, hfront⟩ := List.getLast?_eq_some_iff.mp h
  have hflatten := flatten_fill ws
  rw [hfront, List.flatten_append, List.flatten_singleton] at hflatten
  rw [← hflatten, List.getLast?_concat]

theorem shownWords_settled (ws : List Text) : shownWords (settled ws) = shownWords ws := by
  unfold settled
  split
  · rename_i hlast
    rw [shownWords_dropLast (getLast?_of_fill hlast), shownWords_led]
  · exact shownWords_led ws

/-! ## Widths -/

theorem room_append (line more : List Text) : room (line ++ more) = room line + room more := by
  induction line with
  | nil => simp [room]
  | cons w line ih =>
    rw [List.cons_append, room, room, ih]
    omega

theorem room_concat (line : List Text) (w : Text) : room (line ++ [w]) = room line + w.length + 1 := by
  rw [room_append, room, room]
  omega

/-- The room of a line counts one space more than the line shows. -/
theorem length_joined (hne : line ≠ []) : (joined line).length + 1 = room line := by
  unfold joined
  induction line with
  | nil => exact absurd rfl hne
  | cons w ws ih =>
    cases ws with
    | nil => simp [room]
    | cons v vs =>
      have hrest := ih (List.cons_ne_nil v vs)
      rw [List.intercalate_cons_cons, room, ← hrest]
      simp only [List.length_append, List.length_singleton]
      omega

/-- The line fits in the width, or there is nothing on it that could be moved to the next line. -/
def IsNarrow (line : List Text) : Prop := (joined line).length ≤ width ∨ line.length = 1

theorem isNarrow_concat (h : room line + w.length ≤ width) : IsNarrow (line ++ [w]) := by
  have hlength := length_joined (List.append_ne_nil_of_right_ne_nil line (List.cons_ne_nil w []))
  rw [room_concat] at hlength
  left
  omega

theorem isNarrow_fillFrom (hline : IsNarrow line) (ws : List Text) : ∀ l ∈ fillFrom line ws, IsNarrow l := by
  induction ws generalizing line with
  | nil =>
    rw [fillFrom]
    split
    · simp
    · simpa using hline
  | cons w ws ih =>
    rw [fillFrom]
    split
    · -- The line is full; the next one begins with a word that may be wider than a line.
      rw [List.forall_mem_cons]
      exact ⟨hline, ih (.inr rfl)⟩
    · rename_i hroom
      exact ih (isNarrow_concat (by omega))

theorem isNarrow_of_mem_fill (ws : List Text) : ∀ l ∈ fill ws, IsNarrow l :=
  isNarrow_fillFrom (.inl (Nat.zero_le _)) ws

/-- A narrow line of words is no wider than the width, or it is one word and holds no space. -/
theorem IsNarrow.joined (h : IsNarrow line) (hwords : ∀ w ∈ line, IsWord w) :
    (joined line).length ≤ width ∨ ' ' ∉ joined line := by
  refine h.imp_right fun hone => ?_
  obtain ⟨w, rfl⟩ := List.length_eq_one_iff.mp hone
  have hjoined : Reflow.joined [w] = w := List.intercalate_singleton
  rw [hjoined]
  exact (hwords w List.mem_cons_self).1

theorem isWord_of_mem_fill (hws : ∀ w ∈ ws, IsWord w) (hline : line ∈ fill ws) : ∀ w ∈ line, IsWord w := by
  intro w hw
  have hflatten := flatten_fill ws
  exact hws w (hflatten ▸ List.mem_flatten.mpr ⟨line, hline, hw⟩)

/-- The lines of a pass are narrow. -/
theorem splitLines_pass_narrow (t : Text) :
    ∀ l ∈ splitLines (pass t), l.length ≤ width ∨ ' ' ∉ l := by
  have hwords {line : List Text} (hline : line ∈ fill (words t)) : ∀ w ∈ line, IsWord w :=
    isWord_of_mem_fill (fun _ => isWord_of_mem_words) hline
  intro l hl
  obtain ⟨line, hline, rfl⟩ := exists_of_mem_splitLines_render (fun _ => hwords) hl
  exact (isNarrow_of_mem_fill _ line hline).joined (hwords hline)

/-- **Reflowing moves words and keeps to the width.**  The words that show are those of the text, in
order, and a line that is wider than 80 characters holds no space at which it could be broken. -/
theorem reflow_keeps_words (t : Text) :
    ((words (reflow t)).filter fun w => !w.isEmpty) = ((words t).filter fun w => !w.isEmpty) ∧
      ∀ line ∈ splitLines (reflow t), line.length ≤ width ∨ ' ' ∉ line := by
  constructor
  · show shownWords (words (reflow t)) = shownWords (words t)
    rw [reflow, words_pass, words_pass, shownWords_settled, shownWords_settled]
  · exact splitLines_pass_narrow (pass t)

end DocTidy.Reflow
