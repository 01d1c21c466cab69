import DocTidy.Proofs.Renewal.Frame

/-!
# What a renewed docstring has of the old one

The text of the sections is put where the old one was: it begins and ends on the same lines, first and
last lines that were blank are so again, and everything below the first line is indented.  What is not kept
is a line break behind a last line with text (`renew_ends_with_text`).
-/

namespace DocTidy

open Text

/-- The last two lines are blank. -/
def EndsWithGap (t : Text) : Prop :=
  ∃ front above last, splitLines t = front ++ [above, last] ∧ isBlank above = true ∧ isBlank last = true

/-- A text stands in the frame of another one, indented by `level`.  A line boundary at the end of a text
begins no further line. -/
structure Reframes (level : Nat) (old new : Text) : Prop where
  first : (splitLines new).head?.map isBlank = (splitLines old).head?.map isBlank
  space : (splitLines new).head?.map isBlank = some false → startsWith new " " = startsWith old " "
  indented : ∀ line ∈ (splitLines new).tail, isBlank line = false → spaces level <+: line
  last : (splitLines new).getLast?.map isBlank = (splitLines old).getLast?.map isBlank
  margin : ∀ line ∈ (splitLines new).getLast?, isBlank line = true → line = spaces level
  gap : EndsWithGap old → EndsWithGap new

namespace Frame

variable {f : Frame} {level : Nat} {body t : Text}

/-! ## The lines that a frame is read off -/

theorem head?_map_isBlank (ht : t ≠ []) :
    (splitLines t).head?.map isBlank = some (!(ofDocstring t).startsAtOnce) := by
  unfold ofDocstring
  cases hlines : splitLines t with
  | nil => exact absurd (endedLines_eq_nil_iff.mp (List.map_eq_nil_iff.mp hlines)) ht
  | cons l ls => simp

theorem getLast?_map_isBlank (ht : t ≠ []) :
    (splitLines t).getLast?.map isBlank = some (ofDocstring t).endsBlank := by
  unfold ofDocstring
  rcases List.eq_nil_or_concat' (splitLines t) with hlines | ⟨front, last, hlines⟩
  · exact absurd (endedLines_eq_nil_iff.mp (List.map_eq_nil_iff.mp hlines)) ht
  · simp [hlines]

theorem of_endsWithGap (h : EndsWithGap t) :
    (ofDocstring t).endsBlank = true ∧ (ofDocstring t).endsWithGap = true := by
  obtain ⟨front, above, last, hlines, habove, hlast⟩ := h
  unfold ofDocstring
  simp [hlines, habove, hlast]

/-! ## A filled frame -/

/-- Every line below the first one is blank or has the margin. -/
theorem isPrefix_of_mem_tail_fill (hblank : isBlank body = false) (hend : body.getLast? = some '\n') :
    ∀ line ∈ (splitLines (f.fill level body)).tail, isBlank line = false → spaces level <+: line := by
  -- The first line is the only one that may go without the margin.
  rw [fill_eq_indentFrom hblank hend, splitLines_indentFrom (isUnbroken_spaces level)]
  intro line hline hinked
  cases hlines : splitLines (f.opening ++ f.shown body ++ f.closing level) with
  | nil =>
    rw [hlines] at hline
    cases hline
  | cons first rest =>
    rw [hlines] at hline
    obtain ⟨l, -, rfl⟩ := List.mem_map.mp hline
    rw [isBlank_indentedLine (isBlank_spaces level)] at hinked
    rw [indentedLine, if_neg (by rw [hinked]; exact Bool.false_ne_true)]
    exact List.prefix_append _ _

/-- **A text that is put into the frame of another one reframes it.** -/
theorem reframes_fill {old : Text} (hlevel : 0 < level) (hold : old ≠ []) (hblank : isBlank body = false)
    (hend : body.getLast? = some '\n') : Reframes level old ((ofDocstring old).fill level body) := by
  have hne := (ofDocstring old).fill_ne_nil level hblank hend
  have hends := endsBlank_fill (ofDocstring old) hlevel hblank hend
  refine ⟨?_, fun hstart => ?_, isPrefix_of_mem_tail_fill hblank hend, ?_, fun line hline hmargin => ?_,
    fun hgap => ?_⟩
  · rw [head?_map_isBlank hne, head?_map_isBlank hold, startsAtOnce_fill _ level hblank hend]
  · rw [head?_map_isBlank hne, startsAtOnce_fill _ level hblank hend] at hstart
    exact startsWithSpace_fill level (by simpa using hstart) hblank hend
  · rw [getLast?_map_isBlank hne, getLast?_map_isBlank hold, hends]
  · -- A last line that is blank comes from the closing, where it is the margin.
    have hlast := getLast?_map_isBlank hne
    rw [hline, Option.map_some, hmargin, hends] at hlast
    obtain ⟨front, hlines, -⟩ := exists_splitLines_fill hlevel (Option.some.inj hlast).symm hblank hend
    rw [hlines, List.getLast?_concat] at hline
    exact (Option.some.inj hline).symm
  · obtain ⟨hendsBlank, hendsWithGap⟩ := of_endsWithGap hgap
    obtain ⟨front, hlines, hfront⟩ := exists_splitLines_fill hlevel hendsBlank hblank hend
    obtain ⟨init, rfl⟩ := List.getLast?_eq_some_iff.mp (hfront hendsWithGap)
    refine ⟨init, [], spaces level, ?_, rfl, isBlank_spaces level⟩
    rw [hlines, List.append_assoc]
    rfl

end Frame

namespace Renewal

variable {r : Renewal} {subject : Subject} {level : Nat} {docstring : Text} {new : Renewed}

/-- **A renewed docstring keeps the frame of the old one**, and its lines below the first are indented.
Nothing is asked of the docstring: it may have any line boundaries, and the renewal may use a formatter. -/
theorem renew_keeps_frame (hlevel : 0 < level) (hnew : (r.renew subject level docstring).result = .ok new)
    (hinked : isBlank new.text = false) : Reframes level docstring new.text := by
  obtain ⟨hlong, body, -, hfill, hblank, hend⟩ := exists_filled hnew hinked
  rw [← hfill]
  exact Frame.reframes_fill hlevel (ne_nil_of_isLong hlong) hblank hend

/-- A space in front, two blank lines at the end, and sections that are indented too little. -/
def spaced : Text := " Sum.\n\n  Note\n  ----\n    n\n  m\n\n  \n  "

theorem spaced_keeps_frame : ∃ new, (plain.renew bare 4 spaced).result = .ok new ∧
    new.text = " Sum.\n\n    Notes\n    -----\n      n\n    m\n\n    " ∧ Reframes 4 spaced new.text := by
  obtain ⟨new, hnew, htext⟩ : ∃ new, (plain.renew bare 4 spaced).result = .ok new ∧
      new.text = " Sum.\n\n    Notes\n    -----\n      n\n    m\n\n    " :=
    Run.exists_ok_of_toOption (by decide +kernel)
  have hinked : isBlank new.text = false := by
    rw [htext]
    decide
  exact ⟨new, hnew, htext, renew_keeps_frame (by decide) hnew hinked⟩

/-- **A line break behind the last line is lost.**  Where the text of a docstring goes on to its last
line, the new text ends with text: the closing quotes stand right behind it, even if they stood on a line
of their own. -/
theorem renew_ends_with_text (hnew : (r.renew subject level docstring).result = .ok new)
    (hinked : isBlank new.text = false)
    (hlast : (splitLines docstring).getLast?.map isBlank = some false) :
    ∃ c, new.text.getLast? = some c ∧ isSpace c = false := by
  obtain ⟨hlong, body, -, hfill, hblank, hend⟩ := exists_filled hnew hinked
  rw [Frame.getLast?_map_isBlank (ne_nil_of_isLong hlong), Option.some.injEq] at hlast
  rw [← hfill]
  exact Frame.fill_getLast? level hlast hblank hend

example : (splitLines "A\n\n foo\n").getLast?.map isBlank = some false ∧
    (plain.renew bare 1 "A\n\n foo\n").result.toOption.map Renewed.text = some "A\n\n foo".toList := by
  decide +kernel

end Renewal
end DocTidy
