import DocTidy.Proofs.Renewal.Basic
import DocTidy.Proofs.Text.Lines

/-!
# The frame of a renewed docstring

A filled frame is an opening, the indented part of the body that shows, and a closing.  Read off
the filled text, the frame is the same again, up to one thing: where the body itself ends with a
blank line, the frame gains a gap before its last line.
-/

namespace DocTidy.Frame

open Text

variable {f : Frame} {level : Nat} {body : Text}

/-- What stands before the body. -/
def opening (f : Frame) : Text :=
  if f.startsAtOnce then (if f.startsWithSpace then [' '] else []) else ['\n']

/-- A body from where it starts to show. -/
def started (f : Frame) (body : Text) : Text := if f.startsAtOnce then stripLeft body else body

/-- The part of a body that shows: at the ends its white space gives way to the frame. -/
def shown (f : Frame) (body : Text) : Text :=
  if f.endsBlank then f.started body else stripRight (f.started body)

/-- The gap and the margin at the end. -/
def tail (f : Frame) (level : Nat) : Text :=
  if f.endsWithGap then '\n' :: spaces level else spaces level

/-- What stands behind the body. -/
def closing (f : Frame) (level : Nat) : Text := if f.endsBlank then f.tail level else []

theorem isBlank_opening (f : Frame) : isBlank f.opening = true := by
  unfold opening
  split
  · split <;> decide
  · decide

theorem isBlank_tail (f : Frame) (level : Nat) : isBlank (f.tail level) = true := by
  unfold tail
  split
  · rw [isBlank_cons, isBlank_spaces]
    decide
  · exact isBlank_spaces level

theorem isBlank_closing (f : Frame) (level : Nat) : isBlank (f.closing level) = true := by
  unfold closing
  split
  · exact f.isBlank_tail level
  · rfl

theorem isBlank_started (f : Frame) (body : Text) : isBlank (f.started body) = isBlank body := by
  unfold started
  split
  · exact isBlank_stripLeft body
  · rfl

theorem isBlank_shown (f : Frame) (body : Text) : isBlank (f.shown body) = isBlank body := by
  unfold shown
  split
  · exact f.isBlank_started body
  · rw [isBlank_stripRight, isBlank_started]

theorem isBlank_indentFrom (level : Nat) (atStart : Bool) (t : Text) :
    isBlank (indentFrom (spaces level) atStart t) = isBlank t := by
  induction t generalizing atStart with
  | nil => rfl
  | cons c r ih =>
    have hmargin : isBlank (if atStart && !startsBlank (c :: r) then spaces level else []) =
        true := by
      split
      · exact isBlank_spaces level
      · rfl
    rw [indentFrom, isBlank_append, hmargin, isBlank_cons, ih, Bool.true_and]
    rfl

/-- The margin behind the body only shows in the closing. -/
theorem dropEndWhile_indented (hend : body.getLast? = some '\n') :
    dropEndWhile (· == ' ') (indent (spaces level) body ++ spaces level) =
      indentFrom (spaces level) true body := by
  rw [indent_eq_indentFrom]
  have hlast : (indentFrom (spaces level) true body).getLast? = some '\n' := by
    rw [indentFrom_getLast?, hend]
  -- Stripping from the end stops at the newline, after the margin.
  obtain ⟨front, hfront⟩ := List.getLast?_eq_some_iff.mp hlast
  have hspaces : ∀ c ∈ (spaces level).reverse, (c == ' ') = true := by
    intro c hc
    rw [List.mem_reverse] at hc
    rw [List.eq_of_mem_replicate hc]
    rfl
  unfold dropEndWhile
  rw [List.reverse_append, List.dropWhile_append_of_pos hspaces, hfront, List.reverse_append]
  rw [List.reverse_singleton, List.singleton_append, List.dropWhile_cons_of_neg (by decide)]
  rw [List.reverse_cons, List.reverse_reverse]

theorem opened_eq (hblank : isBlank body = false) :
    (if f.startsAtOnce then
        (if f.startsWithSpace then [' '] else []) ++
          stripLeft (indentFrom (spaces level) true body ++ f.tail level)
      else '\n' :: (indentFrom (spaces level) true body ++ f.tail level)) =
      f.opening ++ (indentFrom (spaces level) (!f.startsAtOnce) (f.started body) ++
        f.tail level) := by
  have hindented : isBlank (indentFrom (spaces level) true body) = false := by
    rw [isBlank_indentFrom, hblank]
  unfold opening started
  cases f.startsAtOnce with
  | true =>
    simp only [↓reduceIte, Bool.not_true]
    rw [stripLeft_append hindented, stripLeft_indentFrom (isBlank_spaces level)]
  | false => rfl

/-- **A filled frame** is the opening, the body as far as it shows, and the closing. -/
theorem fill_eq (hblank : isBlank body = false) (hend : body.getLast? = some '\n') :
    f.fill level body =
      f.opening ++ indentFrom (spaces level) (!f.startsAtOnce) (f.shown body) ++
        f.closing level := by
  have hstarted : isBlank (indentFrom (spaces level) (!f.startsAtOnce) (f.started body)) =
      false := by
    rw [isBlank_indentFrom, isBlank_started, hblank]
  unfold fill
  simp only [dropEndWhile_indented hend]
  change (if f.endsBlank then _ else stripRight _) = _
  rw [← tail, opened_eq hblank]
  unfold shown closing
  cases f.endsBlank with
  | true =>
    rw [if_pos rfl, if_pos rfl, if_pos rfl, List.append_assoc]
  | false =>
    -- The tail is stripped away again, and so are the blank lines at the end of the body.
    simp only [Bool.false_eq_true, ↓reduceIte]
    rw [List.append_nil, ← List.append_assoc, stripRight_append_blank (f.isBlank_tail level),
      stripRight_append hstarted, stripRight_indentFrom]

theorem fill_shows (f : Frame) (level : Nat) (hblank : isBlank body = false)
    (hend : body.getLast? = some '\n') : isBlank (f.fill level body) = false := by
  rw [fill_eq hblank hend, isBlank_append, isBlank_append, isBlank_indentFrom, isBlank_shown,
    hblank, Bool.and_false, Bool.false_and]

theorem fill_ne_nil (f : Frame) (level : Nat) (hblank : isBlank body = false)
    (hend : body.getLast? = some '\n') : f.fill level body ≠ [] := by
  intro hnil
  have hfill := f.fill_shows level hblank hend
  rw [hnil] at hfill
  cases hfill

/-- A filled frame is indented below its first line. -/
theorem fill_eq_indentFrom (hblank : isBlank body = false) (hend : body.getLast? = some '\n') :
    f.fill level body =
      indentFrom (spaces level) false (f.opening ++ f.shown body ++ f.closing level) := by
  rw [fill_eq hblank hend, indentFrom_append_blank (f.isBlank_closing level)]
  unfold opening
  cases f.startsAtOnce with
  | false => rfl
  | true => cases f.startsWithSpace <;> rfl

/-- A blank body leaves the frame blank. -/
theorem isBlank_fill (hblank : isBlank body = true) : isBlank (f.fill level body) = true := by
  have hindented : isBlank (dropEndWhile (· == ' ')
      (indent (spaces level) body ++ spaces level)) = true := by
    have hwhole : isBlank (indent (spaces level) body ++ spaces level) = true := by
      rw [indent_eq_indentFrom, indentFrom_blank hblank, isBlank_append, hblank, isBlank_spaces]
      rfl
    have hsub := (List.rdropWhile_prefix (· == ' ')
      (indent (spaces level) body ++ spaces level)).subset
    exact List.all_eq_true.mpr fun c hc => List.all_eq_true.mp hwhole c (hsub hc)
  unfold fill
  dsimp only
  generalize dropEndWhile (· == ' ') (indent (spaces level) body ++ spaces level) = indented at *
  rw [← tail]
  have hclosed : isBlank (indented ++ f.tail level) = true := by
    rw [isBlank_append, hindented, isBlank_tail]
    rfl
  have hopened : isBlank (if f.startsAtOnce then
      (if f.startsWithSpace then [' '] else []) ++ stripLeft (indented ++ f.tail level)
      else '\n' :: (indented ++ f.tail level)) = true := by
    split
    · rw [isBlank_append, isBlank_stripLeft, hclosed]
      split <;> decide
    · rw [isBlank_cons, hclosed]
      decide
  split
  · exact hopened
  · rw [isBlank_stripRight, hopened]

theorem isBlank_of_fill (h : isBlank (f.fill level body) = false) : isBlank body = false := by
  rw [← Bool.not_eq_true]
  intro hblank
  rw [isBlank_fill hblank] at h
  cases h

/-! ## The frame of the filled text -/

theorem shown_getLast? (hends : f.endsBlank = true) (hblank : isBlank body = false)
    (hend : body.getLast? = some '\n') : (f.shown body).getLast? = some '\n' := by
  obtain ⟨front, rfl⟩ := List.getLast?_eq_some_iff.mp hend
  have hfront : isBlank front = false := by simpa [show isSpace '\n' = true from rfl] using hblank
  rw [shown, if_pos hends, started]
  split
  · rw [stripLeft_append hfront, List.getLast?_concat]
  · exact hend

/-- A body that starts on the first line starts with text. -/
theorem shown_eq_cons (hstart : f.startsAtOnce = true) (hblank : isBlank body = false) :
    ∃ c r, f.shown body = c :: r ∧ isSpace c = false := by
  cases hstripped : stripLeft body with
  | nil =>
    rw [stripLeft_eq_nil_iff.mp hstripped] at hblank
    cases hblank
  | cons c r =>
    have hc : isSpace c = false := by
      have := List.head?_dropWhile_not isSpace body
      rw [← stripLeft, hstripped] at this
      simpa using this
    rw [shown, started, if_pos hstart, hstripped]
    split
    · exact ⟨c, r, rfl, hc⟩
    · by_cases hr : isBlank r = true
      · refine ⟨c, [], ?_, hc⟩
        have hsplit : c :: r = [c] ++ r := rfl
        rw [hsplit, stripRight_append_blank hr, stripRight_eq_self_iff]
        simp [hc]
      · exact ⟨c, stripRight r, stripRight_append (by simpa using hr) [c], hc⟩

theorem startsBlank_fill (level : Nat) (hstart : f.startsAtOnce = true)
    (hblank : isBlank body = false) :
    startsBlank (indentFrom (spaces level) (!f.startsAtOnce) (f.shown body) ++ f.closing level) =
      false := by
  obtain ⟨c, r, hshown, hc⟩ := shown_eq_cons hstart hblank
  rw [startsBlank_append_blank (f.isBlank_closing level), startsBlank_indentFrom, hshown,
    startsBlank_cons (isLineBreak_eq_false hc), hc, Bool.false_and]

theorem startsAtOnce_fill (f : Frame) (level : Nat) (hblank : isBlank body = false)
    (hend : body.getLast? = some '\n') :
    (ofDocstring (f.fill level body)).startsAtOnce = f.startsAtOnce := by
  rw [fill_eq hblank hend, List.append_assoc]
  unfold ofDocstring
  simp only [splitLines_head?]
  rw [← startsBlank]
  cases hstart : f.startsAtOnce with
  | true =>
    have hrest := startsBlank_fill level hstart hblank
    rw [hstart] at hrest
    rw [opening, if_pos hstart]
    split
    · rw [List.singleton_append, startsBlank_cons (by decide), hrest]
      rfl
    · rw [List.nil_append, hrest]
      rfl
  | false =>
    rw [opening, if_neg (by simp [hstart]), List.singleton_append,
      startsBlank_cons_break (by decide)]
    rfl

theorem startsWithSpace_fill (level : Nat) (hstart : f.startsAtOnce = true) (hblank : isBlank body = false)
    (hend : body.getLast? = some '\n') :
    (ofDocstring (f.fill level body)).startsWithSpace = f.startsWithSpace := by
  obtain ⟨c, r, hshown, hc⟩ := shown_eq_cons hstart hblank
  rw [fill_eq hblank hend, opening, if_pos hstart, hshown, hstart]
  unfold ofDocstring startsWith
  cases f.startsWithSpace with
  | true => rfl
  | false =>
    have hne : (' ' == c) = false := by
      rw [beq_eq_false_iff_ne]
      rintro rfl
      exact absurd hc (by decide)
    simp [indentFrom, List.isPrefixOf, hne]

theorem opening_fill (hblank : isBlank body = false) (hend : body.getLast? = some '\n') :
    (ofDocstring (f.fill level body)).opening = f.opening := by
  have hstarts := startsAtOnce_fill f level hblank hend
  unfold opening
  rw [hstarts]
  cases hstart : f.startsAtOnce with
  | false => rfl
  | true => rw [startsWithSpace_fill level hstart hblank hend]

/-- Where the last line is blank, it is the margin. -/
theorem fill_eq_append (level : Nat) (hends : f.endsBlank = true) (hblank : isBlank body = false)
    (hend : body.getLast? = some '\n') :
    ∃ front, f.fill level body = front ++ '\n' :: spaces level ∧
      (f.endsWithGap = true → front.getLast? = some '\n') := by
  have hlast : (f.opening ++ indentFrom (spaces level) (!f.startsAtOnce) (f.shown body)).getLast? =
      some '\n' := by
    rw [List.getLast?_append, indentFrom_getLast?, shown_getLast? hends hblank hend]
    rfl
  rw [fill_eq hblank hend, closing, if_pos hends, tail]
  cases f.endsWithGap with
  | true => exact ⟨_, rfl, fun _ => hlast⟩
  | false =>
    obtain ⟨front, hfront⟩ := List.getLast?_eq_some_iff.mp hlast
    refine ⟨front, ?_, by simp⟩
    rw [hfront, List.append_assoc]
    rfl

theorem splitLines_append_margin (hlevel : 0 < level) (front : Text) :
    splitLines (front ++ '\n' :: spaces level) = splitLines (front ++ ['\n']) ++ [spaces level] := by
  rw [← splitLines_spaces hlevel]
  unfold splitLines
  rw [endedLines_append_newline, List.map_append]

/-- A margin that ends the text is a line of its own, below the gap if there is one. -/
theorem exists_splitLines_fill (hlevel : 0 < level) (hends : f.endsBlank = true)
    (hblank : isBlank body = false) (hend : body.getLast? = some '\n') :
    ∃ front, splitLines (f.fill level body) = front ++ [spaces level] ∧
      (f.endsWithGap = true → front.getLast? = some []) := by
  obtain ⟨front, hfront, hfrontEnd⟩ := fill_eq_append level hends hblank hend
  refine ⟨splitLines (front ++ ['\n']), ?_, fun hgap => ?_⟩
  · rw [hfront, splitLines_append_margin hlevel]
  · obtain ⟨text, rfl⟩ := List.getLast?_eq_some_iff.mp (hfrontEnd hgap)
    unfold splitLines
    rw [List.append_assoc, List.singleton_append, endedLines_append_newline, endedLines_newline,
      List.map_append]
    exact List.getLast?_concat

/-- A frame whose last line is not blank ends with text, with no white space behind it. -/
theorem fill_getLast? (level : Nat) (hends : f.endsBlank = false) (hblank : isBlank body = false)
    (hend : body.getLast? = some '\n') :
    ∃ c, (f.fill level body).getLast? = some c ∧ isSpace c = false := by
  have hshown : f.shown body = stripRight (f.started body) := by simp [shown, hends]
  have hne : f.shown body ≠ [] := by
    rw [hshown, Ne, stripRight_eq_nil_iff, isBlank_started, hblank]
    decide
  -- The text ends with the last character that stripping leaves.
  obtain ⟨c, hshownEnd⟩ : ∃ c, (f.shown body).getLast? = some c :=
    ⟨_, List.getLast?_eq_some_getLast hne⟩
  refine ⟨c, ?_, ?_⟩
  · rw [fill_eq hblank hend, closing, hends, if_neg (by decide), List.append_nil,
      List.getLast?_append, indentFrom_getLast?, hshownEnd]
    rfl
  · have hself : stripRight (f.shown body) = f.shown body := by
      rw [hshown]
      exact List.rdropWhile_idempotent isSpace _
    exact stripRight_eq_self_iff.mp hself c hshownEnd

theorem endsBlank_fill (f : Frame) (hlevel : 0 < level) (hblank : isBlank body = false)
    (hend : body.getLast? = some '\n') :
    (ofDocstring (f.fill level body)).endsBlank = f.endsBlank := by
  unfold ofDocstring
  dsimp only
  cases hends : f.endsBlank with
  | true =>
    obtain ⟨front, hlines, -⟩ := exists_splitLines_fill hlevel hends hblank hend
    rw [hlines, List.getLast?_concat]
    exact isBlank_spaces level
  | false =>
    obtain ⟨c, hlast, hc⟩ := fill_getLast? level hends hblank hend
    obtain ⟨text, htext⟩ := List.getLast?_eq_some_iff.mp hlast
    obtain ⟨line, hline⟩ := splitLines_getLast? (isLineBreak_eq_false hc) text
    rw [htext, hline]
    simp [hc]

theorem endsWithGap_fill (hlevel : 0 < level) (hends : f.endsBlank = true)
    (hgap : f.endsWithGap = true) (hblank : isBlank body = false)
    (hend : body.getLast? = some '\n') :
    (ofDocstring (f.fill level body)).endsWithGap = true := by
  obtain ⟨front, hlines, hfront⟩ := exists_splitLines_fill hlevel hends hblank hend
  unfold ofDocstring
  dsimp only
  rw [hlines, List.dropLast_concat, hfront hgap]
  rfl

/-! ## Filling the frame again -/

/-- The gap that the frame of a filled text has gained. -/
def gained (f f' : Frame) : Text :=
  if f.endsBlank && !f.endsWithGap && f'.endsWithGap then ['\n'] else []

theorem isBlank_gained (f f' : Frame) : isBlank (f.gained f') = true := by
  unfold gained
  split <;> decide

theorem closing_fill (hlevel : 0 < level) (hblank : isBlank body = false)
    (hend : body.getLast? = some '\n') :
    (ofDocstring (f.fill level body)).closing level =
      f.gained (ofDocstring (f.fill level body)) ++ f.closing level := by
  have hends := endsBlank_fill f hlevel hblank hend
  unfold closing gained tail
  rw [hends]
  cases hblankEnd : f.endsBlank with
  | false => simp
  | true =>
    cases hgapEnd : f.endsWithGap with
    | true => simp [endsWithGap_fill hlevel hblankEnd hgapEnd hblank hend]
    | false =>
      -- A body that ends with a blank line makes the frame look as if it had a gap.
      cases (ofDocstring (f.fill level body)).endsWithGap <;> simp

/-- **Filling the frame of a filled text.**  The result is the same text exactly when what shows of
the two bodies differs by the gap that the frame has gained. -/
theorem fill_again_iff {body' : Text} (hlevel : 0 < level) (hblank : isBlank body = false)
    (hend : body.getLast? = some '\n') (hblank' : isBlank body' = false)
    (hend' : body'.getLast? = some '\n') :
    (ofDocstring (f.fill level body)).fill level body' = f.fill level body ↔
      f.shown body' ++ f.gained (ofDocstring (f.fill level body)) = f.shown body := by
  have hstarts := startsAtOnce_fill f level hblank hend
  have hshown : (ofDocstring (f.fill level body)).shown body' = f.shown body' := by
    unfold shown started
    rw [hstarts, endsBlank_fill f hlevel hblank hend]
  have hgained := f.isBlank_gained (ofDocstring (f.fill level body))
  rw [fill_eq hblank' hend', opening_fill hblank hend, closing_fill hlevel hblank hend, hshown,
    hstarts]
  -- Only the bodies and the gap are left to compare; indenting does not make them equal.
  generalize f.gained (ofDocstring (f.fill level body)) = gap at hgained ⊢
  rw [fill_eq hblank hend, ← List.append_assoc, List.append_cancel_right_eq, List.append_assoc,
    List.append_cancel_left_eq, ← indentFrom_append_blank hgained]
  exact ⟨indentFrom_injective, fun h => by rw [h]⟩

end DocTidy.Frame

namespace DocTidy.Renewal

open Text

variable {r : Renewal} {subject : Subject} {level : Nat} {docstring : Text} {new : Renewed}

/-- A new text that shows is the frame of the docstring, filled with what is printed for it. -/
theorem exists_filled (hnew : (r.renew subject level docstring).result = .ok new)
    (hblank : isBlank new.text = false) :
    IsLong docstring ∧ ∃ b, (r.body subject docstring).result = .ok b ∧
      (Frame.ofDocstring docstring).fill level b = new.text ∧ isBlank b = false ∧
      b.getLast? = some '\n' := by
  have hne : new.text ≠ [] := by
    intro hnil
    rw [hnil] at hblank
    cases hblank
  -- A docstring of one line is passed over, and its new text would be empty.
  have hlong : IsLong docstring :=
    Decidable.of_not_not fun hshort => hne (text_eq_nil_of_not_isLong hshort hnew)
  obtain ⟨b, hb, hfill⟩ := (renew_text_iff hlong hne).mp ⟨new, hnew, rfl⟩
  have hbBlank : isBlank b = false := Frame.isBlank_of_fill (hfill ▸ hblank)
  exact ⟨hlong, b, hb, hfill, hbBlank, body_getLast? hb hbBlank⟩

end DocTidy.Renewal
