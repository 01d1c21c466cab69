import DocTidy.Proofs.Printer
import DocTidy.Renewal

/-!
# The stages of a renewal

A docstring of several lines is read and fixed, the document is printed, and the text is put into
the frame.  `renew_eq_ok_iff` says what each stage has to give for the renewal to succeed.
-/

namespace DocTidy.Renewal

open Text

variable {r : Renewal} {subject : Subject} {level : Nat} {docstring : Text} {new : Renewed}

/-- Renewing without a formatter and without placeholders. -/
def plain : Renewal := ⟨none, { withPlaceholder := some false }, false⟩

/-- A function without parameters. -/
def bare : Subject := ⟨"m.py", "f", ⟨[], none, none⟩⟩

/-- The document that a docstring is printed from, whether it has a placeholder, and whether it
does not match the function. -/
def fixed (r : Renewal) (subject : Subject) (docstring : Text) : Run (Document × Bool × Bool) := do
  let d ← readDocstring r subject docstring
  let d ← if r.settings.runFixers then d.normalized else pure d
  fixParams r subject d

/-- The docstring has several lines, so that it is read at all. -/
def IsLong (docstring : Text) : Prop := 1 < (splitLines docstring).length

instance (docstring : Text) : Decidable (IsLong docstring) :=
  inferInstanceAs (Decidable (1 < (splitLines docstring).length))

theorem print_after_fixing (normalizing : Run Document) :
    (do
      let d ← normalizing
      let (d, hasPlaceholder, mismatch) ← fixParams r subject d
      let text := (Frame.ofDocstring docstring).fill level (← printDocument r d)
      if text.isEmpty then Run.fail .nothingLeft
      else return ⟨text, d, some hasPlaceholder, mismatch || text != docstring⟩ : Run Renewed).result =
      (normalizing >>= fixParams r subject).result.bind fun (d, hasPlaceholder, mismatch) =>
        (r.printDocument d).result.bind fun body =>
          let text := (Frame.ofDocstring docstring).fill level body
          if text.isEmpty then .error .nothingLeft
          else .ok ⟨text, d, some hasPlaceholder, mismatch || text != docstring⟩ := by
  simp only [Run.result_bind]
  cases normalizing.result with
  | error e => rfl
  | ok d =>
    simp only [Except.bind]
    cases (r.fixParams subject d).result with
    | error e => rfl
    | ok verdict =>
      simp only
      cases (r.printDocument verdict.1).result with
      | error e => rfl
      | ok body =>
        dsimp only
        split <;> rfl

theorem renew_eq_bind (h : IsLong docstring) (r : Renewal) (subject : Subject) (level : Nat) :
    (r.renew subject level docstring).result =
      (r.fixed subject docstring).result.bind fun (d, hasPlaceholder, mismatch) =>
        (r.printDocument d).result.bind fun body =>
          let text := (Frame.ofDocstring docstring).fill level body
          if text.isEmpty then .error .nothingLeft
          else .ok ⟨text, d, some hasPlaceholder, mismatch || text != docstring⟩ := by
  unfold renew fixed
  rw [if_neg (Nat.not_le.mpr h)]
  simp only [Run.result_bind]
  cases (r.readDocstring subject docstring).result with
  | error e => rfl
  | ok d =>
    simp only [Except.bind]
    -- Without fixers the document is taken as it was read.
    cases r.settings.runFixers with
    | false => exact print_after_fixing (pure d)
    | true => exact print_after_fixing d.normalized

/-- A docstring of several lines is renewed exactly when it can be read, fixed and printed, and
something is left of it. -/
theorem renew_eq_ok_iff (h : IsLong docstring) :
    (r.renew subject level docstring).result = .ok new ↔
      ∃ d hasPlaceholder mismatch body,
        (r.fixed subject docstring).result = .ok (d, hasPlaceholder, mismatch) ∧
        (r.printDocument d).result = .ok body ∧
        (Frame.ofDocstring docstring).fill level body ≠ [] ∧
        new = ⟨(Frame.ofDocstring docstring).fill level body, d, some hasPlaceholder,
          mismatch || (Frame.ofDocstring docstring).fill level body != docstring⟩ := by
  rw [renew_eq_bind h]
  cases (r.fixed subject docstring).result with
  | error e => simp [Except.bind]
  | ok verdict =>
    obtain ⟨d, hasPlaceholder, mismatch⟩ := verdict
    simp only [Except.bind]
    cases hbody : (r.printDocument d).result with
    | error e =>
      simp only [reduceCtorEq, false_iff, not_exists, not_and]
      intro d' hp mm body hfixed hprint
      obtain ⟨rfl, -, -⟩ : d = d' ∧ hasPlaceholder = hp ∧ mismatch = mm := by
        simpa using hfixed
      rw [hbody] at hprint
      cases hprint
    | ok body =>
      dsimp only
      constructor
      · intro hnew
        split at hnew
        · cases hnew
        · rename_i hne
          exact ⟨d, hasPlaceholder, mismatch, body, rfl, hbody, by simpa using hne,
            (Except.ok.inj hnew).symm⟩
      · rintro ⟨d', hp, mm, body', hfixed, hprint, hne, rfl⟩
        obtain ⟨rfl, rfl, rfl⟩ : d = d' ∧ hasPlaceholder = hp ∧ mismatch = mm := by
          simpa using hfixed
        obtain rfl : body = body' := Except.ok.inj (hbody.symm.trans hprint)
        rw [if_neg (by simpa using hne)]

/-- A docstring of a single line is passed over: its new text is empty. -/
theorem text_eq_nil_of_not_isLong (h : ¬ IsLong docstring)
    (hnew : (r.renew subject level docstring).result = .ok new) : new.text = [] := by
  unfold renew at hnew
  rw [if_pos (Nat.not_lt.mp h), Run.result_pure, Except.ok.injEq] at hnew
  rw [← hnew]

theorem ne_nil_of_isLong (h : IsLong docstring) : docstring ≠ [] := by
  rintro rfl
  exact absurd h (by simp [IsLong, splitLines, endedLines])

/-! ## The printed text -/

/-- The text that is printed for a docstring, before it is put into a frame. -/
def body (r : Renewal) (subject : Subject) (docstring : Text) : Run Text := do
  let (d, _, _) ← r.fixed subject docstring
  r.printDocument d

theorem body_eq_ok_iff {t : Text} :
    (r.body subject docstring).result = .ok t ↔
      ∃ d hasPlaceholder mismatch,
        (r.fixed subject docstring).result = .ok (d, hasPlaceholder, mismatch) ∧
        (r.printDocument d).result = .ok t := by
  unfold body
  rw [Run.result_bind_eq_ok]
  constructor
  · rintro ⟨⟨d, hasPlaceholder, mismatch⟩, hfixed, hprint⟩
    exact ⟨d, hasPlaceholder, mismatch, hfixed, hprint⟩
  · rintro ⟨d, hasPlaceholder, mismatch, hfixed, hprint⟩
    exact ⟨(d, hasPlaceholder, mismatch), hfixed, hprint⟩

/-- The new text of a docstring of several lines is its frame around the printed text. -/
theorem renew_text_iff (hlong : IsLong docstring) {t : Text} (ht : t ≠ []) :
    (∃ new, (r.renew subject level docstring).result = .ok new ∧ new.text = t) ↔
      ∃ b, (r.body subject docstring).result = .ok b ∧
        (Frame.ofDocstring docstring).fill level b = t := by
  simp only [body_eq_ok_iff, renew_eq_ok_iff hlong]
  constructor
  · rintro ⟨new, ⟨d, hasPlaceholder, mismatch, b, hfixed, hprint, -, rfl⟩, htext⟩
    exact ⟨b, ⟨d, hasPlaceholder, mismatch, hfixed, hprint⟩, htext⟩
  · rintro ⟨b, ⟨d, hasPlaceholder, mismatch, hfixed, hprint⟩, hfill⟩
    exact ⟨_, ⟨d, hasPlaceholder, mismatch, b, hfixed, hprint, hfill ▸ ht, rfl⟩, hfill⟩

theorem endsLine_printRecorded {d : Document} {name t : Text}
    (h : (r.printRecorded d name).result = .ok t) : Printer.EndsLine t := by
  unfold printRecorded at h
  obtain ⟨c, -, h⟩ := Run.result_bind_eq_ok.mp h
  split at h
  · exact Printer.endsLine_of_pure h .nil
  · split at h
    · exact Printer.endsLine_printSection h
    · cases h

theorem endsLine_printDocument {d : Document} {t : Text}
    (h : (r.printDocument d).result = .ok t) : Printer.EndsLine t := by
  unfold printDocument at h
  obtain ⟨texts, htexts, h⟩ := Run.result_bind_eq_ok.mp h
  refine Printer.endsLine_of_pure h (.intercalate (.append_newline []) fun u hu => ?_)
  obtain ⟨name, -, hname⟩ := exists_of_mem_forall₂ (Run.mapM_eq_ok.mp htexts)
    (List.mem_filter.mp hu).1
  exact endsLine_printRecorded hname

/-- A printed text that is not blank ends with a newline. -/
theorem body_getLast? {b : Text} (h : (r.body subject docstring).result = .ok b)
    (hblank : isBlank b = false) : b.getLast? = some '\n' := by
  obtain ⟨d, hasPlaceholder, mismatch, -, hprint⟩ := body_eq_ok_iff.mp h
  refine (endsLine_printDocument hprint).resolve_left ?_
  rintro rfl
  cases hblank

end DocTidy.Renewal
