import DocTidy.Proofs.Document.Contents
import DocTidy.Proofs.Renewal.Basic
import DocTidy.Source.Tidy

/-!
# One pass over a source file

What a step of the pass can do, and what follows for the whole pass: a text that comes out changed
is always flagged.
-/

namespace DocTidy.Source

open Text

/-- The docstring is replaced wherever it stands, by a new text that is not blank. -/
def Replaces (docstring : Text) (new : Renewed) : Prop :=
  isBlank new.text = false ∧ new.text ≠ docstring ∧ hasTripleQuote new.text = false

instance (docstring : Text) (new : Renewed) : Decidable (Replaces docstring new) :=
  inferInstanceAs (Decidable (_ ∧ _ ∧ _))

namespace Tidied

theorem accept_text (t : Tidied) (docstring : Text) (new : Renewed) :
    (Replaces docstring new ∧ (t.accept docstring new).text = replace docstring new.text t.text ∧
        (t.accept docstring new).needsWork = true) ∨
      (¬ Replaces docstring new ∧ (t.accept docstring new).text = t.text) := by
  unfold accept Replaces
  by_cases hblank : isBlank new.text <;> by_cases hsame : new.text = docstring <;>
    by_cases hquote : hasTripleQuote new.text <;> simp [hblank, hsame, hquote]

theorem accept_keeps_flag (t : Tidied) (docstring : Text) (new : Renewed)
    (h : t.needsWork = true) : (t.accept docstring new).needsWork = true := by
  unfold accept
  split
  · rfl
  · simp [h]

end Tidied

/-- The functions of a source that a pass goes through. -/
def functionsIn (skip : SkipList) (source : Text) : Except Error (List Function) :=
  (parse source).bind fun statements => (functionsOf skip [] statements).result

namespace Tidier

variable {o : Tidier} {skip : SkipList} {file source : Text} {f : Function} {t t' : Tidied}

/-- A careful pass that inserts no placeholders. -/
def careful : Tidier := ⟨.plain, true, true⟩

/-- **The second renewal finds nothing.**  It starts from the same docstring as the first, so it
comes to the same sections, and the comparison never fails: whether it is made or not, the outcome is
that of the first renewal. -/
theorem renew_result (o : Tidier) (file : Text) (f : Function) (docstring : StringStatement) :
    (o.renew file f docstring).result =
      (o.renewal.renew ⟨file, f.name, f.signature⟩ docstring.position.column
        docstring.value).result := by
  unfold renew
  rw [Run.result_bind]
  cases hnew : (o.renewal.renew ⟨file, f.name, f.signature⟩ docstring.position.column
      docstring.value).result with
  | error e => rfl
  | ok new =>
    simp only [Except.bind]
    split
    · rfl
    · cases o.checked with
      | false => rfl
      | true =>
        -- The second renewal is a repetition of the first.
        simp [Run.result_bind, hnew, Except.bind, Datum.sameEntries_self]

/-- A step that succeeds leaves all as it is, or takes over a renewed docstring. -/
theorem step_cases (h : (o.step file t f).result = .ok t') :
    t' = t ∨ ∃ docstring new, f.docstring? = some docstring ∧
      (o.renew file f docstring).result = .ok new ∧ t' = t.accept docstring.value new := by
  unfold step at h
  split at h
  · exact .inl (by simpa using h.symm)
  · rename_i docstring hdoc
    dsimp only at h
    split at h
    · split at h
      · cases h
      · exact .inl (by simpa using h.symm)
    · rename_i new hnew
      exact .inr ⟨docstring, new, hdoc, hnew, by simpa using h.symm⟩

theorem tidy_ok (h : (o.tidy skip file source).result = .ok t) :
    ∃ functions, functionsIn skip source = .ok functions ∧
      (functions.foldlM (o.step file) ⟨source, false⟩).result = .ok t := by
  unfold tidy at h
  rw [Run.result_bind_eq_ok] at h
  obtain ⟨statements, hparse, h⟩ := h
  rw [Run.result_bind_eq_ok] at h
  obtain ⟨functions, hfunctions, h⟩ := h
  rw [Run.result_ofExcept] at hparse
  refine ⟨functions, ?_, h⟩
  rw [functionsIn, hparse]
  exact hfunctions

/-- A strict pass that succeeds has renewed the docstring of every function. -/
theorem exists_renewed {docstring : StringStatement} (hstrict : o.strict = true)
    (hdoc : f.docstring? = some docstring) {functions : List Function} (hf : f ∈ functions)
    (h : (functions.foldlM (o.step file) t).result = .ok t') :
    ∃ new, (o.renew file f docstring).result = .ok new := by
  induction functions generalizing t with
  | nil => cases hf
  | cons g rest ih =>
    rw [List.foldlM_cons, Run.result_bind_eq_ok] at h
    obtain ⟨next, hnext, h⟩ := h
    obtain rfl | hf := List.mem_cons.mp hf
    · -- A strict step fails where the renewal does.
      unfold step at hnext
      rw [hdoc, hstrict] at hnext
      dsimp only at hnext
      split at hnext
      · cases hnext
      · rename_i new hnew
        exact ⟨new, hnew⟩
    · exact ih hf h

/-! ## The edits of a pass -/

/-- The edit that a function brings: its docstring and the text that takes its place. -/
def edit? (o : Tidier) (file : Text) (f : Function) : Option (Text × Text) :=
  match f.docstring? with
  | none => none
  | some docstring =>
    match (o.renew file f docstring).result with
    | .error _ => none
    | .ok new => if Replaces docstring.value new then some (docstring.value, new.text) else none

/-- The edits that some functions bring, in order. -/
def edits (o : Tidier) (file : Text) (functions : List Function) : List (Text × Text) :=
  functions.filterMap (o.edit? file)

/-- A text after edits, each of which replaces all occurrences that the ones before have left. -/
def edited (edits : List (Text × Text)) (source : Text) : Text :=
  edits.foldl (fun text edit => replace edit.1 edit.2 text) source

theorem step_text (h : (o.step file t f).result = .ok t') :
    t'.text = edited (o.edit? file f).toList t.text := by
  unfold step at h
  unfold edit?
  cases hdoc : f.docstring? with
  | none =>
    rw [hdoc, Run.result_pure, Except.ok.injEq] at h
    rw [← h]
    rfl
  | some docstring =>
    rw [hdoc] at h
    dsimp only at h ⊢
    cases hnew : (o.renew file f docstring).result with
    | error e =>
      rw [hnew] at h
      dsimp only at h ⊢
      split at h
      · cases h
      · rw [← Except.ok.inj h]
        rfl
    | ok new =>
      rw [hnew] at h
      dsimp only at h ⊢
      rw [← Except.ok.inj h]
      -- A docstring that is not taken over brings no edit.
      obtain ⟨hreplaces, htext, -⟩ | ⟨hkept, htext⟩ := t.accept_text docstring.value new
      · rw [if_pos hreplaces, htext]
        rfl
      · rw [if_neg hkept, htext]
        rfl

/-- The text that a pass leaves is the source after the edits of its functions. -/
theorem foldlM_step_text (functions : List Function) :
    ∀ t t', (functions.foldlM (o.step file) t).result = .ok t' →
      t'.text = edited (o.edits file functions) t.text := by
  induction functions with
  | nil =>
    intro t t' h
    rw [List.foldlM_nil, Run.result_pure, Except.ok.injEq] at h
    rw [← h]
    rfl
  | cons f rest ih =>
    intro t t' h
    rw [List.foldlM_cons, Run.result_bind_eq_ok] at h
    obtain ⟨next, hnext, h⟩ := h
    rw [ih next t' h, step_text hnext]
    unfold edits edited
    rw [List.filterMap_cons]
    cases o.edit? file f <;> rfl

/-- A docstring of one line is never replaced. -/
theorem ne_nil_of_edit? {docstring new : Text} (h : o.edit? file f = some (docstring, new)) :
    docstring ≠ [] ∧ new ≠ [] := by
  unfold edit? at h
  split at h
  · cases h
  · rename_i statement _
    split at h
    · cases h
    · rename_i renewed hrenewed
      split at h
      · rename_i hreplaces
        simp only [Option.some.injEq, Prod.mk.injEq] at h
        obtain ⟨rfl, rfl⟩ := h
        rw [renew_result] at hrenewed
        have hnew : renewed.text ≠ [] := fun hnil => by simp [Replaces, hnil, isBlank] at hreplaces
        refine ⟨fun hnil => hnew ?_, hnew⟩
        refine Renewal.text_eq_nil_of_not_isLong (fun hlong => ?_) hrenewed
        exact Renewal.ne_nil_of_isLong hlong hnil
      · cases h

/-! ## Flagging -/

/-- Only a flagged text differs from the source. -/
def Flagged (source : Text) (t : Tidied) : Prop := t.text = source ∨ t.needsWork = true

theorem step_flagged (ht : Flagged source t) (h : (o.step file t f).result = .ok t') :
    Flagged source t' := by
  obtain rfl | ⟨docstring, new, -, -, rfl⟩ := step_cases h
  · exact ht
  · obtain ⟨-, -, hflag⟩ | ⟨-, hsame⟩ := t.accept_text docstring.value new
    · exact .inr hflag
    · obtain htext | hflag := ht
      · exact .inl (hsame.trans htext)
      · exact .inr (t.accept_keeps_flag _ _ hflag)

/-- **A changed text is flagged.** -/
theorem tidy_flagged (h : (o.tidy skip file source).result = .ok t) (hchanged : t.text ≠ source) :
    t.needsWork = true := by
  obtain ⟨functions, -, hfold⟩ := tidy_ok h
  have hflagged : Flagged source t :=
    Run.foldlM_keeps (fun _ _ _ => step_flagged) functions _ t (.inl rfl) hfold
  exact hflagged.resolve_left hchanged

end Tidier
end DocTidy.Source
