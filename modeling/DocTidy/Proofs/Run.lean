import DocTidy.Proofs.List
import DocTidy.Run

/-!
# Runs that succeed

What it takes for a run to end well: a chain of operations succeeds exactly when each of them does.
A loop over a list keeps what one step keeps, and two loops over the same list stay related as long
as one step keeps them so.  `Follows` says that one run succeeds whenever another one does.
-/

namespace DocTidy.Run

variable {α β γ : Type}

@[simp] theorem result_pure (a : α) : (pure a : Run α).result = .ok a := rfl

@[simp] theorem result_say (t : Text) : (say t).result = .ok () := rfl

@[simp] theorem result_warn (t : Text) : (warn t).result = .ok () := rfl

@[simp] theorem result_fail (e : Error) : (fail e : Run α).result = .error e := rfl

@[simp] theorem result_ofExcept (r : Except Error α) : (ofExcept r).result = r := rfl

/-- The outcome of a chain is that of its second part, run on the result of the first. -/
theorem result_bind (x : Run α) (f : α → Run β) :
    (x >>= f).result = x.result.bind fun a => (f a).result := by
  change (x.andThen f).result = _
  unfold andThen
  cases x.result <;> rfl

theorem result_bind_eq_ok {x : Run α} {f : α → Run β} {b : β} :
    (x >>= f).result = .ok b ↔ ∃ a, x.result = .ok a ∧ (f a).result = .ok b := by
  rw [result_bind]
  cases x.result with
  | error e => simp [Except.bind]
  | ok a => simp [Except.bind]

@[simp] theorem result_map (f : α → β) (x : Run α) : (f <$> x).result = x.result.map f := by
  change (x.andThen fun a => pure (f a)).result = _
  unfold andThen
  cases x.result <;> rfl

instance : LawfulMonad Run := by
  refine LawfulMonad.mk' Run ?_ ?_ ?_
  · rintro α ⟨notes, result⟩
    cases result with
    | error e => rfl
    | ok a =>
      change (⟨notes ++ [], .ok a⟩ : Run α) = _
      rw [List.append_nil]
  · intro α β a f
    rfl
  · rintro α β γ ⟨notes, result⟩ f g
    cases result with
    | error e => rfl
    | ok a =>
      change Run.andThen ⟨notes ++ (f a).notes, (f a).result⟩ g =
        ⟨notes ++ ((f a).andThen g).notes, ((f a).andThen g).result⟩
      unfold andThen
      cases (f a).result with
      | error e => rfl
      | ok b => simp only [List.append_assoc]

/-- A list is gone through with success exactly when each item is. -/
theorem mapM_eq_ok {f : α → Run β} {l : List α} {bs : List β} :
    (l.mapM f).result = .ok bs ↔ List.Forall₂ (fun a b => (f a).result = .ok b) l bs := by
  induction l generalizing bs with
  | nil =>
    rw [List.mapM_nil, result_pure, List.forall₂_nil_left_iff, Except.ok.injEq, eq_comm]
  | cons a l ih =>
    rw [List.mapM_cons, result_bind_eq_ok, List.forall₂_cons_left_iff]
    simp only [result_bind_eq_ok, result_pure, Except.ok.injEq, ih]
    constructor
    · rintro ⟨b, hb, bs', hbs', rfl⟩
      exact ⟨b, bs', hb, hbs', rfl⟩
    · rintro ⟨b, bs', hb, hbs', rfl⟩
      exact ⟨b, hb, bs', hbs', rfl⟩

theorem exists_mapM {f : α → Run β} {l : List α} (h : ∀ a ∈ l, ∃ b, (f a).result = .ok b) :
    ∃ bs, (l.mapM f).result = .ok bs := by
  obtain ⟨bs, hbs⟩ := exists_forall₂ h
  exact ⟨bs, mapM_eq_ok.mpr hbs⟩

/-- A list is gone through in silence if no item that succeeds takes a note. -/
theorem mapM_eq_pure {f : α → Run β} {l : List α} {bs : List β}
    (hquiet : ∀ a b, (f a).result = .ok b → f a = pure b) (h : (l.mapM f).result = .ok bs) :
    l.mapM f = pure bs := by
  induction l generalizing bs with
  | nil =>
    rw [List.mapM_nil, result_pure, Except.ok.injEq] at h
    rw [List.mapM_nil, h]
  | cons a l ih =>
    rw [List.mapM_cons, result_bind_eq_ok] at h
    obtain ⟨b, hb, h⟩ := h
    obtain ⟨bs', hbs', h⟩ := result_bind_eq_ok.mp h
    rw [result_pure, Except.ok.injEq] at h
    rw [List.mapM_cons, hquiet a b hb, pure_bind, ih hbs', pure_bind, h]

theorem onFailure_of_ok {x : Run α} {a : α} (h : x.result = .ok a) (after : List Note) :
    x.onFailure after = x := by
  rw [onFailure, h]

@[simp] theorem result_onFailure (x : Run α) (after : List Note) : (x.onFailure after).result = x.result := by
  cases h : x.result with
  | ok a => rw [onFailure_of_ok h, h]
  | error e => rw [onFailure, h]

/-! ## Outcomes without notes -/

theorem except_bind_eq_ok {r : Except Error α} {f : α → Except Error β} {b : β} :
    (r >>= f) = .ok b ↔ ∃ a, r = .ok a ∧ f a = .ok b := by
  cases r with
  | error e => simp [bind, Except.bind]
  | ok a => simp [bind, Except.bind]

theorem ofExcept_bind (r : Except Error α) (f : α → Except Error β) :
    ofExcept (r >>= f) = ofExcept r >>= fun a => ofExcept (f a) := by
  cases r with
  | error e => rfl
  | ok a => rfl

theorem ofExcept_mapM (f : α → Except Error β) (l : List α) :
    ofExcept (l.mapM f) = l.mapM fun a => ofExcept (f a) := by
  induction l with
  | nil => rfl
  | cons a l ih =>
    rw [List.mapM_cons, List.mapM_cons, ofExcept_bind, ← ih]
    congr 1
    funext b
    rw [ofExcept_bind]
    rfl

theorem except_mapM_eq_ok {f : α → Except Error β} {l : List α} {bs : List β} :
    l.mapM f = .ok bs ↔ List.Forall₂ (fun a b => f a = .ok b) l bs := by
  have hrun : (l.mapM fun a => ofExcept (f a)).result = .ok bs ↔ _ := mapM_eq_ok
  rw [← ofExcept_mapM] at hrun
  exact hrun

/-- Success with a given result can be decided where equality of results can. -/
theorem eq_ok_of_toOption {r : Except Error α} {a : α} (h : r.toOption = some a) : r = .ok a := by
  cases r with
  | error e => cases h
  | ok b => rw [Option.some.inj h]

theorem exists_ok_of_toOption {r : Except Error α} {f : α → β} {b : β}
    (h : r.toOption.map f = some b) : ∃ a, r = .ok a ∧ f a = b := by
  cases r with
  | error e => cases h
  | ok a => exact ⟨a, rfl, Option.some.inj h⟩

/-- The error that an outcome is, if it is one. -/
def error? : Except Error α → Option Error
  | .error e => some e
  | .ok _ => none

theorem eq_error_of_error? {r : Except Error α} {e : Error} (h : error? r = some e) :
    r = .error e := by
  cases r with
  | error e' => rw [Option.some.inj h]
  | ok a => cases h

/-- What every step keeps, a loop keeps. -/
theorem result_foldlM_cons {f : β → α → Run β} {a : α} {b b' : β} (h : (f b a).result = .ok b')
    (l : List α) : ((a :: l).foldlM f b).result = (l.foldlM f b').result := by
  rw [List.foldlM_cons, result_bind, h]
  rfl

theorem result_foldlM_append {f : β → α → Run β} {l : List α} {b b' : β}
    (h : (l.foldlM f b).result = .ok b') (l' : List α) :
    ((l ++ l').foldlM f b).result = (l'.foldlM f b').result := by
  induction l generalizing b with
  | nil =>
    rw [List.foldlM_nil, result_pure] at h
    rw [List.nil_append, Except.ok.inj h]
  | cons a l ih =>
    rw [List.foldlM_cons, result_bind_eq_ok] at h
    obtain ⟨c, hc, h⟩ := h
    rw [List.cons_append, result_foldlM_cons hc, ih h]

theorem foldlM_keeps {f : β → α → Run β} {P : β → Prop}
    (hstep : ∀ b a b', P b → (f b a).result = .ok b' → P b') :
    ∀ (l : List α) (b b' : β), P b → (l.foldlM f b).result = .ok b' → P b' := by
  intro l
  induction l with
  | nil =>
    intro b b' hb h
    rw [List.foldlM_nil, result_pure, Except.ok.injEq] at h
    exact h ▸ hb
  | cons a l ih =>
    intro b b' hb h
    rw [List.foldlM_cons, result_bind_eq_ok] at h
    obtain ⟨c, hc, h⟩ := h
    exact ih c b' (hstep b a c hb hc) h

/-- What every pair of steps keeps, two loops over the same list keep. -/
theorem foldlM_related {f : β → α → Run β} {g : γ → α → Run γ} {R : β → γ → Prop}
    (hstep : ∀ b c a b' c', R b c → (f b a).result = .ok b' → (g c a).result = .ok c' → R b' c') :
    ∀ (l : List α) (b : β) (c : γ) (b' : β) (c' : γ), R b c →
      (l.foldlM f b).result = .ok b' → (l.foldlM g c).result = .ok c' → R b' c' := by
  intro l
  induction l with
  | nil =>
    intro b c b' c' hR hf hg
    rw [List.foldlM_nil, result_pure, Except.ok.injEq] at hf hg
    exact hf ▸ hg ▸ hR
  | cons a l ih =>
    intro b c b' c' hR hf hg
    rw [List.foldlM_cons, result_bind_eq_ok] at hf hg
    obtain ⟨b₁, hb₁, hf⟩ := hf
    obtain ⟨c₁, hc₁, hg⟩ := hg
    exact ih b₁ c₁ b' c' (hstep b c a b₁ c₁ hR hb₁ hc₁) hf hg

/-! ## One run that follows another -/

variable {δ : Type}

/-- `y` succeeds whenever `x` does, with a result that is related to that of `x`. -/
def Follows (R : α → β → Prop) (x : Run α) (y : Run β) : Prop :=
  ∀ a, x.result = .ok a → ∃ b, y.result = .ok b ∧ R a b

theorem Follows.refl (x : Run α) : Follows Eq x x := fun a h => ⟨a, h, rfl⟩

theorem Follows.pure {R : α → β → Prop} {a : α} {b : β} (h : R a b) :
    Follows R (Pure.pure a) (Pure.pure b) := by
  intro a' ha'
  rw [result_pure, Except.ok.injEq] at ha'
  exact ⟨b, rfl, ha' ▸ h⟩

theorem Follows.bind {R : α → β → Prop} {S : γ → δ → Prop} {x : Run α} {y : Run β}
    {f : α → Run γ} {g : β → Run δ} (h : Follows R x y)
    (hnext : ∀ a b, R a b → Follows S (f a) (g b)) : Follows S (x >>= f) (y >>= g) := by
  intro c hc
  obtain ⟨a, ha, hc⟩ := result_bind_eq_ok.mp hc
  obtain ⟨b, hb, hab⟩ := h a ha
  obtain ⟨d, hd, hcd⟩ := hnext a b hab c hc
  exact ⟨d, result_bind_eq_ok.mpr ⟨b, hb, hd⟩, hcd⟩

theorem Follows.foldlM {R : β → γ → Prop} {f : β → α → Run β} {g : γ → α → Run γ}
    (hstep : ∀ b c a, R b c → Follows R (f b a) (g c a)) (l : List α) {b : β} {c : γ}
    (h : R b c) : Follows R (l.foldlM f b) (l.foldlM g c) := by
  induction l generalizing b c with
  | nil => exact .pure h
  | cons a l ih =>
    rw [List.foldlM_cons, List.foldlM_cons]
    exact (hstep b c a h).bind fun _ _ hnext => ih hnext

end DocTidy.Run
