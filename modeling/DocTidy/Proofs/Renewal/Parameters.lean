import DocTidy.Proofs.Fixer
import DocTidy.Proofs.Renewal.Rereading

/-!
# The parameters of a renewed docstring

Before a document is printed its parameters are normalised and fixed.  Each of the two stages fails
for one reason only, a name that cannot be divided and an empty name that stands alone; where neither
does, `params_fixed` says whether any parameter is left.
-/

namespace DocTidy

open Text

/-! ## Dividing names -/

namespace Param

/-- The name seems to hold the type as well, as in `x: int`. -/
def holdsType (p : Param) : Bool :=
  p.type.isEmpty && p.name.contains ':' && !endsWith p.name ":" && !startsWith p.name ".."

/-- There is a colon before a space at which to divide a name that holds its type. -/
def isDivisible (p : Param) : Bool := !p.holdsType || (cutAt? ": " p.name).isSome

/-- The parameter with the type taken out of its name. -/
def divided (p : Param) : Param :=
  if p.holdsType then
    match cutAt? ": " p.name with
    | some (name, type) => { p with name := strip name, type := strip type }
    | none => p
  else p

end Param

namespace Document

variable {d d' : Document} {ps : List Param}

theorem result_normalizeParam (p : Param) :
    (normalizeParam p).result =
      if p.isDivisible then .ok p.divided else .error (.undividedName p.name) := by
  unfold normalizeParam Param.isDivisible Param.divided
  rw [← Param.holdsType]
  cases p.holdsType with
  | false => rfl
  | true =>
    cases hcut : cutAt? ": " p.name with
    | none => cases hrole : startsWithRole p.name <;> rfl
    | some parts => cases hrole : startsWithRole p.name <;> rfl

theorem normalizeParams_of_divisible (h : ∀ p ∈ ps, p.isDivisible = true) :
    (normalizeParams ps).1 = ps.map Param.divided ∧ (normalizeParams ps).2.result = .ok () := by
  induction ps with
  | nil => exact ⟨rfl, rfl⟩
  | cons p ps ih =>
    have hp : (normalizeParam p).result = .ok p.divided := by
      rw [result_normalizeParam, if_pos (h p List.mem_cons_self)]
    obtain ⟨hrest, hok⟩ := ih fun q hq => h q (List.mem_cons_of_mem _ hq)
    rw [normalizeParams]
    simp only [hp, hrest, hok, List.map_cons, and_self]

theorem divisible_of_normalizeParams (h : (normalizeParams ps).2.result = .ok ()) :
    ∀ p ∈ ps, p.isDivisible = true := by
  induction ps with
  | nil => simp
  | cons p ps ih =>
    rw [normalizeParams, result_normalizeParam] at h
    dsimp only at h
    cases hp : p.isDivisible with
    | false =>
      rw [hp] at h
      cases h
    | true =>
      rw [hp] at h
      intro q hq
      obtain rfl | hq := List.mem_cons.mp hq
      · exact hp
      · exact ih h q hq

/-! ## The parameters of a document -/

/-- The documented parameters. -/
def params (d : Document) : List Param :=
  match d.get? Section.parameters.title with
  | some (.params ps) => ps
  | _ => []

/-- There is nothing in the section of the parameters but parameters. -/
def KnowsParams (d : Document) : Prop :=
  d.get Section.parameters.title = .ok (.params d.params) ∨
    d.params = [] ∧ ∃ c, d.get Section.parameters.title = .ok c ∧ c.isEmpty = true

theorem params_cases (hd : d.Sound) :
    d.content .parameters = .params d.params ∨
      d.params = [] ∧ (d.content .parameters).isEmpty = true := by
  unfold params
  rw [hd.isComplete.get?]
  cases hc : d.content .parameters with
  | params ps => exact .inl rfl
  | _ =>
    -- Contents of another kind do not fit, so they are empty.
    refine .inr ⟨rfl, Decidable.of_not_not fun hne => ?_⟩
    have hfits := hd.fits _ _ (contents?_eq_some_iff.mpr ⟨Bool.eq_false_iff.mpr hne, hc⟩)
    cases hfits

theorem Sound.knowsParams (hd : d.Sound) : d.KnowsParams := by
  rw [KnowsParams, get_title hd.isComplete]
  obtain hparams | ⟨hnil, hempty⟩ := params_cases hd
  · exact .inl (congrArg _ hparams)
  · exact .inr ⟨hnil, _, rfl, hempty⟩

theorem params_store (hd : d.Sound) (qs : List Param) :
    (d.store Section.parameters.title (.params qs)).params = qs := by
  obtain ⟨hcomplete, hcontent⟩ := store_title hd.isComplete .parameters (.params qs)
  rw [params, hcomplete.get?, hcontent, Function.update_self]

theorem isSome_contents?_parameters (hd : d.Sound) :
    (d.contents? .parameters).isSome = true ↔ d.params ≠ [] := by
  unfold contents?
  obtain hparams | ⟨hnil, hempty⟩ := params_cases hd
  · rw [hparams]
    cases d.params <;> simp [Content.isEmpty]
  · simp [hnil, hempty]

theorem contents?_parameters (hd : d.Sound) :
    d.contents? .parameters = if d.params = [] then none else some (.params d.params) := by
  have hiff := isSome_contents?_parameters hd
  split
  · rename_i hnil
    rwa [← Option.not_isSome_iff_eq_none, hiff, not_not]
  · rename_i hne
    obtain hparams | ⟨hnil, -⟩ := params_cases hd
    · refine contents?_eq_some_iff.mpr ⟨?_, hparams⟩
      simpa [Content.isEmpty] using hne
    · exact absurd hnil hne

theorem params_eq_of_contents? (hd : d.Sound) (hd' : d'.Sound)
    (h : d.contents? .parameters = d'.contents? .parameters) : d.params = d'.params := by
  rw [contents?_parameters hd, contents?_parameters hd'] at h
  split at h
  · rename_i hnil
    split at h
    · rename_i hnil'
      rw [hnil, hnil']
    · cases h
  · split at h
    · cases h
    · exact Content.params.inj (Option.some.inj h)

/-! ## Normalising -/

theorem normalize_eq (hd : d.Sound) :
    normalize d = (d.store Section.parameters.title (.params (normalizeParams d.params).1),
        (normalizeParams d.params).2) ∨
      d.params = [] ∧ normalize d = (d, pure ()) := by
  unfold normalize
  rw [get_title hd.isComplete]
  obtain hparams | ⟨hnil, hempty⟩ := params_cases hd
  · rw [hparams]
    exact .inl rfl
  · split
    · rename_i herror
      cases herror
    · rename_i ps hps
      obtain rfl : d.params = ps := by
        rw [params, hd.isComplete.get?, Except.ok.inj hps]
      exact .inl rfl
    · rename_i c _ hc
      rw [Except.ok.inj hc] at hempty
      rw [if_pos hempty]
      exact .inr ⟨hnil, rfl⟩

theorem normalized_eq_ok_iff :
    d.normalized.result = .ok d' ↔ (normalize d).2.result = .ok () ∧ d' = (normalize d).1 := by
  change ((normalize d).2 >>= fun _ => pure (normalize d).1).result = .ok d' ↔ _
  rw [Run.result_bind_eq_ok]
  simp only [Run.result_pure, Except.ok.injEq, eq_comm]
  exact ⟨fun ⟨_, houtcome, hd'⟩ => ⟨houtcome, hd'⟩, fun ⟨houtcome, hd'⟩ => ⟨(), houtcome, hd'⟩⟩

theorem normalized_of_divisible (hd : d.Sound) (h : ∀ p ∈ d.params, p.isDivisible = true) :
    ∃ d', d.normalized.result = .ok d' ∧ d'.params = d.params.map Param.divided := by
  obtain ⟨hdivided, hok⟩ := normalizeParams_of_divisible h
  refine ⟨(normalize d).1, normalized_eq_ok_iff.mpr ⟨?_, rfl⟩, ?_⟩
  · obtain hnormalize | ⟨-, hnormalize⟩ := normalize_eq hd
    · rw [hnormalize]
      exact hok
    · rw [hnormalize]
      rfl
  · obtain hnormalize | ⟨hnil, hnormalize⟩ := normalize_eq hd
    · rw [hnormalize, params_store hd, hdivided]
    · rw [hnormalize, hnil, List.map_nil]

theorem divisible_of_normalized (hd : d.Sound) (h : d.normalized.result = .ok d') :
    ∀ p ∈ d.params, p.isDivisible = true := by
  obtain ⟨houtcome, -⟩ := normalized_eq_ok_iff.mp h
  obtain hnormalize | ⟨hnil, -⟩ := normalize_eq hd
  · rw [hnormalize] at houtcome
    exact divisible_of_normalizeParams houtcome
  · simp [hnil]

end Document

/-! ## Fixing -/

namespace Renewal

open Document Fixer

variable {r : Renewal} {subject : Subject} {docstring : Text} {d : Document}

theorem fixParams_of_nil (hd : d.KnowsParams) (h : d.params = []) :
    (r.fixParams subject d).result = .ok (d, false, false) := by
  unfold fixParams
  refine Run.result_bind_eq_ok.mpr ?_
  obtain hparams | ⟨-, c, hc, hempty⟩ := hd
  · rw [h] at hparams
    exact ⟨_, hparams, rfl⟩
  · refine ⟨c, hc, ?_⟩
    split
    · cases hempty
    · rfl

/-- Without a verdict on the names there is nothing to go on with. -/
theorem fixParams_of_ne_nil (hd : d.KnowsParams) (h : d.params ≠ []) :
    (r.fixParams subject d).result =
      (fix r.settings (subject.file ++ ":" ++ subject.function) subject.signature.names
        subject.signature d.params).result.bind fun verdict =>
          match verdict.mismatch with
          | none => .error (.tooFewParts 3 2)
          | some mismatch => .ok (d.store Section.parameters.title (.params verdict.params),
              verdict.hasPlaceholder, mismatch) := by
  have hparams : d.get Section.parameters.title = .ok (.params d.params) :=
    hd.resolve_right fun hnil => h hnil.1
  unfold fixParams
  simp only [hparams, Run.result_bind, Run.result_ofExcept, Except.bind]
  cases hps : d.params with
  | nil => exact absurd hps h
  | cons p ps =>
    simp only [Run.result_bind]
    congr 1
    funext verdict
    cases verdict.mismatch <;> rfl

/-- **When the parameters can be fixed**, and when none is left afterwards. -/
theorem fixParams_cases (hfixers : r.settings.runFixers = true)
    (hplaceholder : r.settings.withPlaceholder.isSome = true)
    (hargs : (subject.signature.args.map (·.name)).Nodup) (hd : d.Sound) :
    if namesExtra (withoutReceiver subject.signature.names) d.params = [[]] then
      (r.fixParams subject d).result = .error .emptyName
    else
      ∃ d' hasPlaceholder mismatch,
        (r.fixParams subject d).result = .ok (d', hasPlaceholder, mismatch) ∧
          (d'.params = [] ↔ d.params = [] ∨ removesAll subject.signature d.params = true) := by
  by_cases hnil : d.params = []
  · -- Without parameters the fixer is not asked.
    have hextra : namesExtra (withoutReceiver subject.signature.names) d.params ≠ [[]] := by
      rw [hnil]
      simp [namesExtra, documented]
    rw [if_neg hextra]
    exact ⟨d, false, false, fixParams_of_nil hd.knowsParams hnil, by simp [hnil]⟩
  · have hcases := fix_cases (subject.file ++ ":" ++ subject.function) hfixers hplaceholder hargs hnil
    rw [fixParams_of_ne_nil hd.knowsParams hnil]
    by_cases hextra : namesExtra (withoutReceiver subject.signature.names) d.params = [[]]
    · rw [if_pos hextra] at hcases ⊢
      rw [hcases]
      rfl
    · rw [if_neg hextra] at hcases ⊢
      obtain ⟨verdict, mismatch, hfix, hmismatch, hlost⟩ := hcases
      refine ⟨d.store Section.parameters.title (.params verdict.params), verdict.hasPlaceholder,
        mismatch, ?_, ?_⟩
      · rw [hfix, Except.bind, hmismatch]
      · rw [params_store hd, hlost]
        exact ⟨.inr, fun h => h.resolve_left hnil⟩

theorem result_readDocstring (subject : Subject)
    (h : (Document.read r.format? (dedentDocstring docstring)).result = .ok d) :
    (r.readDocstring subject docstring).result = .ok d := by
  unfold readDocstring
  dsimp only
  rw [h]

/-- A document is fixed as soon as it has been normalised. -/
theorem result_fixed (subject : Subject) (hformat : r.format? = none) (hfixers : r.settings.runFixers = true)
    (hread : (Document.read none (dedentDocstring docstring)).result = .ok d) :
    (r.fixed subject docstring).result =
      d.normalized.result.bind fun d => (r.fixParams subject d).result := by
  rw [← hformat] at hread
  rw [fixed, Run.result_bind, result_readDocstring subject hread, hfixers]
  exact Run.result_bind _ _

/-- The parameters of a document can be divided into names and types, and it does not happen that only an
empty name is left over. -/
structure Fixable (sig : Signature) (ps : List Param) : Prop where
  divisible : ∀ p ∈ ps, p.isDivisible = true
  named : namesExtra (withoutReceiver sig.names) (ps.map Param.divided) ≠ [[]]

/-- **When a document can be fixed**, and when no parameter is left afterwards. -/
theorem fixed_cases (hformat : r.format? = none) (hfixers : r.settings.runFixers = true)
    (hplaceholder : r.settings.withPlaceholder.isSome = true)
    (hargs : (subject.signature.args.map (·.name)).Nodup)
    (hread : (Document.read none (dedentDocstring docstring)).result = .ok d) :
    (∀ v, (r.fixed subject docstring).result ≠ .ok v) ∧ ¬ Fixable subject.signature d.params ∨
      ∃ d' hasPlaceholder mismatch,
        (r.fixed subject docstring).result = .ok (d', hasPlaceholder, mismatch) ∧
          Fixable subject.signature d.params ∧ d.Refits d' ∧
          (d'.params = [] ↔ d.params = [] ∨
            removesAll subject.signature (d.params.map Param.divided) = true) := by
  have hd := sound_read hread
  have hfixed := result_fixed subject hformat hfixers hread
  -- The fixer sees the parameters as normalising leaves them.
  by_cases hdivisible : ∀ p ∈ d.params, p.isDivisible = true
  · obtain ⟨d₁, hnormalized, hparams⟩ := normalized_of_divisible hd hdivisible
    have hrefits := refits_normalized hd hnormalized
    have hcases := fixParams_cases hfixers hplaceholder hargs hrefits.sound
    rw [hfixed, hnormalized]
    rw [hparams] at hcases
    by_cases hextra : namesExtra (withoutReceiver subject.signature.names)
        (d.params.map Param.divided) = [[]]
    · rw [if_pos hextra] at hcases
      refine .inl ⟨fun v hv => ?_, fun hfixable => hfixable.named hextra⟩
      rw [Except.bind, hcases] at hv
      cases hv
    · rw [if_neg hextra] at hcases
      obtain ⟨d', hasPlaceholder, mismatch, hok, hlost⟩ := hcases
      refine .inr ⟨d', hasPlaceholder, mismatch, hok, ⟨hdivisible, hextra⟩,
        hrefits.trans (refits_fixParams hrefits.sound hok), ?_⟩
      rw [hlost, List.map_eq_nil_iff]
  · refine .inl ⟨fun v hv => ?_, fun hfixable => hdivisible hfixable.divisible⟩
    rw [hfixed] at hv
    cases hnormalized : d.normalized.result with
    | error e =>
      rw [hnormalized] at hv
      cases hv
    | ok d₁ => exact hdivisible (divisible_of_normalized hd hnormalized)

end Renewal
end DocTidy
