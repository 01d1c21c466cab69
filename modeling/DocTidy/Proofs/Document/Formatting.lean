import DocTidy.Proofs.Document.Recording

/-!
# Reading with a code formatter

A formatter gets hold of the examples and of nothing else.  Where reading succeeds with it, reading
succeeds without it too, and the two documents have the same sections in the same order, with the
same contents apart from the examples.
-/

namespace DocTidy.Document

open Text

variable {d d' : Document} {s : Section} {c : Content} {name : Text}
  {format? : Option CodeFormatter}

/-! ## Recording one section -/

theorem get?_store (d : Document) (name : Text) (c : Content) (n : Text) :
    (d.store name c).get? n = if n = name then (d.get? n).map fun _ => c else d.get? n := by
  unfold store get?
  dsimp only
  induction d.sections with
  | nil => simp
  | cons e es ih =>
    obtain ⟨m, old⟩ := e
    rw [List.map_cons, List.lookup_cons, List.lookup_cons]
    by_cases hm : n = m
    · subst hm
      by_cases hn : n = name <;> simp [hn]
    · have hne : (n == m) = false := beq_eq_false_iff_ne.mpr hm
      rw [hne]
      exact ih

theorem recorded_eq_ok_cases (h : (d.recorded format? name c).result = .ok d') :
    ∃ c', (prepare format? name c).result = .ok c' ∧ name ∉ d.order ∧
      d' = { d.store name c' with order := d.order ++ [name] } := by
  change ((record format? d name c).2 >>= fun _ =>
    pure (record format? d name c).1).result = .ok d' at h
  obtain ⟨_, houtcome, h⟩ := Run.result_bind_eq_ok.mp h
  rw [Run.result_pure, Except.ok.injEq] at h
  subst h
  unfold record at houtcome ⊢
  dsimp only at houtcome ⊢
  cases hprepared : (prepare format? name c).result with
  | error e =>
    rw [hprepared] at houtcome
    cases houtcome
  | ok c' =>
    simp only [hprepared] at houtcome ⊢
    by_cases hname : d.order.contains name = true
    · rw [if_pos hname] at houtcome
      cases houtcome
    · rw [if_neg hname]
      exact ⟨c', rfl, fun hmem => hname (List.contains_iff_mem.mpr hmem), rfl⟩

theorem recorded_of_prepare {c' : Content} (hprepared : (prepare format? name c).result = .ok c')
    (hname : name ∉ d.order) :
    (d.recorded format? name c).result =
      .ok { d.store name c' with order := d.order ++ [name] } := by
  change ((record format? d name c).2 >>= fun _ => pure (record format? d name c).1).result = _
  unfold record
  dsimp only
  rw [hprepared]
  dsimp only
  rw [if_neg fun hmem => hname (List.contains_iff_mem.mp hmem)]
  rfl

/-- The formatter is asked for the examples only. -/
theorem prepare_of_ne (hs : s ≠ .examples) (c : Content) :
    prepare format? s.recordName c = prepare none s.recordName c := by
  have hname : includes s.recordName Section.examples.title = false := by
    cases s with
    | examples => exact absurd rfl hs
    | _ => rfl
  unfold prepare
  cases format? with
  | none => rfl
  | some format => simp only [hname, Bool.false_eq_true, ↓reduceIte]

/-! ## Documents that differ in their examples -/

/-- The second document has what the first one has, but for examples that are recorded. -/
structure Formatted (d d' : Document) : Prop where
  order : d'.order = d.order
  kept : ∀ name, name ≠ Section.examples.title ∨ name ∉ d.order → d'.get? name = d.get? name

theorem Formatted.refl (d : Document) : Formatted d d := ⟨rfl, fun _ _ => rfl⟩

/-- Recording one more section keeps documents in step. -/
theorem Formatted.recorded (h : Formatted d d') (s : Section) (c : Content) :
    Run.Follows (fun e' e => Formatted e e') (d'.recorded format? s.recordName c)
      (d.recorded none s.recordName c) := by
  intro e' hrecorded
  obtain ⟨c', hprepared, hname, rfl⟩ := recorded_eq_ok_cases hrecorded
  rw [h.order] at hname
  by_cases hs : s = .examples
  · -- The examples are stored as they are in one document, and formatted in the other.
    subst hs
    have hplain : (prepare none Section.examples.recordName c).result = .ok c := rfl
    refine ⟨_, recorded_of_prepare hplain hname, ?_, fun name hkept => ?_⟩
    · rw [h.order]
    · have hne : name ≠ Section.examples.recordName := by
        rintro rfl
        obtain hkept | hkept := hkept
        · exact hkept rfl
        · exact hkept (List.mem_append_right _ List.mem_cons_self)
      change (d'.store _ c').get? name = (d.store _ c).get? name
      rw [get?_store, get?_store, if_neg hne, if_neg hne]
      exact h.kept name (.inl hne)
  · rw [prepare_of_ne hs] at hprepared
    have htitle : s.recordName ≠ Section.examples.title := fun hrecordName =>
      hs (recordName_injective hrecordName)
    refine ⟨_, recorded_of_prepare hprepared hname, ?_, fun name hkept => ?_⟩
    · rw [h.order]
    · change (d'.store _ c').get? name = (d.store _ c').get? name
      rw [get?_store, get?_store]
      by_cases hrecordName : name = s.recordName
      · rw [if_pos hrecordName, if_pos hrecordName, hrecordName, h.kept _ (.inl htitle)]
      · rw [if_neg hrecordName, if_neg hrecordName]
        exact h.kept name (hkept.imp_right fun hmem hold => hmem (List.mem_append_left _ hold))

theorem Formatted.recordFront {headed : Bool} (front : List (List Text)) (h : Formatted d d') :
    Run.Follows (fun e' e => Formatted e e') (recordFront format? headed d' front)
      (Document.recordFront none headed d front) := by
  induction front generalizing d d' with
  | nil => exact (h.recorded .summary _).bind fun _ _ h => h.recorded .extendedSummary _
  | cons p rest ih =>
    rw [Document.recordFront, Document.recordFront]
    by_cases hsignature : isSignature (oneLine p) = true
    · rw [if_pos hsignature, if_pos hsignature]
      refine (h.recorded .signature _).bind fun _ _ h => ?_
      by_cases hlast : (rest.isEmpty && headed) = true
      · rw [if_pos hlast, if_pos hlast]
        exact h.recorded .summary _
      · rw [if_neg hlast, if_neg hlast]
        exact ih h
    · rw [if_neg hsignature, if_neg hsignature]
      refine (h.recorded .summary _).bind fun _ _ h => ?_
      by_cases hlast : (rest.isEmpty && headed) = true
      · rw [if_pos hlast, if_pos hlast]
        exact .pure h
      · rw [if_neg hlast, if_neg hlast]
        exact h.recorded .extendedSummary _

theorem Formatted.recordSection (docstring : Text) (section_ : Section × List Text)
    (h : Formatted d d') :
    Run.Follows (fun e' e => Formatted e e') (recordSection format? docstring d' section_)
      (Document.recordSection none docstring d section_) := by
  intro e' hsection
  unfold Document.recordSection at hsection ⊢
  dsimp only at hsection ⊢
  by_cases hfilled : (((d'.get? section_.1.recordName).map fun c => !c.isEmpty) == some true) = true
  · rw [if_pos hfilled] at hsection
    cases hsection
  · rw [if_neg hfilled, Run.result_bind_eq_ok] at hsection
    obtain ⟨c, hc, hrecorded⟩ := hsection
    -- The section is new, so both documents have the same for it.
    obtain ⟨_, -, hname, -⟩ := recorded_eq_ok_cases hrecorded
    rw [h.order] at hname
    rw [h.kept _ (.inr hname)] at hfilled
    obtain ⟨e, he, hformatted⟩ := h.recorded section_.1 c e' hrecorded
    rw [if_neg hfilled]
    exact ⟨e, Run.result_bind_eq_ok.mpr ⟨c, hc, he⟩, hformatted⟩

/-- **A formatter changes the examples only.** -/
theorem read_formatted (format? : Option CodeFormatter) (docstring : Text) :
    Run.Follows (fun e' e => Formatted e e') (read format? docstring) (read none docstring) := by
  have hsections (docstring : Text) {e e' : Document} (h : Formatted e e')
      (groups : List (List Text × List (List Text))) (warnings : Run Unit) :
      Run.Follows (fun e' e => Formatted e e')
        (groups.mapM readSection >>= fun sections => warnings >>= fun _ =>
          checkSections (sections.map (·.1)) >>= fun _ =>
            sections.foldlM (Document.recordSection format? docstring) e')
        (groups.mapM readSection >>= fun sections => warnings >>= fun _ =>
          checkSections (sections.map (·.1)) >>= fun _ =>
            sections.foldlM (Document.recordSection none docstring) e) := by
    refine (Run.Follows.refl _).bind fun sections _ hsections => ?_
    subst hsections
    refine (Run.Follows.refl _).bind fun _ _ _ => ?_
    refine (Run.Follows.refl _).bind fun _ _ _ => ?_
    exact .foldlM (fun _ _ section_ h => h.recordSection docstring section_) sections h
  -- Only what is recorded goes through the formatter; headings are found and checked without it.
  unfold read
  dsimp only
  split
  · exact hsections _ (.refl blank) _ _
  · exact ((Formatted.refl blank).recordFront _).bind fun _ _ h => hsections _ h _ _

end DocTidy.Document
