import DocTidy.Proofs.Document.Formatting
import DocTidy.Proofs.Document.Reading

/-!
# Editing a document

A document that was read can be edited: sections are recorded under any name, known or not, and
the parameters are normalised.  Each edit may fail before, between or after its steps, and the next
one goes on from there.  Through all of this a document accounts for its contents: no name is
recorded twice, and only recorded sections have contents other than the default (`Accounted`).
-/

namespace DocTidy.Document

open Text

variable {d : Document} {name docstring : Text} {ps qs : List Param}
  {format? : Option CodeFormatter}

/-- The document accounts for its contents: it knows the sections, no name is recorded twice, and the
contents of a section that is not recorded are the default. -/
structure Accounted (d : Document) : Prop where
  isComplete : d.IsComplete
  nodup : d.order.Nodup
  unrecorded : ∀ s, s.title ∉ d.order → d.content s = s.default

theorem accounted_blank : blank.Accounted := by
  obtain ⟨hcomplete, hcontent⟩ := content_blank
  exact ⟨hcomplete, List.nodup_nil, fun s _ => by rw [hcontent]⟩

theorem Sound.accounted (hd : d.Sound) : d.Accounted := ⟨hd.isComplete, hd.nodup, hd.unrecorded⟩

/-! ## Recording -/

/-- Storing under a name changes at most the section of that title. -/
theorem store_isComplete (hd : d.IsComplete) (name : Text) (c : Content) :
    (d.store name c).IsComplete ∧
      ∀ s : Section, s.title ≠ name → (d.store name c).content s = d.content s := by
  by_cases hname : ∃ s : Section, s.title = name
  · obtain ⟨s, rfl⟩ := hname
    obtain ⟨hcomplete, hcontent⟩ := store_title hd s c
    refine ⟨hcomplete, fun s' hs' => ?_⟩
    rw [hcontent, Function.update_of_ne]
    rintro rfl
    exact hs' rfl
  · rw [store_of_unknown hd (fun s hs => hname ⟨s, hs⟩) c]
    exact ⟨hd, fun _ _ => rfl⟩

/-- The contents of a recorded section may change. -/
theorem Accounted.store (hd : d.Accounted) (hname : name ∈ d.order) (c : Content) :
    (d.store name c).Accounted := by
  obtain ⟨hcomplete, hkept⟩ := store_isComplete hd.isComplete name c
  refine ⟨hcomplete, hd.nodup, fun s hs => ?_⟩
  have hne : s.title ≠ name := fun htitle => hs (htitle ▸ hname)
  rw [hkept s hne, hd.unrecorded s hs]

/-- A name that joins the order may bring contents with it. -/
theorem Accounted.storeNew (hd : d.Accounted) (hname : name ∉ d.order) (c : Content) :
    Accounted { d.store name c with order := d.order ++ [name] } := by
  obtain ⟨hcomplete, hkept⟩ := store_isComplete hd.isComplete name c
  have hcontent : content { d.store name c with order := d.order ++ [name] } =
      (d.store name c).content := content_congr rfl
  refine ⟨?_, ?_, fun s hs => ?_⟩
  · rw [IsComplete, hcontent]
    exact hcomplete
  · rw [← List.concat_eq_append]
    exact hd.nodup.concat hname
  · rw [List.mem_append, List.mem_singleton, not_or] at hs
    rw [hcontent, hkept s hs.2, hd.unrecorded s hs.1]

/-- What recording does to a document: nothing, if the contents cannot be prepared; otherwise they are
stored, and the name joins the order unless it is there, in which case recording fails. -/
theorem record_cases (format? : Option CodeFormatter) (d : Document) (name : Text) (c : Content) :
    (record format? d name c).1 = d ∨
      (∃ c', name ∈ d.order ∧ (record format? d name c).1 = d.store name c') ∨
      ∃ c', name ∉ d.order ∧
        (record format? d name c).1 = { d.store name c' with order := d.order ++ [name] } := by
  unfold record
  dsimp only
  split
  · exact .inl rfl
  · rename_i c' _
    split
    · rename_i hname
      exact .inr (.inl ⟨c', List.contains_iff_mem.mp hname, rfl⟩)
    · rename_i hname
      exact .inr (.inr ⟨c', fun hmem => hname (List.contains_iff_mem.mpr hmem), rfl⟩)

theorem Accounted.record (hd : d.Accounted) (format? : Option CodeFormatter) (name : Text)
    (c : Content) : (record format? d name c).1.Accounted := by
  obtain hsame | ⟨c', hname, hstored⟩ | ⟨c', hname, hstored⟩ := record_cases format? d name c
  · rw [hsame]
    exact hd
  · rw [hstored]
    exact hd.store hname c'
  · rw [hstored]
    exact hd.storeNew hname c'

theorem accounted_read (h : (read format? docstring).result = .ok d) : d.Accounted := by
  refine read_keeps (fun d s c d' hd h _ => ?_) accounted_blank h
  obtain ⟨c', -, hname, rfl⟩ := recorded_eq_ok_cases h
  exact hd.storeNew hname c'

/-! ## Normalising -/

theorem normalize_cases (hd : d.IsComplete) :
    (normalize d).1 = d ∨ ∃ ps, d.content .parameters = .params ps ∧
      (normalize d).1 = d.store Section.parameters.title (.params (normalizeParams ps).1) := by
  unfold normalize
  rw [get_title hd]
  split
  · exact .inl rfl
  · rename_i ps hps
    exact .inr ⟨ps, Except.ok.inj hps, rfl⟩
  · left
    split
    · rfl
    · split <;> rfl

/-- Parameters may change, but none may come where there were none: the section need not be recorded. -/
theorem Accounted.storeParams (hd : d.Accounted) (hps : d.content .parameters = .params ps)
    (hqs : ps = [] → qs = []) : (d.store Section.parameters.title (.params qs)).Accounted := by
  by_cases hrecorded : Section.parameters.title ∈ d.order
  · exact hd.store hrecorded _
  · -- Parameters that are not recorded are the default, an empty list, and stay empty.
    have hdefault := hd.unrecorded .parameters hrecorded
    rw [hps] at hdefault
    obtain rfl := hqs (Content.params.inj hdefault)
    obtain ⟨hcomplete, hcontent⟩ := store_title hd.isComplete .parameters (.params [])
    refine ⟨hcomplete, hd.nodup, fun s hs => ?_⟩
    rw [hcontent]
    by_cases hparams : s = .parameters
    · rw [hparams, Function.update_self]
      rfl
    · rw [Function.update_of_ne hparams, hd.unrecorded s hs]

theorem Accounted.normalize (hd : d.Accounted) : d.normalize.1.Accounted := by
  obtain hsame | ⟨ps, hps, hstored⟩ := normalize_cases hd.isComplete
  · rw [hsame]
    exact hd
  · rw [hstored]
    refine hd.storeParams hps ?_
    rintro rfl
    rfl

/-! ## Runs of edits -/

/-- An edit of a document. -/
inductive Edit where
  /-- Records contents of any kind under any name. -/
  | assign (name : Text) (c : Content)
  | normalize

/-- The document that an edit leaves behind, whether it succeeds or not. -/
def Edit.apply (format? : Option CodeFormatter) (d : Document) : Edit → Document
  | assign name c => (d.record format? name c).1
  | normalize => d.normalize.1

/-- The document after some edits, of which any may have failed. -/
def after (format? : Option CodeFormatter) (d : Document) (edits : List Edit) : Document :=
  edits.foldl (Edit.apply format?) d

theorem Accounted.apply (hd : d.Accounted) (format? : Option CodeFormatter) (edit : Edit) :
    (edit.apply format? d).Accounted := by
  cases edit with
  | assign name c => exact hd.record format? name c
  | normalize => exact hd.normalize

/-- **Edits keep a document accounted for**, in runs of any length. -/
theorem Accounted.after (hd : d.Accounted) (format? : Option CodeFormatter) (edits : List Edit) :
    (d.after format? edits).Accounted := by
  induction edits generalizing d with
  | nil => exact hd
  | cons edit edits ih => exact ih (hd.apply format? edit)

end DocTidy.Document
