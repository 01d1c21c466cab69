import DocTidy.Proofs.Document.Formatting
import DocTidy.Proofs.Document.Reading

/-!
# Documents as data and back

Data leaves out the sections that are empty, and reading it back puts empty ones in their place.  So the
sections of the document that comes back are those that were not empty, with the same data, followed by
empty ones.  Its data is the same data, and a second exchange changes nothing.
-/

namespace DocTidy

open Text

/-! ## Contents as data -/

namespace Content

theorem isEmpty_toDatum (c : Content) : c.toDatum.isEmpty = c.isEmpty := by
  cases c with
  | text t => rfl
  | data d => rfl
  | lines ls | params ps | links ls => exact List.isEmpty_map

theorem texts_of_asTexts? {items : List Datum} {ls : List Text}
    (h : items.mapM Datum.asText? = some ls) : items = ls.map .text := by
  induction items generalizing ls with
  | nil =>
    obtain rfl : [] = ls := Option.some.inj h
    rfl
  | cons item items ih =>
    rw [List.mapM_cons] at h
    obtain ⟨t, ht, h⟩ := Option.bind_eq_some_iff.mp h
    obtain ⟨ts, hts, h⟩ := Option.bind_eq_some_iff.mp h
    obtain rfl : t :: ts = ls := Option.some.inj h
    cases item with
    | text t' =>
      obtain rfl : t' = t := Option.some.inj ht
      rw [ih hts, List.map_cons]
    | _ => cases ht

/-- Contents that data brings in are that data. -/
theorem toDatum_ofDatum (d : Datum) : (ofDatum d).toDatum = d := by
  unfold ofDatum
  split
  · rfl
  · split
    · rename_i ls hls
      cases d with
      | list items => exact congrArg Datum.list (texts_of_asTexts? hls).symm
      | _ => cases hls
    · rfl

end Content

namespace Document

variable {d d' : Document} {s : Section} {c : Content} {name : Text}
  {format? : Option CodeFormatter} {docstring : Text} {ss ss' : List (Text × Content)}

theorem asTexts?_texts (ts : List Text) : (Datum.texts ts).asTexts? = some ts :=
  mapM_map_of_inverse (f := Datum.asText?) (g := Datum.text) (fun _ => rfl) ts

/-- Parameters are told from their data. -/
theorem paramsOfDatum_toDatum (ps : List Param) :
    paramsOfDatum (Content.params ps).toDatum = .ok (.params ps) := by
  have hparts : (ps.map Content.ofParam).mapM paramParts =
      .ok (ps.map fun p => (.text p.name, .text p.type, .texts p.desc)) := by
    rw [Run.except_mapM_eq_ok, List.forall₂_map_left_iff, List.forall₂_map_right_iff]
    exact List.forall₂_same.mpr fun _ _ => rfl
  have hparams : (ps.map fun p => (Datum.text p.name, Datum.text p.type, Datum.texts p.desc)).mapM
      paramOfParts? = some ps :=
    mapM_map_of_inverse (fun p => by rw [paramOfParts?, asTexts?_texts]; rfl) ps
  unfold paramsOfDatum
  change ((ps.map Content.ofParam).mapM paramParts >>= _) = _
  rw [hparts]
  dsimp only [bind, Except.bind]
  rw [hparams]
  rfl

/-! ## Documents that can be exchanged -/

/-- What is true of every document that was read: it knows the sections, its parameters are parameters,
and it has no further attributes. -/
structure Exchangeable (d : Document) : Prop where
  isComplete : d.IsComplete
  params : ∃ ps, d.content .parameters = .params ps
  extra : d.extra = []

theorem exchangeable_blank : blank.Exchangeable := by
  obtain ⟨hcomplete, hcontent⟩ := content_blank
  exact ⟨hcomplete, ⟨[], by rw [hcontent]; rfl⟩, rfl⟩

theorem exists_params (hc : c.Fits .parameters) : ∃ ps, c = .params ps := by
  cases c with
  | params ps => exact ⟨ps, rfl⟩
  | _ => cases hc

theorem Exchangeable.recorded (hd : d.Exchangeable)
    (h : (d.recorded format? s.recordName c).result = .ok d') (hc : c.Fits s) : d'.Exchangeable := by
  obtain ⟨c', hprepared, -, rfl⟩ := recorded_eq_ok_cases h
  obtain ⟨hcomplete, hcontent⟩ := store_recordName hd.isComplete s c'
  refine ⟨hcomplete, ?_, hd.extra⟩
  change ∃ ps, (d.store s.recordName c').content .parameters = .params ps
  rw [hcontent]
  split
  · exact hd.params
  · by_cases hs : s = .parameters
    · -- Parameters are recorded as they are.
      subst hs
      rw [prepare_of_ne (by simp), prepare_eq hc] at hprepared
      obtain rfl : c = c' := Except.ok.inj hprepared
      rw [Function.update_self]
      exact exists_params hc
    · rw [Function.update_of_ne (Ne.symm hs)]
      exact hd.params

theorem exchangeable_read (h : (read format? docstring).result = .ok d) : d.Exchangeable :=
  read_keeps (fun _ _ _ _ hd h hc => hd.recorded h hc) exchangeable_blank h

theorem frontEntries_ne_nil (headed : Bool) (front : List (List Text)) :
    frontEntries headed front ≠ [] := by
  cases front with
  | nil => exact List.cons_ne_nil _ _
  | cons p rest =>
    rw [frontEntries]
    split
    · exact List.cons_ne_nil _ _
    · exact List.cons_ne_nil _ _

/-- Something is recorded of every docstring, if only empty summaries. -/
theorem order_ne_nil_of_read (h : (read format? docstring).result = .ok d) : d.order ≠ [] := by
  obtain ⟨e, he, hformatted⟩ := read_formatted format? docstring d h
  obtain ⟨es, hes, rfl⟩ := read_eq_ok_iff.mp he
  rw [hformatted.order, order_addAll]
  intro hnil
  obtain ⟨hopening, rfl⟩ := List.append_eq_nil_iff.mp (List.map_eq_nil_iff.mp hnil)
  -- Without headings there are entries for the paragraphs, even if there are no paragraphs.
  have hgroups : (headedParagraphs docstring).2 = [] := List.forall₂_nil_right_iff.mp hes.reads
  rw [hgroups, openingEntries, if_neg (by simp)] at hopening
  exact frontEntries_ne_nil _ _ hopening

/-- Normalising replaces the parameters and nothing else. -/
theorem Exchangeable.normalize_eq (hd : d.Exchangeable) :
    ∃ ps, d.normalize.1 = d.store Section.parameters.title (.params ps) := by
  obtain ⟨ps, hps⟩ := hd.params
  have hget : d.get Section.parameters.title = .ok (.params ps) := by
    rw [get, hd.isComplete.get?, hps]
  unfold Document.normalize
  rw [hget]
  exact ⟨_, rfl⟩

theorem Exchangeable.normalize (hd : d.Exchangeable) : d.normalize.1.Exchangeable := by
  obtain ⟨ps, hps⟩ := hd.normalize_eq
  obtain ⟨hcomplete, hcontent⟩ := store_title hd.isComplete .parameters (.params ps)
  rw [hps]
  exact ⟨hcomplete, ⟨ps, by rw [hcontent, Function.update_self]⟩, hd.extra⟩

theorem Exchangeable.order_normalize (hd : d.Exchangeable) : d.normalize.1.order = d.order := by
  obtain ⟨ps, hps⟩ := hd.normalize_eq
  rw [hps]
  rfl

/-! ## Filling in -/

/-- Sections as data. -/
def dataOf (ss : List (Text × Content)) : List (Text × Datum) := ss.map fun e => (e.1, e.2.toDatum)

/-- The second sections are the first ones with empty sections behind them, as data. -/
def Fills (ss ss' : List (Text × Content)) : Prop :=
  ∃ added, dataOf ss' = dataOf ss ++ added ∧ ∀ e ∈ added, e.2.isEmpty = true

theorem Fills.of_eq (h : dataOf ss' = dataOf ss) : Fills ss ss' :=
  ⟨[], by rw [h, List.append_nil], by simp⟩

theorem Fills.trans {ss'' : List (Text × Content)} (h : Fills ss ss') (h' : Fills ss' ss'') :
    Fills ss ss'' := by
  obtain ⟨added, hdata, hempty⟩ := h
  obtain ⟨added', hdata', hempty'⟩ := h'
  exact ⟨added ++ added', by rw [hdata', hdata, List.append_assoc],
    List.forall_mem_append.mpr ⟨hempty, hempty'⟩⟩

theorem fills_withSection (s : Section) (h : ss.lookup s.title = none → c.isEmpty = true) :
    Fills ss (withSection ss s c) := by
  unfold withSection
  cases hlookup : ss.lookup s.title with
  | some c' => exact .of_eq rfl
  | none =>
    refine ⟨[(s.title, c.toDatum)], List.map_append, ?_⟩
    rw [List.forall_mem_singleton, Content.isEmpty_toDatum]
    exact h hlookup

theorem fills_foldl (missing : List Section) (ss : List (Text × Content)) :
    Fills ss (missing.foldl (fun ss s => withSection ss s (.lines [])) ss) := by
  induction missing generalizing ss with
  | nil => exact .of_eq rfl
  | cons s missing ih => exact (fills_withSection s fun _ => rfl).trans (ih _)

theorem mem_withSection {e : Text × Content} (h : e ∈ withSection ss s c) :
    e ∈ ss ∨ e = (s.title, c) := by
  unfold withSection at h
  split at h
  · exact .inl h
  · exact (List.mem_append.mp h).imp_right List.mem_singleton.mp

/-- The sections with the parameters in place and the missing ones filled in. -/
def completed (ss : List (Text × Content)) (ps : Content) : List (Text × Content) :=
  withSection (filledIn.foldl (fun ss s => withSection ss s (.lines []))
    ((withSection ss .parameters ps).map fun e =>
      (e.1, if e.1 = Section.parameters.title then ps else e.2))) .index (.data (.object []))

theorem sectionsOfData_eq (ss : List (Text × Content)) :
    sectionsOfData ss = (match ss.lookup Section.parameters.title with
      | none => .ok (.params [])
      | some c => paramsOfDatum c.toDatum) >>= fun ps => .ok (completed ss ps) := by
  unfold sectionsOfData
  dsimp only
  cases ss.lookup Section.parameters.title with
  | none => rfl
  | some c => rfl

theorem fills_completed {ps : List Param}
    (hgiven : ∀ e ∈ ss, e.1 = Section.parameters.title → e.2.toDatum = (Content.params ps).toDatum)
    (hmissing : ss.lookup Section.parameters.title = none → ps = []) :
    Fills ss (completed ss (.params ps)) := by
  have hadded : Fills ss (withSection ss .parameters (.params ps)) :=
    fills_withSection .parameters fun hlookup => by rw [hmissing hlookup]; rfl
  refine (hadded.trans (.of_eq ?_)).trans ((fills_foldl filledIn _).trans
    (fills_withSection .index fun _ => rfl))
  -- Putting the parameters in place does not change their data.
  unfold dataOf
  rw [List.map_map]
  refine List.map_congr_left fun e he => ?_
  obtain ⟨n, c⟩ := e
  change (n, (if n = Section.parameters.title then Content.params ps else c).toDatum) = (n, c.toDatum)
  split
  · rename_i hn
    obtain he | he := mem_withSection he
    · rw [hgiven _ he hn]
    · rw [(Prod.mk.inj he).2]
  · rfl

/-- **Sections that data describes** are there with the same data, and all that is filled in is empty. -/
theorem exists_sectionsOfData {ps : List Param}
    (hgiven : ∀ e ∈ ss, e.1 = Section.parameters.title → e.2.toDatum = (Content.params ps).toDatum)
    (hmissing : ss.lookup Section.parameters.title = none → ps = []) :
    ∃ ss', sectionsOfData ss = .ok ss' ∧ Fills ss ss' := by
  refine ⟨completed ss (.params ps), ?_, fills_completed hgiven hmissing⟩
  rw [sectionsOfData_eq]
  cases hlookup : ss.lookup Section.parameters.title with
  | none =>
    rw [hmissing hlookup]
    rfl
  | some c =>
    obtain ⟨front, back, rfl, -⟩ := List.lookup_eq_some_iff.mp hlookup
    have hc := hgiven (Section.parameters.title, c) (by simp) rfl
    dsimp only at hc ⊢
    rw [hc, paramsOfDatum_toDatum]
    rfl

/-! ## Exchanging -/

theorem filledSections_eq_filter (d : Document) :
    d.filledSections = d.allSections.filter fun e => !e.2.isEmpty := by
  unfold filledSections allSections
  rw [List.filter_map]
  congr 1
  refine List.filter_congr fun e _ => ?_
  rw [Function.comp_apply, Content.isEmpty_toDatum]

/-- The data of a section is that of its contents, unless they are empty. -/
theorem lookup_filledSections (hd : d.IsComplete) (name : Text) :
    d.filledSections.lookup name =
      (d.get? name).bind fun c => if c.isEmpty then none else some c.toDatum := by
  cases hget : d.get? name with
  | none =>
    rw [Option.bind_none, List.lookup_eq_none_iff]
    intro e he
    obtain ⟨e', hmem, rfl⟩ := List.mem_map.mp he
    exact List.lookup_eq_none_iff.mp hget e' (List.mem_filter.mp hmem).1
  | some c =>
    obtain ⟨front, back, hsections, -⟩ := List.lookup_eq_some_iff.mp hget
    have hmem : (name, c) ∈ tabulate d.content := by
      rw [← hd, hsections]
      exact List.mem_append_right front List.mem_cons_self
    obtain ⟨s, -, hs⟩ := List.mem_map.mp hmem
    obtain ⟨rfl, rfl⟩ := Prod.mk.inj hs
    rw [filledSections_eq hd,
      lookup_filterMap_title (fun s => (d.contents? s).map Content.toDatum) s.mem_all, contents?]
    cases hempty : (d.content s).isEmpty with
    | true => simp [hempty]
    | false => simp [hempty]

theorem toDatum_eq (horder : d.order ≠ []) (hextra : d.extra = []) :
    d.toDatum = .object [(orderKey, .texts d.order), (sectionsKey, .object d.filledSections)] := by
  unfold toDatum
  rw [if_neg (by simpa using horder), hextra]
  rfl

/-- **What comes back** has the same order, and the sections that were not empty with empty ones behind
them. -/
theorem exists_ofDatum (hd : d.Exchangeable) (horder : d.order ≠ []) :
    ∃ d', ofDatum d.toDatum = .ok d' ∧ d'.order = d.order ∧ d'.extra = [] ∧
      ∃ added, d'.allSections = d.filledSections ++ added ∧ ∀ e ∈ added, e.2.isEmpty = true := by
  obtain ⟨ps, hps⟩ := hd.params
  have hget : d.get? Section.parameters.title = some (.params ps) := by
    rw [hd.isComplete.get?, hps]
  have hgiven : ∀ e ∈ d.filledSections.map fun e => (e.1, Content.ofDatum e.2),
      e.1 = Section.parameters.title → e.2.toDatum = (Content.params ps).toDatum := by
    intro e he hname
    obtain ⟨⟨n, v⟩, hmem, rfl⟩ := List.mem_map.mp he
    rw [filledSections_eq hd.isComplete] at hmem
    obtain ⟨s, -, hs⟩ := List.mem_filterMap.mp hmem
    obtain ⟨_, hv, hentry⟩ := Option.map_eq_some_iff.mp hs
    obtain ⟨c, hc, rfl⟩ := Option.map_eq_some_iff.mp hv
    obtain ⟨rfl, rfl⟩ := Prod.mk.inj hentry
    obtain rfl : s = .parameters := Section.title_injective hname
    rw [Content.toDatum_ofDatum, ← (contents?_eq_some_iff.mp hc).2, hps]
  have hmissing (h : (d.filledSections.map fun e => (e.1, Content.ofDatum e.2)).lookup
      Section.parameters.title = none) : ps = [] := by
    rw [lookup_map_snd, Option.map_eq_none_iff, lookup_filledSections hd.isComplete, hget] at h
    cases ps with
    | nil => rfl
    | cons p ps => cases h
  -- Every key of the data is known, so the sections are all that is left to read.
  obtain ⟨ss, hss, added, hadded, hempty⟩ := exists_sectionsOfData hgiven hmissing
  refine ⟨⟨ss, d.order, []⟩, ?_, rfl, rfl, added, ?_, hempty⟩
  · rw [toDatum_eq horder hd.extra]
    change (sectionsOfData (d.filledSections.map fun e => (e.1, Content.ofDatum e.2)) >>= fun sections =>
      Except.ok (Document.mk sections ((Datum.texts d.order).asTexts?.getD []) [])) = _
    rw [hss, asTexts?_texts]
    rfl
  · have hdata : dataOf (d.filledSections.map fun e => (e.1, Content.ofDatum e.2)) =
        d.filledSections := by
      unfold dataOf
      rw [List.map_map]
      refine (List.map_congr_left fun e _ => ?_).trans (List.map_id _)
      exact Prod.ext rfl (Content.toDatum_ofDatum e.2)
    rw [hdata] at hadded
    exact hadded

/-- Empty sections leave no trace in the data. -/
theorem filledSections_of_allSections {added : List (Text × Datum)}
    (h : d'.allSections = d.filledSections ++ added) (hempty : ∀ e ∈ added, e.2.isEmpty = true) :
    d'.filledSections = d.filledSections := by
  have hkept : d.filledSections.filter (fun e => !e.2.isEmpty) = d.filledSections := by
    rw [filledSections_eq_filter, List.filter_filter]
    simp
  have hdropped : added.filter (fun e => !e.2.isEmpty) = [] :=
    List.filter_eq_nil_iff.mpr fun e he => by simp [hempty e he]
  rw [filledSections_eq_filter d', h, List.filter_append, hkept, hdropped, List.append_nil]

/-- **A document survives the exchange.**  This is so for every docstring that can be read, whether its
parameters are then normalised or not.  The order comes back, and so does the data of every section that is
not empty; all other sections that come back are empty.  A second exchange changes nothing. -/
theorem exchange_keeps_sections {original : Document} (h : (read format? docstring).result = .ok original)
    (hd : d = original ∨ d = original.normalize.1) :
    ∃ d', ofDatum d.toDatum = .ok d' ∧ d'.order = d.order ∧
      (∀ name c, d.get? name = some c → c.isEmpty = false →
        (d'.get? name).map Content.toDatum = some c.toDatum) ∧
      (∀ name c', d'.get? name = some c' → (∀ c, d.get? name = some c → c.isEmpty = true) →
        c'.isEmpty = true) ∧
      ofDatum d'.toDatum = .ok d' := by
  have hread := exchangeable_read h
  have ⟨hexchangeable, horder⟩ : d.Exchangeable ∧ d.order ≠ [] := by
    have hne := order_ne_nil_of_read h
    obtain rfl | rfl := hd
    · exact ⟨hread, hne⟩
    · rw [hread.order_normalize]
      exact ⟨hread.normalize, hne⟩
  obtain ⟨d', hback, horder', hextra, added, hsections, hempty⟩ := exists_ofDatum hexchangeable horder
  have hget (name : Text) : (d'.get? name).map Content.toDatum =
      (d.filledSections.lookup name).or (added.lookup name) := by
    rw [get?, ← lookup_map_snd, ← List.lookup_append, ← hsections]
    rfl
  have hfilled := lookup_filledSections hexchangeable.isComplete
  refine ⟨d', hback, horder', ?_, ?_, ?_⟩
  · intro name c hc hne
    rw [hget, hfilled, hc, Option.bind_some, hne]
    rfl
  · intro name c' hc' hothers
    have hnone : d.filledSections.lookup name = none := by
      rw [hfilled]
      cases hc : d.get? name with
      | none => rfl
      | some c => rw [Option.bind_some, hothers c hc, if_pos rfl]
    -- The section is one of those that were filled in.
    have hadded := hget name
    rw [hc', hnone, Option.none_or, Option.map_some] at hadded
    obtain ⟨front, back, rfl, -⟩ := List.lookup_eq_some_iff.mp hadded.symm
    rw [← Content.isEmpty_toDatum]
    exact hempty (name, c'.toDatum) (by simp)
  · -- The data is the same, so reading it again gives the same document.
    have hdata : d'.toDatum = d.toDatum := by
      rw [toDatum_eq (horder' ▸ horder) hextra, toDatum_eq horder hexchangeable.extra, horder',
        filledSections_of_allSections hsections hempty]
    rw [hdata, hback]

/-- A parameter with its type in the name, and a link. -/
def annotatedDocstring : Text :=
  "A\n\nParameters\n----------\nx: int\n    n\n\nSee Also\n--------\nf : g\n"

theorem annotated_exchanged :
    ∃ original d', (read none annotatedDocstring).result = .ok original ∧
      original.order = ["Summary", "Parameters", "See Also"] ∧
      ofDatum original.normalize.1.toDatum = .ok d' ∧ d'.order = original.normalize.1.order ∧
      ofDatum d'.toDatum = .ok d' := by
  obtain ⟨original, hread, horder⟩ := Run.exists_ok_of_toOption (r := (read none annotatedDocstring).result)
    (f := Document.order) (b := ["Summary", "Parameters", "See Also"]) (by decide +kernel)
  obtain ⟨d', hback, horder', -, -, hagain⟩ := exchange_keeps_sections hread (.inr rfl)
  exact ⟨original, d', hread, horder, hback, horder', hagain⟩

end Document
end DocTidy
