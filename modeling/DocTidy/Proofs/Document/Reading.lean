import DocTidy.Proofs.Document.Recording

/-!
# What is read into a document

Reading a docstring amounts to adding entries to a document in which nothing is recorded: those of
the paragraphs before the first heading, and then one for each heading.  `read_eq_ok_iff` says which
entries these are and when reading succeeds.
-/

namespace DocTidy.Document

open Text

variable {d d' : Document} {s : Section} {c : Content}

/-! ## The paragraphs before the first heading -/

/-- The entries of the paragraphs before the first heading. -/
def frontEntries (headed : Bool) : List (List Text) → List (Section × Content)
  | [] => [(.summary, .lines []), (.extendedSummary, .lines [])]
  | p :: rest =>
    if isSignature (oneLine p) then
      (.signature, .text (oneLine p)) ::
        if rest.isEmpty && headed then [(.summary, .lines p)] else frontEntries headed rest
    else
      (.summary, .lines p) ::
        if rest.isEmpty && headed then [] else [(.extendedSummary, .lines (joinParagraphs rest))]

theorem recordFront_eq (headed : Bool) (d : Document) (front : List (List Text)) :
    recordFront none headed d front = d.recordAll (frontEntries headed front) := by
  induction front generalizing d with
  | nil =>
    rw [recordFront, frontEntries]
    unfold recordAll
    simp only [List.foldlM_cons, List.foldlM_nil, bind_pure]
    rfl
  | cons p rest ih =>
    rw [recordFront, frontEntries]
    unfold recordAll at ih ⊢
    cases isSignature (oneLine p) with
    | true =>
      simp only [↓reduceIte, List.foldlM_cons]
      cases hlast : rest.isEmpty && headed with
      | true =>
        simp only [↓reduceIte, List.foldlM_cons, List.foldlM_nil, bind_pure]
        rfl
      | false =>
        simp only [Bool.false_eq_true, ↓reduceIte, ih]
        rfl
    | false =>
      simp only [Bool.false_eq_true, ↓reduceIte, List.foldlM_cons]
      cases hlast : rest.isEmpty && headed with
      | true =>
        simp only [↓reduceIte, List.foldlM_nil]
        rfl
      | false =>
        simp only [Bool.false_eq_true, ↓reduceIte, List.foldlM_cons, List.foldlM_nil, bind_pure]
        rfl

theorem fits_frontEntries (headed : Bool) (front : List (List Text)) :
    ∀ e ∈ frontEntries headed front, e.2.Fits e.1 ∧ e.1.hasTitle = false := by
  induction front with
  | nil => simp [frontEntries, Content.Fits, Section.layout, Section.hasTitle]
  | cons p rest ih =>
    rw [frontEntries]
    split
    · split
      · simp [Content.Fits, Section.layout, Section.hasTitle]
      · intro e he
        obtain rfl | he := List.mem_cons.mp he
        · exact ⟨rfl, rfl⟩
        · exact ih e he
    · split
      · simp [Content.Fits, Section.layout, Section.hasTitle]
      · simp [Content.Fits, Section.layout, Section.hasTitle]

theorem fits_readContent {ls : List Text} (h : (readContent s ls).result = .ok c) : c.Fits s := by
  unfold readContent at h
  split at h
  · rename_i hlayout
    rw [Run.result_pure, Except.ok.injEq] at h
    rw [← h]
    exact hlayout
  · rename_i soleType hlayout
    rw [Run.result_pure, Except.ok.injEq] at h
    rw [← h]
    exact ⟨soleType, hlayout⟩
  · rename_i hlayout
    obtain ⟨links, -, h⟩ := Run.result_bind_eq_ok.mp h
    rw [Run.result_pure, Except.ok.injEq] at h
    rw [← h]
    exact hlayout

/-! ## The sections -/

theorem get?_index (hd : d.IsComplete) : d.get? Section.index.recordName = none := by
  rw [get?, hd, List.lookup_eq_none_iff]
  intro e he
  obtain ⟨s, -, rfl⟩ := List.mem_map.mp he
  rw [bne_iff_ne]
  exact (title_ne_index s).symm

/-- A section that is not recorded has contents only if it is the summary. -/
theorem filled_iff (hd : d.Sound) (hname : s.recordName ∉ d.order) :
    ((d.get? s.recordName).map fun c => !c.isEmpty) = some true ↔ s = .summary := by
  by_cases hindex : s = .index
  · subst hindex
    rw [get?_index hd.isComplete]
    simp
  · rw [recordName_eq_title hindex] at hname ⊢
    rw [hd.isComplete.get?, hd.unrecorded s hname]
    constructor
    · intro h
      refine Decidable.of_not_not fun hs => ?_
      rw [Option.map_some, isEmpty_default hs] at h
      cases h
    · rintro rfl
      rfl

theorem recordSection_eq_ok_iff (hd : d.Sound) {docstring : Text} {ls : List Text} :
    (recordSection none docstring d (s, ls)).result = .ok d' ↔
      s ≠ .summary ∧ s.recordName ∉ d.order ∧
        ∃ c, (readContent s ls).result = .ok c ∧ d' = d.add (s, c) := by
  have hrecorded : (readContent s ls >>= fun c => d.recorded none s.recordName c).result = .ok d' ↔
      s.recordName ∉ d.order ∧ ∃ c, (readContent s ls).result = .ok c ∧ d' = d.add (s, c) := by
    rw [Run.result_bind_eq_ok]
    constructor
    · rintro ⟨c, hc, h⟩
      obtain ⟨hname, rfl⟩ := (recorded_eq_ok_iff (fits_readContent hc)).mp h
      exact ⟨hname, c, hc, rfl⟩
    · rintro ⟨hname, c, hc, rfl⟩
      exact ⟨c, hc, (recorded_eq_ok_iff (fits_readContent hc)).mpr ⟨hname, rfl⟩⟩
  unfold recordSection
  dsimp only
  -- A section that has contents already is refused.  Where it is not recorded, that is the summary.
  by_cases hfilled : ((d.get? s.recordName).map fun c => !c.isEmpty) = some true
  · rw [if_pos (beq_iff_eq.mpr hfilled)]
    constructor
    · intro h
      cases h
    · rintro ⟨hs, hname, -⟩
      exact absurd ((filled_iff hd hname).mp hfilled) hs
  · rw [if_neg (mt beq_iff_eq.mp hfilled), hrecorded]
    constructor
    · rintro ⟨hname, hc⟩
      exact ⟨fun hs => hfilled ((filled_iff hd hname).mpr hs), hname, hc⟩
    · exact And.right

/-- The entry holds what the lines of a section are read as. -/
def ReadsAs (section_ : Section × List Text) (e : Section × Content) : Prop :=
  e.1 = section_.1 ∧ (readContent section_.1 section_.2).result = .ok e.2

theorem foldlM_recordSection_eq_ok_iff (hd : d.Sound) {docstring : Text}
    {sections : List (Section × List Text)} :
    (sections.foldlM (recordSection none docstring) d).result = .ok d' ↔
      ∃ es, List.Forall₂ ReadsAs sections es ∧
        (d.order ++ es.map (·.1.recordName)).Nodup ∧ (∀ e ∈ es, e.1 ≠ .summary) ∧
        d' = d.addAll es := by
  induction sections generalizing d with
  | nil =>
    rw [List.foldlM_nil, Run.result_pure, Except.ok.injEq]
    constructor
    · rintro rfl
      exact ⟨[], .nil, by simpa using hd.nodup, by simp, rfl⟩
    · rintro ⟨es, hes, -, -, rfl⟩
      rw [List.forall₂_nil_left_iff.mp hes]
      rfl
  | cons section_ sections ih =>
    obtain ⟨s, ls⟩ := section_
    rw [List.foldlM_cons, Run.result_bind_eq_ok]
    simp only [recordSection_eq_ok_iff hd]
    constructor
    · rintro ⟨next, ⟨hs, hname, c, hc, rfl⟩, h⟩
      obtain ⟨es, hes, hnodup, hsummary, rfl⟩ := (ih (hd.add hname (fits_readContent hc))).mp h
      refine ⟨(s, c) :: es, .cons ⟨rfl, hc⟩ hes, ?_, ?_, rfl⟩
      · change (d.order ++ [s.recordName] ++ _).Nodup at hnodup
        rwa [List.append_assoc] at hnodup
      · intro e he
        obtain rfl | he := List.mem_cons.mp he
        · exact hs
        · exact hsummary e he
    · -- The names are all different, so that of the first entry is not recorded yet.
      rintro ⟨es, hes, hnodup, hsummary, rfl⟩
      obtain ⟨e, es', he, hes', rfl⟩ := List.forall₂_cons_left_iff.mp hes
      obtain ⟨s', c⟩ := e
      obtain ⟨rfl, hc⟩ : s' = s ∧ (readContent s ls).result = .ok c := he
      have hname : s'.recordName ∉ d.order := fun hmem =>
        (List.nodup_append.mp hnodup).2.2 _ hmem _ List.mem_cons_self rfl
      refine ⟨d.add (s', c), ⟨hsummary _ List.mem_cons_self, hname, c, hc, rfl⟩, ?_⟩
      refine (ih (hd.add hname (fits_readContent hc))).mpr
        ⟨es', hes', ?_, fun e he => hsummary e (List.mem_cons_of_mem _ he), rfl⟩
      change (d.order ++ [s'.recordName] ++ _).Nodup
      rwa [List.append_assoc]

/-! ## A whole docstring -/

/-- The paragraphs of a docstring before the first heading, and those from each heading on. -/
def headedParagraphs (docstring : Text) : List (List Text) × List (List Text × List (List Text)) :=
  headedRuns isHeading (paragraphs (dedentLines (docstring.splitOn '\n')))

/-- Reads the paragraphs before the first heading.  There is nothing to read where a docstring
begins with a heading. -/
def readFront (headed : Bool) (front : List (List Text)) : Run Document :=
  if front.isEmpty && headed then pure blank else recordFront none headed blank front

/-- The entries of the paragraphs before the first heading, none where there are no paragraphs. -/
def openingEntries (headed : Bool) (front : List (List Text)) : List (Section × Content) :=
  if front.isEmpty && headed then [] else frontEntries headed front

theorem readFront_eq (headed : Bool) (front : List (List Text)) :
    readFront headed front = blank.recordAll (openingEntries headed front) := by
  unfold readFront openingEntries
  split
  · rfl
  · exact recordFront_eq headed blank front

theorem fits_openingEntries (headed : Bool) (front : List (List Text)) :
    ∀ e ∈ openingEntries headed front, e.2.Fits e.1 ∧ e.1.hasTitle = false := by
  unfold openingEntries
  split
  · simp
  · exact fits_frontEntries headed front

/-- The lines of a section, below the underline of its heading. -/
def sectionLines (group : List Text × List (List Text)) : List Text :=
  ((joinParagraphs (group.1 :: group.2)).drop 2).dropWhile isBlank

/-- The entry is what a section is read as. -/
def Reads (group : List Text × List (List Text)) (e : Section × Content) : Prop :=
  Section.ofHeading? (headLines group.1).1 = some e.1 ∧
    (readContent e.1 (sectionLines group)).result = .ok e.2

theorem readSection_eq_ok_iff {group : List Text × List (List Text)} {section_ : Section × List Text} :
    (readSection group).result = .ok section_ ↔
      Section.ofHeading? (headLines group.1).1 = some section_.1 ∧
        section_.2 = sectionLines group := by
  obtain ⟨s, ls⟩ := section_
  unfold readSection
  dsimp only
  cases Section.ofHeading? (headLines group.1).1 with
  | none => simp
  | some s' => simp [sectionLines, eq_comm]

theorem forall₂_reads_iff {groups : List (List Text × List (List Text))}
    {es : List (Section × Content)} :
    List.Forall₂ Reads groups es ↔
      ∃ sections, (groups.mapM readSection).result = .ok sections ∧
        List.Forall₂ ReadsAs sections es := by
  simp only [Run.mapM_eq_ok, readSection_eq_ok_iff]
  constructor
  · intro h
    induction h with
    | nil => exact ⟨[], .nil, .nil⟩
    | @cons group e _ _ hread _ ih =>
      obtain ⟨sections, hsections, hes⟩ := ih
      exact ⟨(e.1, sectionLines group) :: sections, .cons ⟨hread.1, rfl⟩ hsections,
        .cons ⟨rfl, hread.2⟩ hes⟩
  · rintro ⟨sections, hsections, hes⟩
    induction hsections generalizing es with
    | nil =>
      cases hes
      exact .nil
    | cons hsection _ ih =>
      obtain ⟨e, es', he, hes', rfl⟩ := List.forall₂_cons_left_iff.mp hes
      obtain ⟨hheading, hlines⟩ := hsection
      refine .cons ⟨?_, ?_⟩ (ih hes')
      · rw [hheading, he.1]
      · rw [← hlines, he.1]
        exact he.2

theorem map_fst_readsAs {sections : List (Section × List Text)} {es : List (Section × Content)}
    (h : List.Forall₂ ReadsAs sections es) : es.map (·.1) = sections.map (·.1) := by
  induction h with
  | nil => rfl
  | cons he _ ih => rw [List.map_cons, List.map_cons, he.1, ih]

theorem readFront_eq_ok_iff {headed : Bool} {front : List (List Text)} :
    (readFront headed front).result = .ok d ↔
      ((openingEntries headed front).map (·.1.recordName)).Nodup ∧
        d = blank.addAll (openingEntries headed front) := by
  rw [readFront_eq, recordAll_eq_ok_iff List.nodup_nil fun e he =>
    (fits_openingEntries headed front e he).1]
  rfl

/-- The entries that a docstring of given headed paragraphs is read as. -/
structure Entries (docstring : Text) (es : List (Section × Content)) : Prop where
  reads : List.Forall₂ Reads (headedParagraphs docstring).2 es
  consistent : (checkSections (es.map (·.1))).result = .ok ()
  nodup : ((openingEntries (!(headedParagraphs docstring).2.isEmpty)
    (headedParagraphs docstring).1 ++ es).map (·.1.recordName)).Nodup
  notSummary : ∀ e ∈ es, e.1 ≠ .summary

/-- Reading takes the front and the headed sections one after the other. -/
theorem result_read (docstring : Text) : (read none docstring).result =
    (readFront (!(headedParagraphs docstring).2.isEmpty) (headedParagraphs docstring).1 >>= fun d =>
      (headedParagraphs docstring).2.mapM readSection >>= fun sections =>
      (⟨(paragraphs (dedentLines (docstring.splitOn '\n'))).flatMap (underlineWarning (unlines
        ((dedentLines (docstring.splitOn '\n')).take 2))), .ok ()⟩ : Run Unit) >>= fun _ =>
      checkSections (sections.map (·.1)) >>= fun _ =>
      sections.foldlM (recordSection none (unlines (dedentLines (docstring.splitOn '\n')))) d).result := by
  unfold read readFront headedParagraphs
  dsimp only
  split
  · rfl
  · rfl

/-- **What reading gives.**  The document has the entries of the paragraphs before the first
heading, followed by one for each heading. -/
theorem read_eq_ok_iff {docstring : Text} :
    (read none docstring).result = .ok d ↔
      ∃ es, Entries docstring es ∧
        d = blank.addAll (openingEntries (!(headedParagraphs docstring).2.isEmpty)
          (headedParagraphs docstring).1 ++ es) := by
  rw [result_read]
  simp only [Run.result_bind_eq_ok, readFront_eq_ok_iff]
  generalize hopening : openingEntries (!(headedParagraphs docstring).2.isEmpty)
    (headedParagraphs docstring).1 = opening
  have hfits : ∀ e ∈ opening, e.2.Fits e.1 := fun e he =>
    (fits_openingEntries _ _ e (hopening ▸ he)).1
  have horder (es : List (Section × Content)) :
      (blank.addAll opening).order ++ es.map (·.1.recordName) =
        (opening ++ es).map (·.1.recordName) := by
    rw [order_addAll, List.map_append]
    rfl
  constructor
  · rintro ⟨_, ⟨hfront, rfl⟩, sections, hsections, _, -, _, hcheck, hfold⟩
    have hsound : (blank.addAll opening).Sound := sound_blank.addAll hfront hfits
    obtain ⟨es, hes, hnodup, hsummary, rfl⟩ := (foldlM_recordSection_eq_ok_iff hsound).mp hfold
    refine ⟨es, ⟨forall₂_reads_iff.mpr ⟨sections, hsections, hes⟩, ?_, ?_, hsummary⟩,
      (addAll_append ..).symm⟩
    · rw [map_fst_readsAs hes]
      exact hcheck
    · rw [hopening, ← horder]
      exact hnodup
  · rintro ⟨es, ⟨hreads, hcheck, hnodup, hsummary⟩, rfl⟩
    obtain ⟨sections, hsections, hes⟩ := forall₂_reads_iff.mp hreads
    rw [hopening, ← horder] at hnodup
    have hfront : (opening.map (·.1.recordName)).Nodup := by
      rw [order_addAll] at hnodup
      exact (List.nodup_append.mp hnodup).1
    have hsound : (blank.addAll opening).Sound := sound_blank.addAll hfront hfits
    rw [map_fst_readsAs hes] at hcheck
    exact ⟨_, ⟨hfront, rfl⟩, sections, hsections, (), trivial, (), hcheck,
      (foldlM_recordSection_eq_ok_iff hsound).mpr ⟨es, hes, hnodup, hsummary, addAll_append ..⟩⟩

/-! ## Documents that were read -/

theorem nodup_of_nodup_names {es : List (Section × Content)}
    (h : (es.map (·.1.recordName)).Nodup) : (es.map (·.1)).Nodup := by
  refine List.Nodup.of_map Section.recordName ?_
  rwa [List.map_map]

theorem sound_read {docstring : Text} (h : (read none docstring).result = .ok d) : d.Sound := by
  obtain ⟨es, hes, rfl⟩ := read_eq_ok_iff.mp h
  refine sound_blank.addAll hes.nodup fun e he => ?_
  obtain he | he := List.mem_append.mp he
  · exact (fits_openingEntries _ _ e he).1
  · obtain ⟨group, -, hread⟩ := exists_of_mem_forall₂ hes.reads he
    exact fits_readContent hread.2

/-- A section with a title is recorded only where it is headed. -/
theorem mem_of_mem_order {headed : Bool} {front : List (List Text)} {es : List (Section × Content)}
    (hs : s.hasTitle = true)
    (h : s.recordName ∈ (blank.addAll (openingEntries headed front ++ es)).order) :
    s ∈ es.map (·.1) := by
  rw [order_addAll] at h
  obtain ⟨e, he, hname⟩ := List.mem_map.mp h
  obtain rfl := recordName_injective hname
  obtain he | he := List.mem_append.mp he
  · rw [(fits_openingEntries headed front e he).2] at hs
    cases hs
  · exact List.mem_map_of_mem he

/-- Results are not both returned and yielded. -/
theorem not_mem_order_of_read {docstring : Text} (h : (read none docstring).result = .ok d)
    (hreturns : Section.returns.title ∈ d.order) : Section.yields.title ∉ d.order := by
  obtain ⟨es, hes, rfl⟩ := read_eq_ok_iff.mp h
  intro hyields
  have hcheck := hes.consistent
  unfold checkSections at hcheck
  rw [if_pos] at hcheck
  · cases hcheck
  · rw [Bool.and_eq_true, List.contains_iff_mem, List.contains_iff_mem]
    exact ⟨mem_of_mem_order (s := .returns) rfl hreturns,
      mem_of_mem_order (s := .yields) rfl hyields⟩

/-- A signature stands first, and the summary comes next. -/
theorem frontEntries_of_signature {headed : Bool} {front : List (List Text)}
    (hnodup : ((frontEntries headed front).map (·.1.recordName)).Nodup)
    (hmem : (.signature, c) ∈ frontEntries headed front) :
    ∃ c₁ c₂ es, frontEntries headed front = (.signature, c₁) :: (.summary, c₂) :: es := by
  cases front with
  | nil => simp [frontEntries] at hmem
  | cons p rest =>
    rw [frontEntries] at hnodup hmem ⊢
    cases hsignature : isSignature (oneLine p) with
    | false =>
      rw [hsignature] at hmem
      split at hmem <;> simp_all
    | true =>
      simp only [hsignature, ↓reduceIte] at hnodup ⊢
      cases hlast : rest.isEmpty && headed with
      | true => exact ⟨_, _, [], rfl⟩
      | false =>
        simp only [hlast, Bool.false_eq_true, ↓reduceIte, List.map_cons, List.nodup_cons]
          at hnodup ⊢
        cases rest with
        | nil => exact ⟨_, _, _, rfl⟩
        | cons q rest =>
          rw [frontEntries] at hnodup ⊢
          split
          · rename_i hq
            -- A second signature is refused.
            rw [if_pos hq] at hnodup
            exact absurd List.mem_cons_self hnodup.1
          · exact ⟨_, _, _, rfl⟩

theorem order_of_signature {docstring t : Text} (h : (read none docstring).result = .ok d)
    (hsignature : d.contents? .signature = some (.text t)) :
    ∃ names, d.order = Section.signature.title :: Section.summary.title :: names := by
  obtain ⟨es, hes, rfl⟩ := read_eq_ok_iff.mp h
  have hnames := hes.nodup
  generalize hopening : openingEntries (!(headedParagraphs docstring).2.isEmpty)
    (headedParagraphs docstring).1 = opening at *
  obtain ⟨hne, hcontent⟩ := contents?_eq_some_iff.mp hsignature
  -- The signature is empty by default, so there is an entry for it.
  obtain ⟨c, hmem⟩ : ∃ c, (.signature, c) ∈ opening ++ es := by
    by_contra hnone
    have hothers : ∀ e ∈ opening ++ es, e.1 ≠ .signature := by
      rintro ⟨s, c⟩ he rfl
      exact hnone ⟨c, he⟩
    rw [content_addAll_of_not_mem content_blank.1 hothers, content_blank.2] at hcontent
    rw [← hcontent] at hne
    cases hne
  rw [content_addAll_of_mem content_blank.1 (nodup_of_nodup_names hnames) hmem (by simp)] at hcontent
  obtain hmem | hmem := List.mem_append.mp hmem
  · unfold openingEntries at hopening
    split at hopening
    · rw [← hopening] at hmem
      cases hmem
    · subst hopening
      rw [List.map_append] at hnames
      obtain ⟨c₁, c₂, es', hfront⟩ :=
        frontEntries_of_signature (List.nodup_append.mp hnames).1 hmem
      rw [order_addAll, hfront]
      exact ⟨_, rfl⟩
  · -- A section that is headed as a signature has lines.
    obtain ⟨group, -, -, hread⟩ := exists_of_mem_forall₂ hes.reads hmem
    obtain rfl : .lines (sectionLines group) = c := Except.ok.inj hread
    cases hcontent

/-! ## What reading keeps -/

section Keeping

variable {P : Document → Prop} {format? : Option CodeFormatter} {docstring : Text}
  (hstep : ∀ d s c d', P d → (d.recorded format? s.recordName c).result = .ok d' → c.Fits s → P d')
include hstep

theorem recordFront_keeps {headed : Bool} {front : List (List Text)} (hd : P d)
    (h : (recordFront format? headed d front).result = .ok d') : P d' := by
  induction front generalizing d with
  | nil =>
    obtain ⟨e, he, h⟩ := Run.result_bind_eq_ok.mp h
    exact hstep e .extendedSummary _ d' (hstep d .summary _ e hd he rfl) h rfl
  | cons p rest ih =>
    rw [recordFront] at h
    by_cases hsignature : isSignature (oneLine p) = true
    · rw [if_pos hsignature] at h
      obtain ⟨e, he, h⟩ := Run.result_bind_eq_ok.mp h
      have hsigned : P e := hstep d .signature _ e hd he rfl
      split at h
      · exact hstep e .summary _ d' hsigned h rfl
      · exact ih hsigned h
    · rw [if_neg hsignature] at h
      obtain ⟨e, he, h⟩ := Run.result_bind_eq_ok.mp h
      have hsummed : P e := hstep d .summary _ e hd he rfl
      split at h
      · rw [← Except.ok.inj h]
        exact hsummed
      · exact hstep e .extendedSummary _ d' hsummed h rfl

theorem recordSection_keeps (section_ : Section × List Text) (hd : P d)
    (h : (recordSection format? docstring d section_).result = .ok d') : P d' := by
  unfold recordSection at h
  dsimp only at h
  split at h
  · cases h
  · obtain ⟨c, hc, h⟩ := Run.result_bind_eq_ok.mp h
    exact hstep d section_.1 c d' hd h (fits_readContent hc)

/-- **What recording keeps, reading keeps**, with a code formatter or without. -/
theorem read_keeps (hblank : P blank) (h : (read format? docstring).result = .ok d) : P d := by
  have hsections (e : Document) (he : P e) (groups : List (List Text × List (List Text)))
      (warnings : Run Unit) (docstring : Text)
      (h : (groups.mapM readSection >>= fun sections => warnings >>= fun _ =>
        checkSections (sections.map (·.1)) >>= fun _ =>
          sections.foldlM (recordSection format? docstring) e).result = .ok d) : P d := by
    obtain ⟨sections, -, h⟩ := Run.result_bind_eq_ok.mp h
    obtain ⟨_, -, h⟩ := Run.result_bind_eq_ok.mp h
    obtain ⟨_, -, h⟩ := Run.result_bind_eq_ok.mp h
    exact Run.foldlM_keeps (fun _ section_ _ => recordSection_keeps hstep section_) sections e d he h
  unfold read at h
  dsimp only at h
  split at h
  · exact hsections blank hblank _ _ _ h
  · obtain ⟨e, he, h⟩ := Run.result_bind_eq_ok.mp h
    exact hsections e (recordFront_keeps hstep hblank he) _ _ _ h

end Keeping

end DocTidy.Document
