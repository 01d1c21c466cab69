import DocTidy.Proofs.Document.Contents
import DocTidy.Proofs.Document.Ink

/-!
# Recording sections

A section is recorded by adding an entry to a document.  What holds of every document that is built
up in this way is put together in `Sound`.
-/

namespace DocTidy.Document

open Text

variable {d d' : Document} {s : Section} {c : Content} {name : Text}

/-- What is recorded of the contents of a section. -/
def recordedAs (s : Section) (c : Content) : Content :=
  match s, c with
  | .summary, .lines ls | .extendedSummary, .lines ls => .lines (ls.map stripRight)
  | _, c => c

/-- The document with one more section recorded. -/
def add (d : Document) (e : Section × Content) : Document :=
  { d.store e.1.recordName (recordedAs e.1 e.2) with order := d.order ++ [e.1.recordName] }

theorem prepare_eq (hc : c.Fits s) :
    (prepare none s.recordName c).result = .ok (recordedAs s c) := by
  cases s with
  | summary | extendedSummary =>
    cases c with
    | lines ls => rfl
    | text t => cases hc
    | params ps =>
      obtain ⟨_, hlayout⟩ := hc
      cases hlayout
    | links ls => cases hc
    | data v => cases hc
  | _ => rfl

theorem record_eq (hc : c.Fits s) :
    (record none d s.recordName c).1 = (if s.recordName ∈ d.order then
        d.store s.recordName (recordedAs s c) else d.add (s, c)) ∧
      (record none d s.recordName c).2.result = if s.recordName ∈ d.order then
        .error (.recordedTwice s.recordName) else .ok () := by
  unfold record
  dsimp only
  rw [prepare_eq hc]
  simp only [List.contains_iff_mem]
  split
  · exact ⟨rfl, rfl⟩
  · exact ⟨rfl, rfl⟩

/-- A section is recorded unless it was recorded before. -/
theorem recorded_eq_ok_iff (hc : c.Fits s) :
    (d.recorded none s.recordName c).result = .ok d' ↔
      s.recordName ∉ d.order ∧ d' = d.add (s, c) := by
  change ((record none d s.recordName c).2 >>= fun _ =>
    pure (record none d s.recordName c).1).result = .ok d' ↔ _
  obtain ⟨hchanged, houtcome⟩ := record_eq (d := d) hc
  rw [Run.result_bind, houtcome, hchanged]
  by_cases hmem : s.recordName ∈ d.order
  · simp [hmem, Except.bind]
  · simp [hmem, Except.bind, eq_comm]

/-! ## Adding entries -/

/-- The document with some more sections recorded, one after the other. -/
def addAll (d : Document) (es : List (Section × Content)) : Document := es.foldl add d

theorem addAll_append (d : Document) (es es' : List (Section × Content)) :
    d.addAll (es ++ es') = (d.addAll es).addAll es' := List.foldl_append

theorem order_addAll (d : Document) (es : List (Section × Content)) :
    (d.addAll es).order = d.order ++ es.map (·.1.recordName) := by
  induction es generalizing d with
  | nil => exact (List.append_nil _).symm
  | cons e es ih =>
    change ((d.add e).addAll es).order = _
    rw [ih, add, List.append_assoc]
    rfl

theorem recordName_injective {s s' : Section} (h : s.recordName = s'.recordName) : s = s' := by
  revert h
  cases s <;> cases s' <;> decide

/-- Every section but the index is recorded under its title. -/
theorem recordName_eq_title (hs : s ≠ .index) : s.recordName = s.title := by
  cases s <;> first | rfl | exact absurd rfl hs

theorem title_ne_index (s : Section) : s.title ≠ Section.index.recordName := by
  cases s <;> decide

theorem content_congr {d d' : Document} (h : d.sections = d'.sections) : d.content = d'.content := by
  funext s
  rw [content, content, get?, get?, h]

/-- Storing under the name of a section changes its contents only.  The index is recorded under a name
that is no title, so nothing is stored for it. -/
theorem store_recordName (h : d.IsComplete) (s : Section) (c : Content) :
    (d.store s.recordName c).IsComplete ∧ (d.store s.recordName c).content =
      if s = .index then d.content else Function.update d.content s c := by
  by_cases hs : s = .index
  · subst hs
    rw [store_of_unknown h (fun s' => title_ne_index s') c, if_pos rfl]
    exact ⟨h, rfl⟩
  · rw [recordName_eq_title hs, if_neg hs]
    exact store_title h s c

theorem add_isComplete (h : d.IsComplete) (e : Section × Content) :
    (d.add e).IsComplete ∧ (d.add e).content =
      if e.1 = .index then d.content else Function.update d.content e.1 (recordedAs e.1 e.2) := by
  obtain ⟨s, c⟩ := e
  obtain ⟨hcomplete, hstored⟩ := store_recordName h s (recordedAs s c)
  have hcontent : (d.add (s, c)).content = (d.store s.recordName (recordedAs s c)).content :=
    content_congr rfl
  rw [IsComplete, hcontent]
  exact ⟨hcomplete, hstored⟩

theorem addAll_isComplete (h : d.IsComplete) (es : List (Section × Content)) :
    (d.addAll es).IsComplete := by
  induction es generalizing d with
  | nil => exact h
  | cons e es ih => exact ih (add_isComplete h e).1

theorem content_addAll_of_not_mem (h : d.IsComplete) {es : List (Section × Content)}
    (hs : ∀ e ∈ es, e.1 ≠ s) : (d.addAll es).content s = d.content s := by
  induction es generalizing d with
  | nil => rfl
  | cons e es ih =>
    obtain ⟨hcomplete, hcontent⟩ := add_isComplete h e
    change ((d.add e).addAll es).content s = _
    rw [ih hcomplete fun e' he' => hs e' (List.mem_cons_of_mem _ he'), hcontent]
    split
    · rfl
    · exact Function.update_of_ne (hs e List.mem_cons_self).symm _ _

/-- Each entry gives a section its contents, if no section is added twice. -/
theorem content_addAll_of_mem (h : d.IsComplete) {es : List (Section × Content)}
    (hnodup : (es.map (·.1)).Nodup) (hmem : (s, c) ∈ es) (hs : s ≠ .index) :
    (d.addAll es).content s = recordedAs s c := by
  induction es generalizing d with
  | nil => cases hmem
  | cons e es ih =>
    obtain ⟨hcomplete, hcontent⟩ := add_isComplete h e
    rw [List.map_cons, List.nodup_cons] at hnodup
    change ((d.add e).addAll es).content s = _
    obtain rfl | hmem := List.mem_cons.mp hmem
    · have hrest : ∀ e ∈ es, e.1 ≠ s := fun e he heq =>
        hnodup.1 (List.mem_map.mpr ⟨e, he, heq⟩)
      rw [content_addAll_of_not_mem hcomplete hrest, hcontent, if_neg hs, Function.update_self]
    · exact ih hcomplete hnodup.2 hmem

/-! ## Sound documents -/

/-- What is true of every document that was read: it knows the sections, none is recorded twice,
contents fit their section, and those of a section that is not recorded are the default. -/
structure Sound (d : Document) : Prop where
  isComplete : d.IsComplete
  nodup : d.order.Nodup
  fits : ∀ s c, d.contents? s = some c → c.Fits s
  unrecorded : ∀ s, s.title ∉ d.order → d.content s = s.default

theorem contents?_eq_some_iff :
    d.contents? s = some c ↔ c.isEmpty = false ∧ d.content s = c := by
  unfold contents?
  cases hempty : (d.content s).isEmpty with
  | true =>
    simp only [↓reduceIte, reduceCtorEq, false_iff, not_and]
    rintro hc rfl
    rw [hempty] at hc
    cases hc
  | false =>
    simp only [Bool.false_eq_true, ↓reduceIte, Option.some.injEq]
    constructor
    · rintro rfl
      exact ⟨hempty, rfl⟩
    · exact And.right

theorem contents?_congr {d d' : Document} (h : d.content s = d'.content s) :
    d.contents? s = d'.contents? s := by
  rw [contents?, contents?, h]

theorem content_blank : blank.IsComplete ∧ blank.content = Section.default :=
  isComplete_of_eq rfl

/-- By default only the summary is not empty: it has one empty line. -/
theorem isEmpty_default (hs : s ≠ .summary) : s.default.isEmpty = true := by
  cases s <;> first | rfl | exact absurd rfl hs

theorem sound_blank : blank.Sound := by
  obtain ⟨hcomplete, hcontent⟩ := content_blank
  refine ⟨hcomplete, List.nodup_nil, ?_, fun s _ => by rw [hcontent]⟩
  intro s c h
  obtain ⟨hne, hc⟩ := contents?_eq_some_iff.mp h
  rw [hcontent] at hc
  subst hc
  by_cases hs : s = .summary
  · subst hs
    rfl
  · rw [isEmpty_default hs] at hne
    cases hne

theorem fits_recordedAs (hc : c.Fits s) : (recordedAs s c).Fits s := by
  unfold recordedAs
  split
  · exact hc
  · exact hc
  · exact hc

/-- One entry changes the contents of its own section only. -/
theorem content_add_cases (h : d.IsComplete) (s : Section) (c : Content) (s' : Section) :
    (d.add (s, c)).content s' = d.content s' ∨
      s' = s ∧ s ≠ .index ∧ (d.add (s, c)).content s' = recordedAs s c := by
  rw [(add_isComplete h (s, c)).2]
  split
  · exact .inl rfl
  · rename_i hs
    by_cases hs' : s' = s
    · subst hs'
      exact .inr ⟨rfl, hs, Function.update_self ..⟩
    · exact .inl (Function.update_of_ne hs' ..)

theorem nodup_order_add {e : Section × Content} (hd : d.order.Nodup)
    (hname : e.1.recordName ∉ d.order) : (d.add e).order.Nodup := by
  change (d.order ++ [e.1.recordName]).Nodup
  rw [List.nodup_append]
  refine ⟨hd, by simp, ?_⟩
  rintro n hn _ hmem rfl
  rw [List.mem_singleton] at hmem
  exact hname (hmem ▸ hn)

theorem Sound.add (hd : d.Sound) (hname : s.recordName ∉ d.order) (hc : c.Fits s) :
    (d.add (s, c)).Sound := by
  have hcases := content_add_cases hd.isComplete s c
  refine ⟨(add_isComplete hd.isComplete (s, c)).1, nodup_order_add hd.nodup hname, ?_, ?_⟩
  · intro s' c' h
    obtain hsame | ⟨rfl, -, hnew⟩ := hcases s'
    · exact hd.fits s' c' ((contents?_congr hsame).symm.trans h)
    · obtain ⟨-, rfl⟩ := contents?_eq_some_iff.mp h
      rw [hnew]
      exact fits_recordedAs hc
  · intro s' htitle
    change s'.title ∉ d.order ++ [s.recordName] at htitle
    rw [List.mem_append, List.mem_singleton, not_or] at htitle
    obtain hsame | ⟨rfl, hindex, -⟩ := hcases s'
    · rw [hsame]
      exact hd.unrecorded s' htitle.1
    · exact absurd (recordName_eq_title hindex).symm htitle.2

theorem Sound.addAll (hd : d.Sound) {es : List (Section × Content)}
    (hnames : (d.order ++ es.map (·.1.recordName)).Nodup) (hfits : ∀ e ∈ es, e.2.Fits e.1) :
    (d.addAll es).Sound := by
  induction es generalizing d with
  | nil => exact hd
  | cons e es ih =>
    have hname : e.1.recordName ∉ d.order := by
      intro hmem
      rw [List.nodup_append] at hnames
      exact hnames.2.2 _ hmem _ List.mem_cons_self rfl
    refine ih (hd.add hname (hfits e List.mem_cons_self)) ?_
      fun e' he' => hfits e' (List.mem_cons_of_mem _ he')
    change (d.order ++ [e.1.recordName] ++ es.map (·.1.recordName)).Nodup
    rwa [List.append_assoc]

/-! ## Ink -/

/-- How much ink there is in the contents of all sections. -/
def ink (d : Document) : Nat := (Section.all.map fun s => (d.content s).ink).sum

theorem ink_recordedAs (s : Section) (c : Content) : (recordedAs s c).ink = c.ink := by
  unfold recordedAs
  split
  · exact inkOf_map ink_stripRight _
  · exact inkOf_map ink_stripRight _
  · rfl

theorem sum_update_le (f : Section → Nat) (s : Section) (n : Nat) {ss : List Section}
    (hss : ss.Nodup) : (ss.map (Function.update f s n)).sum ≤ (ss.map f).sum + n := by
  induction ss with
  | nil => exact Nat.zero_le _
  | cons s' ss ih =>
    rw [List.nodup_cons] at hss
    rw [List.map_cons, List.map_cons, List.sum_cons, List.sum_cons]
    by_cases hs : s' = s
    · subst hs
      have hrest : ss.map (Function.update f s' n) = ss.map f := by
        refine List.map_congr_left fun t ht => Function.update_of_ne ?_ ..
        rintro rfl
        exact hss.1 ht
      rw [hrest, Function.update_self]
      omega
    · have := ih hss.2
      rw [Function.update_of_ne hs]
      omega

theorem ink_add_le (hd : d.IsComplete) (e : Section × Content) :
    (d.add e).ink ≤ d.ink + e.2.ink := by
  unfold ink
  rw [(add_isComplete hd e).2]
  split
  · exact Nat.le_add_right _ _
  · have hupdate : (fun s => (Function.update d.content e.1 (recordedAs e.1 e.2) s).ink) =
        Function.update (fun s => (d.content s).ink) e.1 e.2.ink := by
      funext s
      by_cases hs : s = e.1
      · rw [hs, Function.update_self, Function.update_self, ink_recordedAs]
      · rw [Function.update_of_ne hs, Function.update_of_ne hs]
    rw [hupdate]
    exact sum_update_le _ _ _ Section.nodup_all

theorem ink_addAll_le (hd : d.IsComplete) (es : List (Section × Content)) :
    (d.addAll es).ink ≤ d.ink + (es.map (·.2.ink)).sum := by
  induction es generalizing d with
  | nil => exact Nat.le_add_right d.ink 0
  | cons e es ih =>
    have hadd := ink_add_le hd e
    have hrest := ih (add_isComplete hd e).1
    change ((d.add e).addAll es).ink ≤ _
    rw [List.map_cons, List.sum_cons]
    omega

theorem ink_blank : blank.ink = 0 := by
  rw [ink, content_blank.2]
  rfl

/-- The ink of a document is that of its contents. -/
theorem ink_congr {d d' : Document} (h : ∀ s, d.contents? s = d'.contents? s) : d.ink = d'.ink := by
  -- Contents that `contents?` leaves out are empty and have no ink.
  have hcontents (d : Document) (s : Section) :
      (d.content s).ink = ((d.contents? s).map Content.ink).getD 0 := by
    unfold contents?
    cases hempty : (d.content s).isEmpty with
    | false => rfl
    | true => exact Content.ink_eq_zero hempty
  unfold ink
  simp only [hcontents, h]

/-! ## Recording entries -/

/-- Records entries one after the other. -/
def recordAll (d : Document) (es : List (Section × Content)) : Run Document :=
  es.foldlM (fun d e => d.recorded none e.1.recordName e.2) d

theorem recordAll_eq_ok_iff (hd : d.order.Nodup) {es : List (Section × Content)}
    (hfits : ∀ e ∈ es, e.2.Fits e.1) :
    (d.recordAll es).result = .ok d' ↔
      (d.order ++ es.map (·.1.recordName)).Nodup ∧ d' = d.addAll es := by
  unfold recordAll
  induction es generalizing d with
  | nil =>
    rw [List.foldlM_nil, Run.result_pure, Except.ok.injEq, List.map_nil, List.append_nil]
    exact ⟨fun h => ⟨hd, h.symm⟩, fun h => h.2.symm⟩
  | cons e es ih =>
    -- The names are the same before and after the first entry: only their split moves.
    have hnames : d.order ++ (e :: es).map (·.1.recordName) =
        (d.add e).order ++ es.map (·.1.recordName) := by
      rw [add, List.append_assoc]
      rfl
    rw [List.foldlM_cons, Run.result_bind_eq_ok, hnames]
    simp only [recorded_eq_ok_iff (hfits e List.mem_cons_self)]
    have hrest := fun e' he' => hfits e' (List.mem_cons_of_mem _ he')
    constructor
    · rintro ⟨next, ⟨hname, rfl⟩, h⟩
      exact (ih (nodup_order_add hd hname) hrest).mp h
    · rintro ⟨hnodup, rfl⟩
      have hadd : (d.add e).order.Nodup := (List.nodup_append.mp hnodup).1
      refine ⟨d.add e, ⟨?_, rfl⟩, (ih hadd hrest).mpr ⟨hnodup, rfl⟩⟩
      intro hmem
      exact (List.nodup_append.mp hadd).2.2 _ hmem _ List.mem_cons_self rfl

end DocTidy.Document
