import DocTidy.Proofs.Document.Editing
import DocTidy.Proofs.Renewal.Headings

/-!
# Reading a renewed docstring

A renewed docstring should read as the document that it was printed from.  It does exactly when
nothing but the titles shows as a heading and each section, as well as the text before the first
heading, reads back as it was.  That extra headings are never made up for elsewhere follows from the
ink: reading loses that of a heading, and printing adds none but that of the titles.
-/

namespace DocTidy

open Text

/-! ## Fixing keeps a document in order -/

namespace Document

variable {d d' : Document} {ps qs : List Param}

/-- `d'` may come from `d` by a change of the parameters. -/
structure Refits (d d' : Document) : Prop where
  sound : d'.Sound
  order : d'.order = d.order
  kept : ∀ s, s ≠ .parameters → d'.content s = d.content s

theorem Refits.refl (hd : d.Sound) : d.Refits d := ⟨hd, rfl, fun _ _ => rfl⟩

theorem Refits.trans {d'' : Document} (h : d.Refits d') (h' : d'.Refits d'') : d.Refits d'' :=
  ⟨h'.sound, h'.order.trans h.order, fun s hs => (h'.kept s hs).trans (h.kept s hs)⟩

/-- Parameters may be changed, but none may be put where there were none. -/
theorem Refits.store (hd : d.Sound) (hps : d.content .parameters = .params ps)
    (hqs : ps = [] → qs = []) : d.Refits (d.store Section.parameters.title (.params qs)) := by
  obtain ⟨hcomplete, hcontent⟩ := store_title hd.isComplete .parameters (.params qs)
  have hkept : ∀ s, s ≠ .parameters →
      (d.store Section.parameters.title (.params qs)).content s = d.content s := by
    intro s hs
    rw [hcontent, Function.update_of_ne hs]
  refine ⟨⟨hcomplete, hd.nodup, ?_, (hd.accounted.storeParams hps hqs).unrecorded⟩, rfl, hkept⟩
  intro s c hc
  by_cases hs : s = .parameters
  · subst hs
    obtain ⟨-, rfl⟩ := contents?_eq_some_iff.mp hc
    rw [hcontent, Function.update_self]
    exact ⟨_, rfl⟩
  · exact hd.fits s c ((contents?_congr (hkept s hs)).symm.trans hc)

theorem refits_normalized (hd : d.Sound) (h : d.normalized.result = .ok d') : d.Refits d' := by
  change ((normalize d).2 >>= fun _ => pure (normalize d).1).result = .ok d' at h
  obtain ⟨_, -, h⟩ := Run.result_bind_eq_ok.mp h
  rw [← Except.ok.inj h]
  obtain hsame | ⟨ps, hps, hstore⟩ := normalize_cases hd.isComplete
  · rw [hsame]
    exact .refl hd
  · rw [hstore]
    refine .store hd hps ?_
    rintro rfl
    rfl

end Document

namespace Renewal

open Document

variable {r : Renewal} {subject : Subject} {level : Nat} {docstring : Text} {new : Renewed}
  {d d' : Document}

theorem refits_fixParams {hasPlaceholder mismatch : Bool} (hd : d.Sound)
    (h : (r.fixParams subject d).result = .ok (d', hasPlaceholder, mismatch)) : d.Refits d' := by
  unfold fixParams at h
  dsimp only at h
  rw [get_title hd.isComplete] at h
  obtain ⟨c, hc, h⟩ := Run.result_bind_eq_ok.mp h
  obtain rfl := Except.ok.inj hc
  split at h
  · rename_i p ps hps
    obtain ⟨verdict, -, h⟩ := Run.result_bind_eq_ok.mp h
    split at h
    · cases h
    · obtain ⟨rfl, -⟩ : d.store Section.parameters.title (.params verdict.params) = d' ∧ _ := by
        simpa using h
      exact .store hd hps fun hnil => by cases hnil
  · obtain ⟨rfl, -⟩ : d = d' ∧ _ := by simpa using h
    exact .refl hd

theorem refits_fixed {hasPlaceholder mismatch : Bool} (hformat : r.format? = none)
    (h : (r.fixed subject docstring).result = .ok (d', hasPlaceholder, mismatch)) :
    ∃ d, (Document.read none (dedentDocstring docstring)).result = .ok d ∧ d.Refits d' := by
  unfold fixed at h
  obtain ⟨d, hread, h⟩ := Run.result_bind_eq_ok.mp h
  have hread' : (Document.read none (dedentDocstring docstring)).result = .ok d := by
    unfold readDocstring at hread
    rw [hformat] at hread
    dsimp only at hread
    split at hread
    · rename_i hok
      rw [hok, Except.ok.inj hread]
    · cases hread
  refine ⟨d, hread', ?_⟩
  have hd := sound_read hread'
  split at h
  · obtain ⟨next, hnext, h⟩ := Run.result_bind_eq_ok.mp h
    have hrefits := refits_normalized hd hnext
    exact hrefits.trans (refits_fixParams hrefits.sound h)
  · exact refits_fixParams hd h

/-! ## Where a new docstring comes from -/

/-- The document that was read from the old docstring, and the texts that were printed for the
sections of the fixed one. -/
structure Origin (r : Renewal) (level : Nat) (docstring : Text) (new : Renewed) (old : Document)
    (texts : List Text) : Prop where
  read : (Document.read none (dedentDocstring docstring)).result = .ok old
  refits : old.Refits new.document
  prints : r.Prints new.document new.document.order texts
  text : (Frame.ofDocstring docstring).fill level
    (['\n'].intercalate (texts.filter fun t => !t.isEmpty)) = new.text
  paragraphs : strippedParagraphs new.text = (texts.filter fun t => !t.isEmpty).flatMap fun t =>
    strippedParagraphs (indentFrom (spaces level) true t)
  ink : Text.ink new.text ≤ inkOf texts

theorem exists_origin (hformat : r.format? = none)
    (hnew : (r.renew subject level docstring).result = .ok new)
    (hblank : isBlank new.text = false) : ∃ old texts, Origin r level docstring new old texts := by
  have hlong : IsLong docstring := Decidable.of_not_not fun hshort => by
    rw [text_eq_nil_of_not_isLong hshort hnew] at hblank
    cases hblank
  obtain ⟨d, hasPlaceholder, mismatch, body, hfixed, hprint, -, rfl⟩ := (renew_eq_ok_iff hlong).mp hnew
  obtain ⟨old, hread, hrefits⟩ := refits_fixed hformat hfixed
  have hbody : isBlank body = false := Frame.isBlank_of_fill hblank
  have hend : body.getLast? = some '\n' :=
    body_getLast? (body_eq_ok_iff.mpr ⟨d, hasPlaceholder, mismatch, hfixed, hprint⟩) hbody
  unfold printDocument at hprint
  obtain ⟨texts, htexts, hjoined⟩ := Run.result_bind_eq_ok.mp hprint
  obtain rfl := Except.ok.inj hjoined
  refine ⟨old, texts, hread, hrefits, Run.mapM_eq_ok.mp htexts, rfl, ?_, ?_⟩
  · rw [strippedParagraphs_fill _ level hbody hend, strippedParagraphs_intercalate]
    intro t ht
    obtain ⟨hmem, hne⟩ := List.mem_filter.mp ht
    obtain ⟨name, -, hname⟩ := exists_of_mem_forall₂ (Run.mapM_eq_ok.mp htexts) hmem
    exact (endsLine_printRecorded hname).resolve_left (by simpa using hne)
  · rw [ink_fill _ level hbody hend, ink_intercalate rfl]
    exact inkOf_le_of_sublist List.filter_sublist

variable {old : Document} {texts : List Text}

theorem not_mem_spaces (level : Nat) : '\n' ∉ spaces level := fun hmem =>
  absurd (List.eq_of_mem_replicate hmem) (by decide)

theorem Origin.headings (h : Origin r level docstring new old texts) :
    (new.document.titledSections.map Section.heading).Sublist (Document.headings new.text) := by
  have hprinted := headings_printed h.refits.sound.isComplete (isBlank_spaces level)
    (not_mem_spaces level) h.prints
  rw [Document.headings, h.paragraphs, List.filter_flatMap, List.map_flatMap]
  exact hprinted

/-! ## No heading but the titles -/

theorem ink_dedentDocstring (t : Text) : Text.ink (dedentDocstring t) = Text.ink t := by
  rw [← inkOf_strippedParagraphs, strippedParagraphs_dedentDocstring, inkOf_strippedParagraphs]

/-- Where the contents are the same again, the ink leaves no room for further headings. -/
theorem Origin.headings_eq (h : Origin r level docstring new old texts)
    (hread : (Document.read none (dedentDocstring new.text)).result = .ok d)
    (hsame : ∀ s, d.contents? s = new.document.contents? s)
    (honce : ¬ IsReadTwice (!(headedParagraphs (dedentDocstring new.text)).2.isEmpty)
      (headedParagraphs (dedentDocstring new.text)).1) :
    new.document.titledSections.map Section.heading = Document.headings new.text := by
  refine eq_of_sublist_of_sum_le h.headings
    (fun heading => headingInk_pos_of_mem) ?_
  -- Ink read back plus ink of headings ≤ ink of the text ≤ ink printed plus ink of titles.
  have hreadInk := (ink_read_le hread).resolve_left honce
  rw [ink_congr hsame, ink_dedentDocstring, headings_dedentDocstring] at hreadInk
  have hprintInk := ink_printed_order_le h.refits.sound h.prints
  have htext := h.ink
  rw [List.map_map]
  change _ ≤ (new.document.titledSections.map fun s => headingInk s.heading).sum
  omega

/-! ## No signature is read twice -/

theorem not_mem_indentFrom {m t : Text} {c : Char} {atStart : Bool} (hm : c ∉ m) (ht : c ∉ t) :
    c ∉ indentFrom m atStart t := by
  induction t generalizing atStart with
  | nil => exact List.not_mem_nil
  | cons a r ih =>
    rw [List.mem_cons, not_or] at ht
    rw [indentFrom, List.mem_append, List.mem_cons, not_or, not_or]
    refine ⟨?_, ht.1, ih ht.2⟩
    split
    · exact hm
    · exact List.not_mem_nil

theorem strip_indentFrom {m : Text} {atStart : Bool} (hm : isBlank m = true) (t : Text) :
    strip (indentFrom m atStart t) = indentFrom m false (strip t) := by
  rw [strip, stripLeft_indentFrom hm, stripRight_indentFrom, strip]

/-- A single line is a paragraph of its own. -/
theorem strippedParagraphs_line (level : Nat) {l : Text} (hl : '\n' ∉ l)
    (hblank : isBlank l = false) :
    strippedParagraphs (indentFrom (spaces level) true (l ++ ['\n'])) =
      [[indentFrom (spaces level) false (strip l)]] := by
  have hspace : isSpace '\n' = true := by decide
  have hline : isBlank (indentFrom (spaces level) false (strip l)) = false := by
    rw [Frame.isBlank_indentFrom, isBlank_strip, hblank]
  rw [indentFrom_append_newline]
  change strippedParagraphs (indentFrom (spaces level) true l ++ ['\n']) = _
  rw [strippedParagraphs_append_space hspace, strippedParagraphs,
    List.splitOn_eq_singleton (not_mem_indentFrom (not_mem_spaces level) hl), List.map_singleton,
    strip_indentFrom (isBlank_spaces level), paragraphs, if_neg (by simp [hline])]

theorem printSection_of_contents {s : Section} {c : Content} {t : Text} (hd : d.IsComplete)
    (hc : d.contents? s = some c) (h : (r.printRecorded d s.title).result = .ok t) :
    (Printer.printSection r.settings r.anyWidth s c).result = .ok t := by
  obtain ⟨s', htitle, hcases⟩ := printRecorded_cases hd h
  obtain rfl := Section.title_injective htitle
  obtain ⟨hnone, -⟩ | ⟨c', hc', hprinted⟩ := hcases
  · rw [hnone] at hc
    cases hc
  · rw [hc'] at hc
    exact Option.some.inj hc ▸ hprinted

/-- What is printed first where there is a signature. -/
theorem Origin.paragraphs_of_signature (h : Origin r level docstring new old texts) {t : Text}
    {ls : List Text} (hsignature : new.document.contents? .signature = some (.text t))
    (hsummary : new.document.contents? .summary = some (.lines ls)) :
    ∃ ps, strippedParagraphs new.text =
      strippedParagraphs (indentFrom (spaces level) true (t ++ ['\n'])) ++
        (strippedParagraphs (indentFrom (spaces level) true (Printer.printSummary ls)) ++ ps) := by
  have hold : old.contents? .signature = some (.text t) := by
    rw [← hsignature]
    exact (contents?_congr (h.refits.kept .signature (by simp))).symm
  -- A signature is recorded first and a summary right after it, so that they are printed in this order.
  obtain ⟨names, hnames⟩ := order_of_signature h.read hold
  have hprints := h.prints
  rw [h.refits.order, hnames] at hprints
  obtain ⟨t₁, _, ht₁, hrest, rfl⟩ := List.forall₂_cons_left_iff.mp hprints
  obtain ⟨t₂, texts', ht₂, -, rfl⟩ := List.forall₂_cons_left_iff.mp hrest
  have hcomplete := h.refits.sound.isComplete
  obtain rfl : t ++ ['\n'] = t₁ := Except.ok.inj (printSection_of_contents hcomplete hsignature ht₁)
  obtain rfl : Printer.printSummary ls = t₂ :=
    Except.ok.inj (printSection_of_contents hcomplete hsummary ht₂)
  rw [h.paragraphs, List.filter_cons_of_pos (by simp), List.flatMap_cons, List.filter_cons]
  refine ⟨(texts'.filter fun t => !t.isEmpty).flatMap fun t =>
    strippedParagraphs (indentFrom (spaces level) true t), ?_⟩
  split
  · rfl
  · rename_i hempty
    have hnil : Printer.printSummary ls = [] := by simpa using hempty
    rw [hnil]
    rfl

theorem Origin.not_isReadTwice (h : Origin r level docstring new old texts)
    (hread : (Document.read none (dedentDocstring new.text)).result = .ok d)
    (hsame : ∀ s, d.contents? s = new.document.contents? s) :
    ¬ IsReadTwice (!(headedParagraphs (dedentDocstring new.text)).2.isEmpty)
      (headedParagraphs (dedentDocstring new.text)).1 := by
  rintro ⟨p, hfront, hsignature, hheaded⟩
  obtain ⟨group, groups, hgroups⟩ : ∃ group groups,
      (headedParagraphs (dedentDocstring new.text)).2 = group :: groups :=
    List.exists_cons_of_ne_nil (by simpa using hheaded)
  -- The new docstring begins with the signature and, right below it, a heading.
  obtain ⟨ps, hparagraphs, hheading⟩ := paragraphs_of_headedParagraphs hfront hgroups
  have hp : p ∈ Text.paragraphs (dedentLines ((dedentDocstring new.text).splitOn '\n')) :=
    hparagraphs ▸ List.mem_cons_self
  have hlines : ∀ l ∈ p, '\n' ∉ l := fun l hl =>
    not_mem_of_mem_dedentLines (not_mem_of_mem_splitOn _) l (mem_of_mem_paragraphs hp hl).1
  obtain ⟨hsig, hsum⟩ :=
    contents_of_isReadTwice hread hfront (ne_nil_of_mem_paragraphs hp) hsignature hheaded
  rw [hsame] at hsig hsum
  obtain ⟨more, hprinted⟩ := h.paragraphs_of_signature hsig hsum
  rw [← strippedParagraphs_dedentDocstring, strippedParagraphs_eq, hparagraphs,
    strippedParagraphs_line level (not_mem_oneLine hlines (by decide)) (isBlank_oneLine hsignature),
    List.singleton_append, List.map_cons, List.cons.injEq] at hprinted
  obtain ⟨hfirst, hprinted⟩ := hprinted
  -- The signature has a single line, so it is printed as the summary too.
  obtain ⟨l, rfl, hl⟩ := List.map_eq_singleton_iff.mp hfirst
  rw [oneLine_singleton] at hsignature hl
  rw [strip_strip] at hl
  have hblank : isBlank (stripRight l) = false := by
    rw [isBlank_stripRight]
    exact (mem_of_mem_paragraphs hp List.mem_cons_self).2
  have hsummary : Printer.printSummary ([l].map stripRight) = stripRight l ++ ['\n'] := by
    rw [List.map_singleton, Printer.printSummary, if_neg (by simp [hblank])]
    rfl
  rw [hsummary, strippedParagraphs_line level
    (not_mem_stripRight (hlines l List.mem_cons_self)) hblank, List.singleton_append, List.map_cons,
    List.cons.injEq, strip_stripRight, ← hl] at hprinted
  -- So the second paragraph is the signature once more, and no heading after all.
  rw [← isHeading_map_strip, hprinted.1, isHeading_signature (by rw [strip_strip, hsignature])]
    at hheading
  cases hheading

/-! ## Section by section -/

/-- The section that a group of paragraphs heads and describes is read as the document has it. -/
def ReadsBack (d : Document) (s : Section) (group : List Text × List (List Text)) : Prop :=
  (headLines group.1).1 = s.title ∧
    ∃ c, (readContent s (sectionLines group)).result = .ok c ∧ d.contents? s = some c

/-- The new docstring reads back part by part.  The text before the first heading gives the sections
without a title, and the headings are the titles of the others, in order, each followed by lines that
give its contents. -/
structure Rereads (new : Renewed) : Prop where
  front : ∃ d, (readFront (!(headedParagraphs (dedentDocstring new.text)).2.isEmpty)
      (headedParagraphs (dedentDocstring new.text)).1).result = .ok d ∧
    ∀ s : Section, s.hasTitle = false → d.contents? s = new.document.contents? s
  sections : List.Forall₂ (ReadsBack new.document) new.document.titledSections
    (headedParagraphs (dedentDocstring new.text)).2

theorem mem_titledSections {s : Section} :
    s ∈ d.titledSections ↔
      s.title ∈ d.order ∧ s.hasTitle = true ∧ (d.contents? s).isSome = true := by
  unfold titledSections titledAmong
  rw [List.mem_filter, List.mem_filterMap, Bool.and_eq_true]
  constructor
  · rintro ⟨⟨name, hname, hs⟩, hfilled⟩
    exact ⟨title_of_ofTitle? hs ▸ hname, hfilled⟩
  · rintro ⟨hname, hfilled⟩
    exact ⟨⟨s.title, hname, s.ofTitle?_title⟩, hfilled⟩

theorem nodup_titledSections (hd : d.Sound) : d.titledSections.Nodup :=
  (nodup_filterMap_ofTitle? hd.nodup).filter _

theorem recordedAs_of_hasTitle {s : Section} (hs : s.hasTitle = true) (c : Content) :
    recordedAs s c = c := by
  cases s <;> first | rfl | cases hs

theorem ofHeading?_title (s : Section) : Section.ofHeading? s.title = some s := by
  cases s <;> rfl

/-- Two sections cannot be printed. -/
theorem Origin.printable (h : Origin r level docstring new old texts) {s : Section}
    (hs : s ∈ new.document.titledSections) : s ≠ .receives ∧ s ≠ .index := by
  obtain ⟨hname, -, hfilled⟩ := mem_titledSections.mp hs
  obtain ⟨c, hc⟩ := Option.isSome_iff_exists.mp hfilled
  obtain ⟨t, -, ht⟩ := exists_of_mem_forall₂ h.prints.flip hname
  have hsection := printSection_of_contents h.refits.sound.isComplete hc ht
  constructor
  · rintro rfl
    cases hsection
  · rintro rfl
    cases hsection

/-- Entries under the titles of a document are entries of its sections. -/
theorem map_fst_of_reads {ss : List Section} {groups : List (List Text × List (List Text))}
    {es : List (Section × Content)} (hheadings : ss.map Section.heading = groups.map (headLines ·.1))
    (hreads : List.Forall₂ Reads groups es) : es.map (·.1) = ss := by
  induction hreads generalizing ss with
  | nil => exact (List.map_eq_nil_iff.mp hheadings).symm
  | @cons group e groups es hread _ ih =>
    obtain ⟨s, ss', rfl, hheading, hrest⟩ := List.map_eq_cons_iff.mp hheadings
    have htitle : (headLines group.1).1 = s.title := (congrArg Prod.fst hheading).symm
    have hof := hread.1
    rw [htitle, ofHeading?_title] at hof
    rw [List.map_cons, ih hrest, Option.some.inj hof]

theorem forall₂_readsBack {groups : List (List Text × List (List Text))} {es : List (Section × Content)}
    (hheadings : (es.map (·.1)).map Section.heading = groups.map (headLines ·.1))
    (hreads : List.Forall₂ Reads groups es) (hcontents : ∀ e ∈ es, d.contents? e.1 = some e.2) :
    List.Forall₂ (ReadsBack d) (es.map (·.1)) groups := by
  induction hreads with
  | nil => exact .nil
  | @cons group e groups es hread _ ih =>
    rw [List.map_cons, List.map_cons, List.map_cons, List.cons.injEq] at hheadings
    rw [List.forall_mem_cons] at hcontents
    exact .cons ⟨(congrArg Prod.fst hheadings.1).symm, e.2, hread.2, hcontents.1⟩
      (ih hheadings.2 hcontents.2)

/-- What reads back as a whole reads back part by part. -/
theorem Origin.rereads (h : Origin r level docstring new old texts)
    (hread : (Document.read none (dedentDocstring new.text)).result = .ok d)
    (hsame : ∀ s, d.contents? s = new.document.contents? s) : Rereads new := by
  have hheadings := h.headings_eq hread hsame (h.not_isReadTwice hread hsame)
  rw [← headings_dedentDocstring, ← map_headLines_headedParagraphs] at hheadings
  obtain ⟨es, hes, rfl⟩ := read_eq_ok_iff.mp hread
  have hnodup := nodup_of_nodup_names hes.nodup
  have hsections := map_fst_of_reads hheadings hes.reads
  -- No entry is overwritten by a later one, so each holds what the document has in the end.
  have hcontents : ∀ e ∈ es, new.document.contents? e.1 = some e.2 := by
    intro e he
    have hs : e.1 ∈ new.document.titledSections := hsections ▸ List.mem_map_of_mem he
    obtain ⟨-, htitle, hfilled⟩ := mem_titledSections.mp hs
    obtain ⟨c, hc⟩ := Option.isSome_iff_exists.mp hfilled
    have hentry := content_addAll_of_mem content_blank.1 hnodup (List.mem_append_right _ he)
      (h.printable hs).2
    rw [recordedAs_of_hasTitle htitle] at hentry
    rw [hc, ← (contents?_eq_some_iff.mp ((hsame e.1).trans hc)).2, hentry]
  refine ⟨⟨_, readFront_eq_ok_iff.mpr ⟨?_, rfl⟩, ?_⟩, ?_⟩
  · have hnames := hes.nodup
    rw [List.map_append] at hnames
    exact (List.nodup_append.mp hnames).1
  · -- The entries below headings have titles and leave the sections without one alone.
    intro s hs
    rw [← hsame s, addAll_append]
    refine (contents?_congr (content_addAll_of_not_mem (addAll_isComplete content_blank.1 _) ?_)).symm
    rintro e he rfl
    have hmem : e.1 ∈ new.document.titledSections := hsections ▸ List.mem_map_of_mem he
    rw [(mem_titledSections.mp hmem).2.1] at hs
    cases hs
  · rw [← hsections] at hheadings ⊢
    exact forall₂_readsBack hheadings hes.reads hcontents

theorem exists_entries {ss : List Section} {groups : List (List Text × List (List Text))}
    (h : List.Forall₂ (ReadsBack d) ss groups) :
    ∃ es, List.Forall₂ Reads groups es ∧ es.map (·.1) = ss ∧
      ∀ e ∈ es, d.contents? e.1 = some e.2 := by
  induction h with
  | nil => exact ⟨[], .nil, rfl, by simp⟩
  | @cons s group _ _ hback _ ih =>
    obtain ⟨es, hreads, hsections, hcontents⟩ := ih
    obtain ⟨htitle, c, hcontent, hc⟩ := hback
    refine ⟨(s, c) :: es, .cons ⟨?_, hcontent⟩ hreads, ?_, ?_⟩
    · rw [htitle, ofHeading?_title]
    · rw [List.map_cons, hsections]
    · intro e he
      obtain rfl | he := List.mem_cons.mp he
      · exact hc
      · exact hcontents e he

/-- The sections of a printed document go together. -/
theorem Origin.consistent (h : Origin r level docstring new old texts) :
    (checkSections new.document.titledSections).result = .ok () := by
  have hreceives : Section.receives ∉ new.document.titledSections := fun hmem =>
    (h.printable hmem).1 rfl
  have hresults : Section.returns ∈ new.document.titledSections →
      Section.yields ∉ new.document.titledSections := by
    intro hreturns hyields
    have hreturns := (mem_titledSections.mp hreturns).1
    have hyields := (mem_titledSections.mp hyields).1
    rw [h.refits.order] at hreturns hyields
    exact not_mem_order_of_read h.read hreturns hyields
  unfold checkSections
  rw [if_neg, if_neg]
  · rfl
  · simp [hreceives]
  · simpa using hresults

theorem contents?_of_default {s : Section} (hs : s.hasTitle = true) (h : d.content s = s.default) :
    d.contents? s = none := by
  have hsummary : s ≠ .summary := by
    rintro rfl
    cases hs
  rw [contents?, h, if_pos (isEmpty_default hsummary)]

theorem contents?_of_not_mem {s : Section} (hd : d.Sound) (hs : s.hasTitle = true)
    (hmem : s ∉ d.titledSections) : d.contents? s = none := by
  by_cases hname : s.title ∈ d.order
  · rw [mem_titledSections] at hmem
    cases hc : d.contents? s with
    | none => rfl
    | some c => exact absurd ⟨hname, hs, by rw [hc]; rfl⟩ hmem
  · exact contents?_of_default hs (hd.unrecorded s hname)

theorem Origin.entries (h : Origin r level docstring new old texts) {es : List (Section × Content)}
    (hnames : ((openingEntries (!(headedParagraphs (dedentDocstring new.text)).2.isEmpty)
      (headedParagraphs (dedentDocstring new.text)).1).map (·.1.recordName)).Nodup)
    (hreads : List.Forall₂ Reads (headedParagraphs (dedentDocstring new.text)).2 es)
    (hsections : es.map (·.1) = new.document.titledSections) :
    Entries (dedentDocstring new.text) es := by
  have htitled : ∀ e ∈ es, e.1.hasTitle = true := fun e he =>
    (mem_titledSections.mp (hsections ▸ List.mem_map_of_mem he)).2.1
  refine ⟨hreads, hsections ▸ h.consistent, ?_, ?_⟩
  · have hrecorded : es.map (·.1.recordName) =
        new.document.titledSections.map Section.recordName := by
      rw [← hsections, List.map_map]
      rfl
    -- Only the front has sections without a title, so the two parts share no name.
    rw [List.map_append, List.nodup_append, hrecorded]
    refine ⟨hnames, (nodup_titledSections h.refits.sound).map fun _ _ => recordName_injective, ?_⟩
    rw [← hrecorded]
    rintro name hname name' hname' rfl
    obtain ⟨e, he, rfl⟩ := List.mem_map.mp hname
    obtain ⟨e', he', heq⟩ := List.mem_map.mp hname'
    have htitle := htitled e' he'
    rw [recordName_injective heq, (fits_openingEntries _ _ e he).2] at htitle
    cases htitle
  · intro e he hsummary
    have htitle := htitled e he
    rw [hsummary] at htitle
    cases htitle

/-- What reads back part by part reads back as a whole. -/
theorem Origin.reads (h : Origin r level docstring new old texts) (hback : Rereads new) :
    ∃ d, (Document.read none (dedentDocstring new.text)).result = .ok d ∧
      ∀ s, d.contents? s = new.document.contents? s := by
  obtain ⟨front, hfront, huntitled⟩ := hback.front
  obtain ⟨hnames, rfl⟩ := readFront_eq_ok_iff.mp hfront
  obtain ⟨es, hreads, hsections, hcontents⟩ := exists_entries hback.sections
  have htitled : ∀ e ∈ es, e.1 ∈ new.document.titledSections := fun e he =>
    hsections ▸ List.mem_map_of_mem he
  have hentries := h.entries hnames hreads hsections
  refine ⟨_, read_eq_ok_iff.mpr ⟨es, hentries, rfl⟩, fun s => ?_⟩
  -- A section comes from the front, from its own heading, or from neither of them.
  cases htitle : s.hasTitle with
  | false =>
    rw [← huntitled s htitle, addAll_append]
    refine contents?_congr (content_addAll_of_not_mem (addAll_isComplete content_blank.1 _) ?_)
    rintro e he rfl
    rw [(mem_titledSections.mp (htitled e he)).2.1] at htitle
    cases htitle
  | true =>
    by_cases hs : s ∈ new.document.titledSections
    · obtain ⟨e, he, rfl⟩ := List.mem_map.mp (hsections ▸ hs)
      have hentry := content_addAll_of_mem content_blank.1 (nodup_of_nodup_names hentries.nodup)
        (List.mem_append_right _ he) (h.printable hs).2
      rw [recordedAs_of_hasTitle htitle] at hentry
      rw [hcontents e he]
      exact contents?_eq_some_iff.mpr ⟨(contents?_eq_some_iff.mp (hcontents e he)).1, hentry⟩
    · rw [contents?_of_not_mem h.refits.sound htitle hs]
      refine contents?_of_default htitle ?_
      rw [content_addAll_of_not_mem content_blank.1, content_blank.2]
      intro e he heq
      obtain he | he := List.mem_append.mp he
      · rw [← heq, (fits_openingEntries _ _ e he).2] at htitle
        cases htitle
      · exact hs (heq ▸ htitled e he)

end Renewal
end DocTidy
