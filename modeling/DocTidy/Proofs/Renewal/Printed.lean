import DocTidy.Proofs.Document.Opening
import DocTidy.Proofs.Renewal.FrameLines
import DocTidy.Proofs.Renewal.Plain

/-!
# The lines of a document

The sections that have contents are printed in the order in which they were recorded, each as a block of
lines.  Sections without a title stand in one order (`untitled_sublist`), and only an opening that leaves
no summary explains that none is printed (`summary_cases`).
-/

namespace DocTidy

open Text

/-! ## The lines of a document -/

namespace Document

variable {d : Document} {r : Renewal} {s : Section} {names : List Text}

/-- The sections with these titles that have contents, in order. -/
def printedAmong (d : Document) (names : List Text) : List Section :=
  (names.filterMap Section.ofTitle?).filter fun s => (d.contents? s).isSome

/-- The sections that are printed, in order. -/
def printedSections (d : Document) : List Section := d.printedAmong d.order

/-- The lines that are printed of a section. -/
def sectionBlock (d : Document) (r : Renewal) (s : Section) : List Text :=
  (d.content s).block r.settings r.anyWidth s

/-- The lines that are printed of a document. -/
def printedLines (d : Document) (r : Renewal) : List Text :=
  joinParagraphs (d.printedSections.map (d.sectionBlock r))

theorem printedAmong_append (d : Document) (names names' : List Text) :
    d.printedAmong (names ++ names') = d.printedAmong names ++ d.printedAmong names' := by
  unfold printedAmong
  rw [List.filterMap_append, List.filter_append]

theorem printedAmong_cons (d : Document) (s : Section) (names : List Text) :
    d.printedAmong (s.title :: names) =
      (if (d.contents? s).isSome then [s] else []) ++ d.printedAmong names := by
  unfold printedAmong
  rw [List.filterMap_cons_some s.ofTitle?_title, List.filter_cons]
  split <;> rfl

theorem mem_printedAmong : s ∈ d.printedAmong names ↔ s.title ∈ names ∧ (d.contents? s).isSome = true := by
  unfold printedAmong
  rw [List.mem_filter, List.mem_filterMap]
  refine and_congr_left fun _ => ⟨?_, fun hname => ⟨s.title, hname, s.ofTitle?_title⟩⟩
  rintro ⟨name, hname, hs⟩
  rwa [Renewal.title_of_ofTitle? hs]

theorem filter_hasTitle_printedSections (d : Document) :
    d.printedSections.filter Section.hasTitle = d.titledSections := by
  unfold printedSections printedAmong titledSections titledAmong
  rw [List.filter_filter]

theorem contents?_of_mem (h : s ∈ d.printedSections) : d.contents? s = some (d.content s) := by
  obtain ⟨c, hc⟩ := Option.isSome_iff_exists.mp (mem_printedAmong.mp h).2
  rw [hc, (contents?_eq_some_iff.mp hc).2]

theorem isEmpty_of_mem (h : s ∈ d.printedSections) : (d.content s).isEmpty = false :=
  (contents?_eq_some_iff.mp (contents?_of_mem h)).1

theorem printedAmong_sublist (d : Document) (es : List (Section × Content)) :
    (d.printedAmong (es.map (·.1.recordName))).Sublist (es.map (·.1)) := by
  refine List.filter_sublist.trans ?_
  induction es with
  | nil => exact .slnil
  | cons e es ih =>
    rw [List.map_cons, List.map_cons]
    by_cases hindex : e.1 = .index
    · rw [hindex, List.filterMap_cons_none (by decide)]
      exact ih.cons _
    · rw [recordName_eq_title hindex, List.filterMap_cons_some (Section.ofTitle?_title _)]
      exact ih.cons_cons _

theorem nodup_printedSections (hd : d.Sound) : d.printedSections.Nodup :=
  (Renewal.nodup_filterMap_ofTitle? hd.nodup).filter _

/-- Only the summary can have contents without being printed. -/
theorem contents?_of_not_printed (hd : d.Sound) (hs : s ≠ .summary) (hnot : s ∉ d.printedSections) :
    d.contents? s = none := by
  by_cases hname : s.title ∈ d.order
  · cases hc : d.contents? s with
    | none => rfl
    | some c => exact absurd (mem_printedAmong.mpr ⟨hname, by rw [hc]; rfl⟩) hnot
  · rw [contents?, hd.unrecorded s hname, if_pos (isEmpty_default hs)]

/-! ## Sections without a title -/

/-- Each section that is printed has contents of a kind that can be. -/
def IsPrintable (d : Document) : Prop :=
  ∀ s ∈ d.printedSections, Printer.canPrint s (d.content s) = true

theorem areParagraphs_front (t : Text) : AreParagraphs (headedParagraphs t).1 := fun p hp =>
  areParagraphs_paragraphs _ p (mem_of_mem_fst_headedRuns hp)

theorem areParagraphs_group {t : Text} {group : List Text × List (List Text)}
    (hgroup : group ∈ (headedParagraphs t).2) : AreParagraphs (group.1 :: group.2) := fun p hp =>
  areParagraphs_paragraphs _ p (mem_of_mem_snd_headedRuns hgroup hp)

theorem headedParagraphs_flatten (t : Text) :
    (headedParagraphs (dedentDocstring t)).1 ++
      (headedParagraphs (dedentDocstring t)).2.flatMap (fun group => group.1 :: group.2) = readParagraphs t :=
  headedRuns_flatten isHeading (readParagraphs t)

/-- Lines with text are not the summary that stands for none. -/
theorem map_stripRight_ne_default {p : List Text} (hp : ∀ l ∈ p, isBlank l = false) :
    p.map stripRight ≠ [[]] := by
  intro hdefault
  obtain ⟨l, rfl, hl⟩ := List.map_eq_singleton_iff.mp hdefault
  have hblank := hp l List.mem_cons_self
  rw [stripRight_eq_nil_iff.mp hl] at hblank
  cases hblank

namespace Parts

variable {t : Text} {opening es : List (Section × Content)}

theorem refits {d' : Document} (h : Parts t d opening es) (hrefits : d.Refits d') : Parts t d' opening es :=
  ⟨h.opens, h.entries, hrefits.order.trans h.order, fun s hs => (hrefits.kept s hs).trans (h.content s hs)⟩

theorem printedSections_eq (h : Parts t d opening es) : d.printedSections =
    d.printedAmong (opening.map (·.1.recordName)) ++ d.printedAmong (es.map (·.1.recordName)) := by
  rw [printedSections, h.order, printedAmong_append]

/-- Of the sections without a title only the extended summary may stand below a heading. -/
theorem eq_extendedSummary (h : Parts t d opening es) (hprint : d.IsPrintable)
    (hs : s ∈ d.printedAmong (es.map (·.1.recordName))) (huntitled : s.hasTitle = false) :
    s = .extendedSummary := by
  have hprinted : s ∈ d.printedSections := h.printedSections_eq ▸ List.mem_append_right _ hs
  obtain ⟨e, he, rfl⟩ := List.mem_map.mp ((d.printedAmong_sublist es).subset hs)
  cases hsection : e.1 with
  | extendedSummary => rfl
  | summary => exact absurd hsection (h.entries.notSummary e he)
  | signature =>
    -- It is read as lines, for which there is no printer.
    have hcan := hprint _ hprinted
    obtain ⟨group, -, -, hread⟩ := exists_of_mem_forall₂ h.entries.reads he
    obtain ⟨s, c⟩ := e
    obtain rfl : s = .signature := hsection
    rw [h.content_of_mem (List.mem_append_right _ he) (by decide) (by decide)] at hcan
    obtain rfl : .lines (sectionLines group) = c := Except.ok.inj hread
    cases hcan
  | parameters | returns | yields | receives | raises | warns | otherParameters | attributes | methods
  | seeAlso | notes | warnings | references | examples | index =>
    rw [hsection] at huntitled
    cases huntitled

/-- **Sections without a title** are printed in one order. -/
theorem untitled_sublist (h : Parts t d opening es) (hd : d.Sound) (hprint : d.IsPrintable) :
    (d.printedSections.filter fun s => !s.hasTitle).Sublist [.signature, .summary, .extendedSummary] := by
  have hnodup := (nodup_printedSections hd).filter fun s => !s.hasTitle
  rw [h.printedSections_eq, List.filter_append] at hnodup ⊢
  have hopening : ((d.printedAmong (opening.map (·.1.recordName))).filter fun s => !s.hasTitle).Sublist
      [.signature, .summary, .extendedSummary] :=
    List.filter_sublist.trans ((d.printedAmong_sublist opening).trans h.opens.sublist)
  have hbelow : ∀ s ∈ (d.printedAmong (es.map (·.1.recordName))).filter fun s => !s.hasTitle,
      s = .extendedSummary := by
    intro s hs
    obtain ⟨hmem, huntitled⟩ := List.mem_filter.mp hs
    exact h.eq_extendedSummary hprint hmem (by simpa using huntitled)
  revert hnodup hopening hbelow
  generalize (d.printedAmong (opening.map (·.1.recordName))).filter (fun s => !s.hasTitle) = first
  generalize (d.printedAmong (es.map (·.1.recordName))).filter (fun s => !s.hasTitle) = below
  intro hnodup hopening hbelow
  cases below with
  | nil => rwa [List.append_nil]
  | cons s below =>
    obtain ⟨rfl, hrest⟩ := List.forall_mem_cons.mp hbelow
    obtain ⟨-, hdistinct, hdisjoint⟩ := List.nodup_append.mp hnodup
    -- It is printed once, so it does not stand in the opening.
    obtain rfl : below = [] := List.eq_nil_iff_forall_not_mem.mpr fun s hs =>
      (List.nodup_cons.mp hdistinct).1 (hrest s hs ▸ hs)
    have hfirst : first.filter (fun s => s != .extendedSummary) = first :=
      List.filter_eq_self.mpr fun s hs => bne_iff_ne.mpr (hdisjoint s hs _ List.mem_cons_self)
    rw [← hfirst]
    exact (hopening.filter fun s => s != .extendedSummary).append (.refl [Section.extendedSummary])

theorem contents?_of_mem_opening (h : Parts t d opening es) {c : Content} (hmem : (s, c) ∈ opening) :
    d.contents? s = if (recordedAs s c).isEmpty then none else some (recordedAs s c) := by
  have hs : s ≠ .parameters := by
    rintro rfl
    cases h.opens.hasTitle_eq_false hmem
  rw [contents?, h.content_of_mem (List.mem_append_left _ hmem) (h.opens.ne_index hmem) hs]

/-- A paragraph that is read as the summary is printed, and it has text. -/
theorem summary_printed (h : Parts t d opening es) {p : List Text} (hp : p ≠ [] ∧ ∀ l ∈ p, isBlank l = false)
    (hmem : (.summary, .lines p) ∈ opening) :
    .summary ∈ d.printedSections ∧ d.contents? .summary ≠ some (.lines [[]]) := by
  obtain ⟨hne, hinked⟩ := hp
  have hcontents : d.contents? .summary = some (.lines (p.map stripRight)) := by
    rw [h.contents?_of_mem_opening hmem]
    cases p with
    | nil => exact absurd rfl hne
    | cons l p => rfl
  refine ⟨mem_printedAmong.mpr ⟨?_, by rw [hcontents]; rfl⟩, fun hdefault => ?_⟩
  · rw [h.order]
    exact List.mem_append_left _ (List.mem_map.mpr ⟨_, hmem, rfl⟩)
  · rw [hcontents, Option.some.injEq, Content.lines.injEq] at hdefault
    exact map_stripRight_ne_default hinked hdefault

theorem eq_signature_of_printed (h : Parts t d opening es) (hes : es = []) (hs : s ∈ d.printedSections)
    (hsummary : (.summary, .lines []) ∈ opening) (hextended : (.extendedSummary, .lines []) ∈ opening) :
    s = .signature := by
  have hopening := (d.printedAmong_sublist opening).trans h.opens.sublist
  rw [h.printedSections_eq, hes] at hs
  change s ∈ d.printedAmong (opening.map (·.1.recordName)) ++ [] at hs
  rw [List.append_nil] at hs
  have hfilled := (mem_printedAmong.mp hs).2
  rcases List.mem_cons.mp (hopening.subset hs) with rfl | hmem
  · rfl
  · rcases List.mem_cons.mp hmem with rfl | hmem
    · rw [h.contents?_of_mem_opening hsummary] at hfilled
      cases hfilled
    · obtain rfl := List.mem_singleton.mp hmem
      rw [h.contents?_of_mem_opening hextended] at hfilled
      cases hfilled

/-- **Why no summary is printed.**  Nothing but a signature is, or the docstring begins with a heading. -/
theorem summary_cases (h : Parts t d opening es) (hprint : d.IsPrintable) :
    (.summary ∈ d.printedSections ∧ d.contents? .summary ≠ some (.lines [[]])) ∨
      (d.contents? .summary = none ∧ ∀ s ∈ d.printedSections, s = .signature) ∨
      (d.contents? .summary = some (.lines [[]]) ∧ .summary ∉ d.printedSections ∧
        .signature ∉ d.printedSections) := by
  have hfrontLines := areParagraphs_front t
  -- By cases on how the docstring opens: a paragraph is read as the summary in the last three.
  have hopens := h.opens
  generalize hfront : (headedParagraphs t).1 = front at hopens hfrontLines
  generalize hheaded : (!(headedParagraphs t).2.isEmpty) = headed at hopens
  cases hopens with
  | nothing hyes =>
    refine .inr (.inr ⟨?_, ?_, ?_⟩)
    · rw [contents?, h.content_of_not_mem h.entries.notSummary (by decide)]
      rfl
    · intro hsummary
      rw [h.printedSections_eq] at hsummary
      obtain ⟨e, he, hs⟩ := List.mem_map.mp ((d.printedAmong_sublist es).subset hsummary)
      exact h.entries.notSummary e he hs
    · intro hsignature
      rw [h.printedSections_eq] at hsignature
      cases h.eq_extendedSummary hprint hsignature rfl
  | empty hno =>
    have hes := h.eq_nil_of_not_headed (hheaded.trans hno)
    refine .inr (.inl ⟨?_, fun s hs => ?_⟩)
    · exact h.contents?_of_mem_opening List.mem_cons_self
    · exact h.eq_signature_of_printed hes hs (by simp) (by simp)
  | signed p hno hp =>
    have hes := h.eq_nil_of_not_headed (hheaded.trans hno)
    refine .inr (.inl ⟨?_, fun s hs => ?_⟩)
    · exact h.contents?_of_mem_opening (c := .lines []) (by simp)
    · exact h.eq_signature_of_printed hes hs (by simp) (by simp)
  | signedTwice p hyes hp =>
    exact .inl (h.summary_printed (hfrontLines p List.mem_cons_self) (by simp))
  | summed p rest hp =>
    exact .inl (h.summary_printed (hfrontLines p List.mem_cons_self) List.mem_cons_self)
  | signedSummed q p rest hq hp =>
    exact .inl (h.summary_printed (hfrontLines p (by simp)) (List.mem_cons_of_mem _ List.mem_cons_self))

theorem summary_mem_iff (h : Parts t d opening es) (hprint : d.IsPrintable) :
    .summary ∈ d.printedSections ↔
      d.contents? .summary ≠ none ∧ d.contents? .summary ≠ some (.lines [[]]) := by
  constructor
  · intro hs
    obtain ⟨-, hne⟩ | ⟨-, honly⟩ | ⟨-, hnot, -⟩ := h.summary_cases hprint
    · exact ⟨by rw [contents?_of_mem hs]; exact Option.some_ne_none _, hne⟩
    · cases honly _ hs
    · exact absurd hs hnot
  · rintro ⟨hsome, hne⟩
    obtain ⟨hs, -⟩ | ⟨hnone, -⟩ | ⟨hdefault, -⟩ := h.summary_cases hprint
    · exact hs
    · exact absurd hnone hsome
    · exact absurd hdefault hne

end Parts

/-! ## Lines -/

/-- The contents of all sections that are printed have the form that reading leaves. -/
def ContentsRead (d : Document) : Prop := ∀ s ∈ d.printedSections, (d.content s).IsRead s

end Document

namespace Renewal

open Document

variable {r : Renewal} {subject : Subject} {level : Nat} {docstring : Text} {new : Renewed}
  {d old : Document} {names texts : List Text}

theorem Prints.texts_eq (hd : d.IsComplete) (hread : ∀ s ∈ d.printedAmong names, (d.content s).IsRead s)
    (h : r.Prints d names texts) :
    texts.filter (fun t => !t.isEmpty) = (d.printedAmong names).map fun s => ended (d.sectionBlock r s) := by
  induction h with
  | nil => rfl
  | @cons name t names texts hprint _ ih =>
    obtain ⟨s, rfl, hcases⟩ := printRecorded_cases hd hprint
    rw [printedAmong_cons] at hread ⊢
    obtain ⟨hnone, rfl⟩ | ⟨c, hsome, hprinted⟩ := hcases
    · rw [hnone] at hread ⊢
      exact ih hread
    · obtain ⟨hne, rfl⟩ := contents?_eq_some_iff.mp hsome
      have hcan := (Printer.printSection_succeeds_iff r.settings r.anyWidth s _).mp ⟨t, hprinted⟩
      rw [hsome] at hread ⊢
      have hrest := ih fun s' hs' => hread s' (List.mem_append_right _ hs')
      have hs := hread s (List.mem_append_left _ List.mem_cons_self)
      rw [Printer.printSection_eq r.settings r.anyWidth hcan hs hne] at hprinted
      obtain ⟨l, ls, hblock, -⟩ := hs.exists_block r.settings r.anyWidth hne
      obtain rfl := Except.ok.inj hprinted
      rw [List.filter_cons_of_pos, hrest]
      · rfl
      · rw [hblock, ended_cons]
        simp

/-- **What a document is printed as**: the lines of its sections. -/
theorem Prints.intercalate_eq (hd : d.IsComplete) (hread : d.ContentsRead) (h : r.Prints d d.order texts) :
    ['\n'].intercalate (texts.filter fun t => !t.isEmpty) = ended (d.printedLines r) := by
  rw [Prints.texts_eq hd hread h, Document.printedLines, ← intercalate_map_ended, List.map_map]
  rfl

theorem Origin.text_eq (h : Origin r level docstring new old texts) (hread : new.document.ContentsRead) :
    new.text = (Frame.ofDocstring docstring).fill level (ended (new.document.printedLines r)) := by
  rw [← h.text, Prints.intercalate_eq h.refits.sound.isComplete hread h.prints]

end Renewal

namespace Document

variable {d : Document} {r : Renewal} {s : Section}

theorem paragraphs_joinParagraphs (bs : List (List Text)) :
    paragraphs (joinParagraphs bs) = bs.flatMap paragraphs := by
  induction bs with
  | nil => rfl
  | cons b bs ih =>
    cases bs with
    | nil => rw [joinParagraphs_singleton, List.flatMap_singleton]
    | cons b' bs => rw [joinParagraphs_cons_cons, paragraphs_append_blank isBlank_nil, ih, ← List.flatMap_cons]

theorem ContentsRead.of_mem_printedLines (hread : d.ContentsRead) {l : Text} (hl : l ∈ d.printedLines r) :
    OnlySpaces l ∧ (isBlank l = true → l = []) := by
  obtain rfl | ⟨b, hb, hl⟩ := of_mem_joinParagraphs hl
  · exact ⟨by decide, fun _ => rfl⟩
  · obtain ⟨s, hs, rfl⟩ := List.mem_map.mp hb
    exact ⟨(hread s hs).onlySpaces_block l hl, (hread s hs).isCleared_block l hl⟩

/-- The first line that is printed has text on it. -/
theorem ContentsRead.exists_printedLines (hread : d.ContentsRead) (hne : d.printedSections ≠ []) :
    ∃ l ls, d.printedLines r = l :: ls ∧ isBlank l = false := by
  obtain ⟨s, ss, hsections⟩ := List.exists_cons_of_ne_nil hne
  have hs : s ∈ d.printedSections := hsections ▸ List.mem_cons_self
  obtain ⟨l, ls, hblock, hl⟩ := (hread s hs).exists_block r.settings r.anyWidth
    (isEmpty_of_mem hs)
  obtain ⟨below, hjoin⟩ := joinParagraphs_cons (d.sectionBlock r s) (ss.map (d.sectionBlock r))
  refine ⟨l, ls ++ below, ?_, hl⟩
  rw [printedLines, hsections, List.map_cons, hjoin, sectionBlock, hblock]
  rfl

/-- The paragraphs of a section. -/
def sectionParagraphs (d : Document) (r : Renewal) (s : Section) : List (List Text) :=
  paragraphs (d.sectionBlock r s)

theorem paragraphs_printedLines (d : Document) (r : Renewal) :
    paragraphs (d.printedLines r) = d.printedSections.flatMap (d.sectionParagraphs r) := by
  rw [printedLines, paragraphs_joinParagraphs, List.flatMap_map]
  rfl

/-- The heading of a section and the paragraphs below it. -/
def sectionGroup (d : Document) (r : Renewal) (s : Section) : List Text × List (List Text) :=
  ((d.sectionParagraphs r s).headD [], (d.sectionParagraphs r s).tail)

/-- The paragraphs of a section with a title: the first is its heading, and what is read of them are the
lines below the title. -/
theorem sectionParagraphs_titled (d : Document) (r : Renewal) (hs : s.hasTitle = true) :
    d.sectionParagraphs r s = (d.sectionGroup r s).1 :: (d.sectionGroup r s).2 ∧
      isHeading (d.sectionGroup r s).1 = true ∧ headLines (d.sectionGroup r s).1 = s.heading ∧
      sectionLines (d.sectionGroup r s) =
        squeeze (s.gap r.settings ++ (d.content s).printedLines r.settings r.anyWidth s) := by
  obtain ⟨p, ps, hparagraphs, hlines⟩ := Content.exists_sectionLines s
    (s.gap r.settings ++ (d.content s).printedLines r.settings r.anyWidth s)
  have hblock : d.sectionParagraphs r s = (s.title :: s.heading.2 :: p) :: ps := by
    rw [← hparagraphs, sectionParagraphs, sectionBlock, Content.block, Section.titleLines, if_pos hs]
    rfl
  have hgroup : d.sectionGroup r s = (s.title :: s.heading.2 :: p, ps) := by
    unfold sectionGroup
    rw [hblock]
    rfl
  obtain ⟨hheading, hhead⟩ := isHeading_heading s p
  rw [hgroup]
  exact ⟨hblock, hheading, hhead, hlines⟩

/-- **A section with a title reads back** exactly if its links are kept. -/
theorem readsBack_iff (hs : s ∈ d.printedSections) (htitle : s.hasTitle = true)
    (hread : (d.content s).IsRead s) :
    Renewal.ReadsBack d s (d.sectionGroup r s) ↔ (d.content s).LinksKept r.anyWidth := by
  obtain ⟨-, -, hhead, hlines⟩ := sectionParagraphs_titled d r htitle
  obtain ⟨again, hagain, hsame⟩ :=
    Content.readContent_printed r.settings r.anyWidth htitle hread (isEmpty_of_mem hs)
  rw [← hlines] at hagain
  rw [← hsame]
  constructor
  · rintro ⟨-, c, hc, hcontents⟩
    rw [hagain] at hc
    rw [contents?_of_mem hs] at hcontents
    rw [Except.ok.inj hc, Option.some.inj hcontents]
  · rintro rfl
    exact ⟨congrArg Prod.fst hhead, _, hagain, contents?_of_mem hs⟩

/-- No paragraph of a section shows as a heading but that of its title. -/
def Unheaded (d : Document) (r : Renewal) (s : Section) : Prop :=
  ∀ p ∈ (d.sectionParagraphs r s).drop (if s.hasTitle then 1 else 0), isHeading p = false

instance (d : Document) (r : Renewal) (s : Section) : Decidable (d.Unheaded r s) :=
  List.decidableBAll (fun p => isHeading p = false) _

theorem headedRuns_titled {ss : List Section} (htitled : ∀ s ∈ ss, s.hasTitle = true)
    (hunheaded : ∀ s ∈ ss, d.Unheaded r s) :
    headedRuns isHeading (ss.flatMap (d.sectionParagraphs r)) = ([], ss.map (d.sectionGroup r)) := by
  induction ss with
  | nil => rfl
  | cons s ss ih =>
    rw [List.forall_mem_cons] at htitled hunheaded
    obtain ⟨hparagraphs, hheading, -⟩ := sectionParagraphs_titled d r htitled.1
    have hbelow : ∀ p ∈ (d.sectionGroup r s).2, isHeading p = false := by
      have hdrop := hunheaded.1
      rw [Unheaded, htitled.1, if_pos rfl, hparagraphs] at hdrop
      exact hdrop
    rw [List.flatMap_cons, hparagraphs, List.cons_append, headedRuns_cons_head hheading,
      headedRuns_append hbelow, ih htitled.2 hunheaded.2, List.append_nil, List.map_cons]

theorem not_isHeading_untitled {ss : List Section} (huntitled : ∀ s ∈ ss, s.hasTitle = false)
    (hunheaded : ∀ s ∈ ss, d.Unheaded r s) :
    ∀ p ∈ ss.flatMap (d.sectionParagraphs r), isHeading p = false := by
  intro p hp
  obtain ⟨s, hs, hp⟩ := List.mem_flatMap.mp hp
  have hnone := hunheaded s hs
  rw [Unheaded, huntitled s hs, if_neg Bool.false_ne_true, List.drop_zero] at hnone
  exact hnone p hp

end Document
end DocTidy
