import DocTidy.Proofs.Renewal.Printed

/-!
# Sections without a title

The signature, the summary and the extended summary are read from the paragraphs before the first heading
(`OpensAs`), and they are printed as such paragraphs.  A summary that does not read as a signature is read
again from what is printed (`openedBy_untitled`), and what was read is printed as it was, but for white space
at the ends of lines (`OpenedBy.showsFront`).
-/

namespace DocTidy

open Text

namespace Document

variable {d : Document} {r : Renewal} {s : Section} {headed : Bool} {front : List (List Text)}
  {es : List (Section × Content)}

/-! ## What is read -/

/-- Contents that are the lines of some paragraphs, if there is one. -/
def ofParagraphs? (ps : List (List Text)) : Option Content :=
  if ps.isEmpty then none else some (.lines (joinParagraphs ps))

theorem ofParagraphs?_injective {ps qs : List (List Text)} (hps : AreParagraphs ps) (hqs : AreParagraphs qs)
    (h : ofParagraphs? ps = ofParagraphs? qs) : ps = qs := by
  cases ps with
  | nil =>
    cases qs with
    | nil => rfl
    | cons q qs => cases h
  | cons p ps =>
    cases qs with
    | nil => cases h
    | cons q qs =>
      have hjoin := Content.lines.inj (Option.some.inj h)
      rw [← hps.paragraphs_joinParagraphs, hjoin, hqs.paragraphs_joinParagraphs]

/-- What the paragraphs before the first heading are read as: the signature, the summary and the extended
summary.  A signature that is read twice is left aside. -/
inductive OpensAs (headed : Bool) :
    List (List Text) → Option Content → Option Content → Option Content → Prop
  | nothing (hheaded : headed = true) : OpensAs headed [] none (some (.lines [[]])) none
  | empty (hheaded : headed = false) : OpensAs headed [] none none none
  | signed (q : List Text) (hheaded : headed = false) (hq : isSignature (oneLine q) = true) :
    OpensAs headed [q] (some (.text (oneLine q))) none none
  | summed (p : List Text) (rest : List (List Text)) (hp : isSignature (oneLine p) = false) :
    OpensAs headed (p :: rest) none (some (.lines (p.map stripRight)))
      (ofParagraphs? (rest.map (·.map stripRight)))
  | signedSummed (q p : List Text) (rest : List (List Text)) (hq : isSignature (oneLine q) = true)
      (hp : isSignature (oneLine p) = false) :
    OpensAs headed (q :: p :: rest) (some (.text (oneLine q))) (some (.lines (p.map stripRight)))
      (ofParagraphs? (rest.map (·.map stripRight)))

/-- What is read does not depend on anything else. -/
theorem OpensAs.unique {a a' b b' c c' : Option Content} (h : OpensAs headed front a b c)
    (h' : OpensAs headed front a' b' c') : a = a' ∧ b = b' ∧ c = c' := by
  -- For the same paragraphs, two cases differ in the heading or in whether a signature stands first.
  cases h with
  | nothing hheaded =>
    cases h' with
    | nothing => exact ⟨rfl, rfl, rfl⟩
    | empty hnot =>
      rw [hheaded] at hnot
      cases hnot
  | empty hheaded =>
    cases h' with
    | nothing hyes =>
      rw [hheaded] at hyes
      cases hyes
    | empty => exact ⟨rfl, rfl, rfl⟩
  | signed q hheaded hq =>
    cases h' with
    | signed => exact ⟨rfl, rfl, rfl⟩
    | summed _ _ hp =>
      rw [hq] at hp
      cases hp
  | summed p rest hp =>
    cases h' with
    | signed _ _ hq | signedSummed _ _ _ hq =>
      rw [hp] at hq
      cases hq
    | summed => exact ⟨rfl, rfl, rfl⟩
  | signedSummed q p rest hq hp =>
    cases h' with
    | summed _ _ hp' =>
      rw [hq] at hp'
      cases hp'
    | signedSummed => exact ⟨rfl, rfl, rfl⟩

theorem OpensAs.exists_opens {a b c : Option Content} (h : OpensAs headed front a b c) :
    ¬ IsReadTwice headed front ∧ ∃ es, Opens headed front es := by
  cases h with
  | nothing hheaded => exact ⟨nofun, _, .nothing hheaded⟩
  | empty hheaded => exact ⟨nofun, _, .empty hheaded⟩
  | signed q hheaded hq =>
    refine ⟨?_, _, .signed q hheaded hq⟩
    rintro ⟨-, -, -, hyes⟩
    rw [hheaded] at hyes
    cases hyes
  | summed p rest hp =>
    refine ⟨?_, _, .summed p rest hp⟩
    rintro ⟨p', heq, hq, -⟩
    rw [← (List.cons.inj heq).1, hp] at hq
    cases hq
  | signedSummed q p rest hq hp => exact ⟨nofun, _, .signedSummed q p rest hq hp⟩

/-- What follows the summary is read as the extended summary. -/
theorem contents?_extendedSummary {headed : Bool} {front rest : List (List Text)} {p : List Text}
    {es : List (Section × Content)} (h : Opens headed front (es ++ summaryEntries headed p rest))
    (hes : .extendedSummary ∉ es.map (·.1)) (hrest : AreParagraphs rest) :
    (blank.addAll (es ++ summaryEntries headed p rest)).contents? .extendedSummary =
      ofParagraphs? (rest.map (·.map stripRight)) := by
  cases rest with
  | nil =>
    -- Above a heading nothing is recorded, and without one an empty entry is, which counts as nothing.
    cases headed with
    | true =>
      refine Opens.contents?_eq_none (by decide) ?_
      rw [List.map_append, List.mem_append, not_or]
      exact ⟨hes, by simp [summaryEntries]⟩
    | false =>
      refine h.contents?_eq (c := .lines []) (List.mem_append_right es ?_)
      exact List.mem_cons_of_mem _ List.mem_cons_self
  | cons q rest =>
    have hmem : (.extendedSummary, .lines (joinParagraphs (q :: rest))) ∈
        es ++ summaryEntries headed p (q :: rest) :=
      List.mem_append_right es (List.mem_cons_of_mem _ List.mem_cons_self)
    have hne : joinParagraphs (q :: rest) ≠ [] := joinParagraphs_ne_nil (hrest q List.mem_cons_self).1 rest
    have hjoin : recordedAs .extendedSummary (.lines (joinParagraphs (q :: rest))) =
        .lines (joinParagraphs ((q :: rest).map (·.map stripRight))) :=
      congrArg Content.lines (map_joinParagraphs rfl _)
    rw [h.contents?_eq hmem, hjoin, ← map_joinParagraphs rfl, if_neg]
    · rw [ofParagraphs?, map_joinParagraphs rfl]
      rfl
    · simpa [Content.isEmpty] using hne

theorem Opens.summary_eq {p : List Text} (h : Opens headed front es) (hmem : (.summary, .lines p) ∈ es)
    (hp : p ≠ []) : (blank.addAll es).contents? .summary = some (.lines (p.map stripRight)) := by
  rw [h.contents?_eq hmem]
  cases p with
  | nil => exact absurd rfl hp
  | cons l p => rfl

theorem Opens.signature_eq {t : Text} (h : Opens headed front es) (hmem : (.signature, .text t) ∈ es)
    (ht : isSignature t = true) : (blank.addAll es).contents? .signature = some (.text t) := by
  rw [h.contents?_eq hmem]
  cases t with
  | nil => cases ht
  | cons c t => rfl

/-- **What is read of an opening.** -/
theorem Opens.opensAs (h : Opens headed front es) (hfront : AreParagraphs front)
    (honce : ¬ IsReadTwice headed front) :
    OpensAs headed front ((blank.addAll es).contents? .signature) ((blank.addAll es).contents? .summary)
      ((blank.addAll es).contents? .extendedSummary) := by
  have hopens := h
  cases h with
  | nothing hheaded => exact .nothing hheaded
  | empty hheaded =>
    rw [Opens.contents?_eq_none (by decide) (by simp),
      hopens.contents?_eq (s := .summary) (c := .lines []) (by simp),
      hopens.contents?_eq (s := .extendedSummary) (c := .lines []) (by simp)]
    exact .empty hheaded
  | signedTwice p hheaded hp => exact absurd ⟨p, rfl, hp, hheaded⟩ honce
  | signed p hheaded hp =>
    rw [hopens.signature_eq List.mem_cons_self hp,
      hopens.contents?_eq (s := .summary) (c := .lines []) (by simp),
      hopens.contents?_eq (s := .extendedSummary) (c := .lines []) (by simp)]
    exact .signed p hheaded hp
  | summed p rest hp =>
    obtain ⟨⟨hne, -⟩, hrest⟩ := List.forall_mem_cons.mp hfront
    -- The entries hold no signature, so that none is recorded.
    have hnone : Section.signature ∉ (summaryEntries headed p rest).map (·.1) := fun hmem =>
      absurd ((sublist_summaryEntries headed p rest).subset hmem) (by decide)
    have hbelow : (blank.addAll ([] ++ summaryEntries headed p rest)).contents? .extendedSummary = _ :=
      contents?_extendedSummary hopens (by simp) hrest
    rw [List.nil_append] at hbelow
    rw [Opens.contents?_eq_none (by decide) hnone, hopens.summary_eq List.mem_cons_self hne, hbelow]
    exact .summed p rest hp
  | signedSummed q p rest hq hp =>
    obtain ⟨⟨hne, -⟩, hrest⟩ := List.forall_mem_cons.mp (List.forall_mem_cons.mp hfront).2
    have hbelow : (blank.addAll ([(.signature, .text (oneLine q))] ++ summaryEntries headed p rest)).contents?
        .extendedSummary = _ := contents?_extendedSummary hopens (by simp) hrest
    rw [List.singleton_append] at hbelow
    rw [hopens.signature_eq List.mem_cons_self hq,
      hopens.summary_eq (List.mem_cons_of_mem _ List.mem_cons_self) hne, hbelow]
    exact .signedSummed q p rest hq hp

/-- The sections without a title are those that are read from the paragraphs. -/
def OpenedBy (d : Document) (headed : Bool) (front : List (List Text)) : Prop :=
  OpensAs headed front (d.contents? .signature) (d.contents? .summary) (d.contents? .extendedSummary)

theorem openedBy_iff (hfront : AreParagraphs front) :
    d.OpenedBy headed front ↔ ¬ IsReadTwice headed front ∧ ∃ es, Opens headed front es ∧
      ∀ s : Section, s.hasTitle = false → (blank.addAll es).contents? s = d.contents? s := by
  constructor
  · intro h
    obtain ⟨honce, es, hopens⟩ := h.exists_opens
    -- What these entries record is related to the paragraphs too, and only one thing is.
    obtain ⟨hsignature, hsummary, hextended⟩ := (hopens.opensAs hfront honce).unique h
    refine ⟨honce, es, hopens, fun s hs => ?_⟩
    cases s with
    | signature => exact hsignature
    | summary => exact hsummary
    | extendedSummary => exact hextended
    | _ => cases hs
  · rintro ⟨honce, es, hopens, hsame⟩
    have hread := hopens.opensAs hfront honce
    rwa [hsame .signature rfl, hsame .summary rfl, hsame .extendedSummary rfl] at hread

/-! ## What is printed -/

/-- The sections without a title that are printed. -/
def untitledSections (d : Document) : List Section := d.printedSections.filter fun s => !s.hasTitle

theorem mem_untitledSections : s ∈ d.untitledSections ↔ s ∈ d.printedSections ∧ s.hasTitle = false := by
  unfold untitledSections
  rw [List.mem_filter, Bool.not_eq_true']

theorem printedSections_of_pairwise
    (h : d.printedSections.Pairwise fun s s' => s.hasTitle = true → s'.hasTitle = true) :
    d.printedSections = d.untitledSections ++ d.titledSections := by
  rw [← filter_hasTitle_printedSections]
  exact eq_filter_append_of_pairwise h

/-- The sections without a title, in order. -/
theorem untitledSections_eq (hsublist : d.untitledSections.Sublist [.signature, .summary, .extendedSummary]) :
    d.untitledSections =
      [.signature, .summary, .extendedSummary].filter fun s => decide (s ∈ d.printedSections) := by
  refine (eq_filter_of_sublist hsublist (by decide)).trans (List.filter_congr fun s hs => ?_)
  have huntitled : s.hasTitle = false := by
    revert s
    decide
  rw [decide_eq_decide, mem_untitledSections]
  exact and_iff_left huntitled

theorem exists_lines {c : Content} (hc : c.IsRead s) (hs : s.hasTitle = false) (hsignature : s ≠ .signature) :
    ∃ ls, c = .lines ls ∧ Content.AreLines s ls := by
  cases c with
  | text t => exact absurd hc.1 hsignature
  | lines ls => exact ⟨ls, rfl, hc.2⟩
  | params ps =>
    obtain ⟨soleType, hlayout, -⟩ := hc
    rw [Content.layout_untitled hs] at hlayout
    cases hlayout
  | links ls =>
    have hlayout := hc.1
    rw [Content.layout_untitled hs] at hlayout
    cases hlayout
  | data v => exact hc.elim

/-- The paragraphs of a section, if it is printed. -/
def shownParagraphs (d : Document) (r : Renewal) (s : Section) : List (List Text) :=
  if s ∈ d.printedSections then d.sectionParagraphs r s else []

theorem shownParagraphs_of_not_printed (hs : s ∉ d.printedSections) : d.shownParagraphs r s = [] := if_neg hs

/-- What shows of a signature is one line. -/
theorem signature_cases (r : Renewal) (hd : d.Sound) (hread : d.ContentsRead) (hprint : d.IsPrintable) :
    d.contents? .signature = none ∧ d.shownParagraphs r .signature = [] ∨
      ∃ t, d.contents? .signature = some (.text t) ∧ isSignature (oneLine [t]) = true ∧ oneLine [t] = t ∧
        d.shownParagraphs r .signature = [[t]] := by
  unfold shownParagraphs
  by_cases hs : .signature ∈ d.printedSections
  · right
    have hcontent := hread _ hs
    have hcan := hprint _ hs
    have hsome := contents?_of_mem hs
    rw [if_pos hs, sectionParagraphs, sectionBlock]
    cases hc : d.content .signature with
    | text t =>
      rw [hc] at hcontent hsome
      obtain ⟨-, -, hstrip, hsignature⟩ := hcontent
      have hline : oneLine [t] = t := by rw [oneLine_singleton, hstrip]
      refine ⟨t, hsome, hline.symm ▸ hsignature, hline, ?_⟩
      exact paragraphs_of_inked (List.cons_ne_nil t [])
        (List.forall_mem_singleton.mpr (Content.isBlank_of_isSignature hstrip hsignature))
    | lines ls | params ps | links ls | data v =>
      rw [hc] at hcan
      cases hcan
  · exact .inl ⟨contents?_of_not_printed hd (by decide) hs, if_neg hs⟩

/-- What shows of a summary is one paragraph. -/
theorem summary_paragraphs (r : Renewal) (hread : d.ContentsRead) (hs : .summary ∈ d.printedSections) :
    ∃ ls, d.contents? .summary = some (.lines ls) ∧ ls.map stripRight = ls ∧
      d.shownParagraphs r .summary = [ls] := by
  obtain ⟨ls, hc, hlines⟩ := exists_lines (hread _ hs) rfl (by decide)
  have hne := isEmpty_of_mem hs
  rw [hc] at hne
  refine ⟨ls, hc ▸ contents?_of_mem hs, ?_, ?_⟩
  · exact (List.map_congr_left (hlines.stripped rfl)).trans (List.map_id' ls)
  · have hls : ls ≠ [] := by simpa [Content.isEmpty] using hne
    rw [shownParagraphs, if_pos hs, sectionParagraphs, sectionBlock, hc]
    exact paragraphs_of_inked hls (hlines.inked rfl)

/-- What shows of an extended summary are its paragraphs. -/
theorem extendedSummary_paragraphs (r : Renewal) (hd : d.Sound) (hread : d.ContentsRead) :
    AreParagraphs (d.shownParagraphs r .extendedSummary) ∧
      (d.shownParagraphs r .extendedSummary).map (·.map stripRight) = d.shownParagraphs r .extendedSummary ∧
      d.contents? .extendedSummary = ofParagraphs? (d.shownParagraphs r .extendedSummary) := by
  unfold shownParagraphs
  by_cases hs : .extendedSummary ∈ d.printedSections
  · obtain ⟨ls, hc, hlines⟩ := exists_lines (hread _ hs) rfl (by decide)
    have hne := isEmpty_of_mem hs
    have hsome := contents?_of_mem hs
    rw [hc] at hne hsome
    have hparagraphs : d.sectionParagraphs r .extendedSummary = paragraphs ls := by
      rw [sectionParagraphs, sectionBlock, hc]
      rfl
    have hstripped : ls.map stripRight = ls :=
      (List.map_congr_left (hlines.stripped rfl)).trans (List.map_id' ls)
    -- Lines that were read are their paragraphs joined again.
    have hsqueeze : joinParagraphs (paragraphs ls) = ls := hlines.squeezed.squeeze_eq
    rw [if_pos hs, hparagraphs]
    refine ⟨areParagraphs_paragraphs ls, ?_, ?_⟩
    · rw [← paragraphs_map isBlank_stripRight, hstripped]
    · rw [hsome, ofParagraphs?, if_neg, hsqueeze]
      rw [List.isEmpty_iff]
      intro hnil
      rw [hnil] at hsqueeze
      rw [← hsqueeze] at hne
      cases hne
  · rw [if_neg hs]
    exact ⟨fun p hp => absurd hp List.not_mem_nil, rfl, contents?_of_not_printed hd (by decide) hs⟩

section Opening

variable {t : Text} {opening : List (Section × Content)}

theorem flatMap_untitledSections (h : Parts t d opening es) (hd : d.Sound) (hprint : d.IsPrintable)
    (r : Renewal) : d.untitledSections.flatMap (d.sectionParagraphs r) =
      d.shownParagraphs r .signature ++
        (d.shownParagraphs r .summary ++ d.shownParagraphs r .extendedSummary) := by
  unfold shownParagraphs
  rw [untitledSections_eq (h.untitled_sublist hd hprint)]
  by_cases hsignature : .signature ∈ d.printedSections <;> by_cases hsummary : .summary ∈ d.printedSections <;>
    by_cases hextended : .extendedSummary ∈ d.printedSections <;> simp [hsignature, hsummary, hextended]

theorem areParagraphs_untitled (d : Document) (r : Renewal) :
    AreParagraphs (d.untitledSections.flatMap (d.sectionParagraphs r)) := by
  intro p hp
  obtain ⟨s, -, hp⟩ := List.mem_flatMap.mp hp
  exact areParagraphs_paragraphs _ p hp

theorem not_isEmpty_titledSections (d : Document) :
    (!d.titledSections.isEmpty) = d.printedSections.any Section.hasTitle := by
  rw [← filter_hasTitle_printedSections, Bool.eq_iff_iff]
  simp

/-- A summary opens what is printed, below the signature if there is one. -/
theorem openedBy_of_summary_mem (h : Parts t d opening es) (hd : d.Sound) (hread : d.ContentsRead)
    (hprint : d.IsPrintable) (hs : .summary ∈ d.printedSections)
    (hunsigned : ∀ ls, d.contents? .summary = some (.lines ls) → isSignature (oneLine ls) = false)
    (headed : Bool) : d.OpenedBy headed (d.untitledSections.flatMap (d.sectionParagraphs r)) := by
  obtain ⟨ls, hsummary, hstripped, hlines⟩ := summary_paragraphs r hread hs
  obtain ⟨-, hkept, hextended⟩ := extendedSummary_paragraphs r hd hread
  have hls := hunsigned ls hsummary
  unfold OpenedBy
  rw [flatMap_untitledSections h hd hprint r, hlines, hsummary, hextended]
  generalize d.shownParagraphs r .extendedSummary = rest at hkept ⊢
  obtain ⟨hnone, hnil⟩ | ⟨t, hc, hsigned, hline, hparagraphs⟩ := signature_cases r hd hread hprint
  · have hopens : OpensAs headed _ _ _ _ := .summed ls rest hls
    rw [hstripped, hkept] at hopens
    rw [hnone, hnil]
    exact hopens
  · have hopens : OpensAs headed _ _ _ _ := .signedSummed [t] ls rest hsigned hls
    rw [hline, hstripped, hkept] at hopens
    rw [hc, hparagraphs]
    exact hopens

/-- **What is printed opens as what was read**, if the summary does not read as a signature and stands above
the extended summary. -/
theorem openedBy_untitled (h : Parts t d opening es) (hd : d.Sound) (hread : d.ContentsRead)
    (hprint : d.IsPrintable) (hne : d.printedSections ≠ [])
    (hunsigned : ∀ ls, d.contents? .summary = some (.lines ls) → isSignature (oneLine ls) = false)
    (hsummarised : .extendedSummary ∈ d.printedSections → .summary ∈ d.printedSections) :
    d.OpenedBy (!d.titledSections.isEmpty) (d.untitledSections.flatMap (d.sectionParagraphs r)) := by
  obtain ⟨first, hfirst⟩ := List.exists_mem_of_ne_nil _ hne
  have hparagraphs := flatMap_untitledSections h hd hprint r
  obtain ⟨hs, -⟩ | ⟨hnone, honly⟩ | ⟨hdefault, hnosummary, hnosignature⟩ := h.summary_cases hprint
  · exact openedBy_of_summary_mem h hd hread hprint hs hunsigned _
  · -- A signature stands alone.
    have hextended : .extendedSummary ∉ d.printedSections := fun hmem => by cases honly _ hmem
    have hsummary : .summary ∉ d.printedSections := fun hmem => by cases honly _ hmem
    have hheaded : (!d.titledSections.isEmpty) = false := by
      rw [not_isEmpty_titledSections, List.any_eq_false]
      intro s hs
      rw [honly s hs]
      decide
    obtain ⟨hunsigned, -⟩ | ⟨t, hc, hsigned, hline, hsignature⟩ := signature_cases r hd hread hprint
    · have hmem := honly first hfirst ▸ contents?_of_mem hfirst
      rw [hunsigned] at hmem
      cases hmem
    · have hopens := OpensAs.signed [t] hheaded hsigned
      rw [hline] at hopens
      rw [shownParagraphs_of_not_printed hsummary, shownParagraphs_of_not_printed hextended, hsignature]
        at hparagraphs
      unfold OpenedBy
      rw [hparagraphs, hc, hnone, contents?_of_not_printed hd (by decide) hextended]
      exact hopens
  · -- There is nothing before the first heading.
    have hextended : .extendedSummary ∉ d.printedSections := fun hmem => hnosummary (hsummarised hmem)
    have hheaded : (!d.titledSections.isEmpty) = true := by
      rw [not_isEmpty_titledSections, List.any_eq_true]
      refine ⟨first, hfirst, ?_⟩
      cases first with
      | signature => exact absurd hfirst hnosignature
      | summary => exact absurd hfirst hnosummary
      | extendedSummary => exact absurd hfirst hextended
      | _ => rfl
    rw [shownParagraphs_of_not_printed hnosignature, shownParagraphs_of_not_printed hnosummary,
      shownParagraphs_of_not_printed hextended] at hparagraphs
    unfold OpenedBy
    rw [hparagraphs, contents?_of_not_printed hd (by decide) hnosignature, hdefault,
      contents?_of_not_printed hd (by decide) hextended]
    exact .nothing hheaded

/-! ## What was read and is printed -/

theorem oneLine_map_stripRight (p : List Text) : oneLine (p.map stripRight) = oneLine p := by
  unfold oneLine
  rw [List.map_map]
  congr 2
  exact List.map_congr_left fun l _ => strip_stripRight l

/-- The paragraphs without a title are printed as they stand before the first heading, but for white space at
the ends of lines and a signature that is put on one line. -/
def ShowsFront (d : Document) (r : Renewal) (front : List (List Text)) : Prop :=
  d.untitledSections.flatMap (d.sectionParagraphs r) = front.map (·.map stripRight) ∨
    ∃ q rest, front = q :: rest ∧
      d.untitledSections.flatMap (d.sectionParagraphs r) = [oneLine q] :: rest.map (·.map stripRight)

/-- There is no white space at the end of a line of a section without a title. -/
theorem ShowsFront.stripRight_eq (h : d.ShowsFront r front) :
    ∀ ls ∈ d.untitledSections.flatMap (d.sectionParagraphs r), ∀ l ∈ ls, stripRight l = l := by
  have hstripped (ps : List (List Text)) : ∀ ls ∈ ps.map (·.map stripRight), ∀ l ∈ ls, stripRight l = l := by
    intro ls hls l hl
    obtain ⟨p, -, rfl⟩ := List.mem_map.mp hls
    obtain ⟨k, -, rfl⟩ := List.mem_map.mp hl
    exact List.rdropWhile_idempotent isSpace k
  obtain huntitled | ⟨q, rest, -, huntitled⟩ := h
  · rw [huntitled]
    exact hstripped front
  · rw [huntitled, List.forall_mem_cons, List.forall_mem_singleton]
    exact ⟨stripRight_of_strip (strip_strip _), hstripped rest⟩

theorem not_mem_printedSections (h : d.contents? s = none) : s ∉ d.printedSections := fun hs => by
  rw [contents?_of_mem hs] at h
  cases h

/-- A summary that was read is printed. -/
theorem summary_mem_printedSections {p : List Text} (h : Parts t d opening es) (hprint : d.IsPrintable)
    (hp : ∀ l ∈ p, isBlank l = false)
    (hsummary : d.contents? .summary = some (.lines (p.map stripRight))) : .summary ∈ d.printedSections := by
  rw [h.summary_mem_iff hprint, hsummary]
  refine ⟨Option.some_ne_none _, fun hdefault => ?_⟩
  exact map_stripRight_ne_default hp (Content.lines.inj (Option.some.inj hdefault))

theorem areParagraphs_map_stripRight {ps : List (List Text)} (h : AreParagraphs ps) :
    AreParagraphs (ps.map (·.map stripRight)) := by
  intro q hq
  obtain ⟨p, hp, rfl⟩ := List.mem_map.mp hq
  refine ⟨fun hnil => (h p hp).1 (List.map_eq_nil_iff.mp hnil), fun k hk => ?_⟩
  obtain ⟨l, hl, rfl⟩ := List.mem_map.mp hk
  exact (isBlank_stripRight l).trans ((h p hp).2 l hl)

theorem shownParagraphs_signature (hd : d.Sound) (hread : d.ContentsRead) (hprint : d.IsPrintable) {u : Text}
    (hc : d.contents? .signature = some (.text u)) : d.shownParagraphs r .signature = [[u]] := by
  obtain ⟨hnone, -⟩ | ⟨u', hc', -, -, hparagraphs⟩ := signature_cases r hd hread hprint
  · rw [hc] at hnone
    cases hnone
  · rw [hc, Option.some.injEq, Content.text.injEq] at hc'
    rw [hparagraphs, hc']

theorem shownParagraphs_summary (hread : d.ContentsRead) (hs : .summary ∈ d.printedSections) {ls : List Text}
    (hc : d.contents? .summary = some (.lines ls)) : d.shownParagraphs r .summary = [ls] := by
  obtain ⟨ls', hc', -, hparagraphs⟩ := summary_paragraphs r hread hs
  rw [hc, Option.some.injEq, Content.lines.injEq] at hc'
  rw [hparagraphs, hc']

theorem shownParagraphs_extendedSummary (hd : d.Sound) (hread : d.ContentsRead) {ps : List (List Text)}
    (hps : AreParagraphs ps) (hc : d.contents? .extendedSummary = ofParagraphs? (ps.map (·.map stripRight))) :
    d.shownParagraphs r .extendedSummary = ps.map (·.map stripRight) := by
  obtain ⟨hparagraphs, -, hc'⟩ := extendedSummary_paragraphs r hd hread
  exact ofParagraphs?_injective hparagraphs (areParagraphs_map_stripRight hps) (hc'.symm.trans hc)

namespace OpenedBy

/-- What was read as a summary does not read as a signature. -/
theorem unsigned (h : d.OpenedBy headed front) {ls : List Text}
    (hls : d.contents? .summary = some (.lines ls)) : isSignature (oneLine ls) = false := by
  unfold OpenedBy at h
  rw [hls] at h
  generalize d.contents? .signature = signature at h
  generalize d.contents? .extendedSummary = extended at h
  cases h with
  | nothing => decide
  | summed p rest hp | signedSummed q p rest hq hp => rw [oneLine_map_stripRight, hp]

theorem summarised (h : d.OpenedBy headed front) (hfront : AreParagraphs front)
    (hparts : Parts t d opening es) (hprint : d.IsPrintable) (hs : .extendedSummary ∈ d.printedSections) :
    .summary ∈ d.printedSections := by
  unfold OpenedBy at h
  generalize hsummary : d.contents? .summary = summary at h
  generalize d.contents? .signature = signature at h
  generalize hextended : d.contents? .extendedSummary = extended at h
  cases h with
  | nothing | empty | signed => exact absurd hs (not_mem_printedSections hextended)
  | summed p rest => exact summary_mem_printedSections hparts hprint (hfront p (by simp)).2 hsummary
  | signedSummed q p rest => exact summary_mem_printedSections hparts hprint (hfront p (by simp)).2 hsummary

/-- **The paragraphs without a title that are printed** are those that were read. -/
theorem showsFront (h : d.OpenedBy headed front) (hfront : AreParagraphs front) (hparts : Parts t d opening es)
    (hd : d.Sound) (hread : d.ContentsRead) (hprint : d.IsPrintable) : d.ShowsFront r front := by
  have hnone {s : Section} (hc : d.contents? s = none) : d.shownParagraphs r s = [] :=
    shownParagraphs_of_not_printed (not_mem_printedSections hc)
  unfold ShowsFront
  rw [flatMap_untitledSections hparts hd hprint r]
  -- The relation can be taken apart only where the contents are variables.
  unfold OpenedBy at h
  generalize hsig : d.contents? .signature = signature at h
  generalize hsum : d.contents? .summary = summary at h
  generalize hext : d.contents? .extendedSummary = extended at h
  cases h with
  | nothing =>
    have hsummary : .summary ∉ d.printedSections := by
      rw [hparts.summary_mem_iff hprint]
      exact fun hs => hs.2 hsum
    rw [hnone hsig, shownParagraphs_of_not_printed hsummary, hnone hext]
    exact .inl rfl
  | empty =>
    rw [hnone hsig, hnone hsum, hnone hext]
    exact .inl rfl
  | signed q =>
    rw [shownParagraphs_signature hd hread hprint hsig, hnone hsum, hnone hext]
    exact .inr ⟨q, [], rfl, rfl⟩
  | summed p rest =>
    obtain ⟨hp, hrest⟩ := List.forall_mem_cons.mp hfront
    rw [hnone hsig, shownParagraphs_summary hread (summary_mem_printedSections hparts hprint hp.2 hsum) hsum,
      shownParagraphs_extendedSummary hd hread hrest hext]
    exact .inl rfl
  | signedSummed q p rest =>
    obtain ⟨hp, hrest⟩ := List.forall_mem_cons.mp (List.forall_mem_cons.mp hfront).2
    rw [shownParagraphs_signature hd hread hprint hsig,
      shownParagraphs_summary hread (summary_mem_printedSections hparts hprint hp.2 hsum) hsum,
      shownParagraphs_extendedSummary hd hread hrest hext]
    exact .inr ⟨q, p :: rest, rfl, rfl⟩

end OpenedBy
end Opening
end Document
end DocTidy
