import DocTidy.Proofs.Fixer.Convergence
import DocTidy.Proofs.Renewal.Faithful

/-!
# Renewing a renewed docstring

A renewed docstring that is renewed again should stay as it is.  Where the new document reads back, the
second run starts from the contents that the first one printed; if its parameters are settled as well,
the same lines are printed again.  What is left is the frame: it gains a gap if the lines end with a
blank one, and a text of one line is passed over.
-/

namespace DocTidy

open Text

/-! ## The parameters -/

namespace Renewal

open Document Fixer

variable {r : Renewal} {subject : Subject} {level : Nat} {docstring t : Text} {new : Renewed}
  {d d' old fixed : Document} {texts : List Text} {hasPlaceholder mismatch : Bool}

/-- Fixed parameters stay as they are, in whatever document they stand. -/
theorem fixParams_again (hfixers : r.settings.runFixers = true) (hsig : PlainSignature subject.signature)
    (hd : d.Sound) (hnames : (documented d.params).Nodup) (hnil : [] ∉ documented d.params)
    (h : (r.fixParams subject d).result = .ok (fixed, hasPlaceholder, mismatch))
    (hd' : d'.Sound) (hparams : d'.params = fixed.params) :
    ∃ again hasPlaceholder mismatch,
      (r.fixParams subject d').result = .ok (again, hasPlaceholder, mismatch) ∧ again.params = d'.params := by
  by_cases hempty : d'.params = []
  · exact ⟨d', false, false, fixParams_of_nil hd'.knowsParams hempty, rfl⟩
  · by_cases hnone : d.params = []
    · -- Where there is nothing to fix, nothing is added.
      rw [fixParams_of_nil hd.knowsParams hnone, Except.ok.injEq] at h
      rw [hparams, ← congrArg (·.1.params) h, hnone] at hempty
      exact absurd rfl hempty
    · rw [fixParams_of_ne_nil hd.knowsParams hnone] at h
      cases hverdict : (fix r.settings (subject.file ++ ":" ++ subject.function) subject.signature.names
          subject.signature d.params).result with
      | error e =>
        rw [hverdict] at h
        cases h
      | ok verdict =>
        rw [hverdict, Except.bind] at h
        obtain ⟨hasPlaceholder', mismatch', hagain⟩ := fix_again hsig hfixers hnames hnil hverdict
        have hfixed : fixed.params = verdict.params := by
          split at h
          · cases h
          · rw [← congrArg (·.1.params) (Except.ok.inj h)]
            exact params_store hd _
        rw [fixParams_of_ne_nil hd'.knowsParams hempty, hparams, hfixed, hagain]
        exact ⟨_, _, _, rfl, params_store hd' _⟩

theorem divided_eq_self {p : Param} (h : p.holdsType = false) : p.divided = p := by
  unfold Param.divided
  rw [h]
  rfl

/-- **A document that was fixed is fixed to itself**: what is read anew with its parameters keeps them. -/
theorem fixed_again (hformat : r.format? = none) (hfixers : r.settings.runFixers = true)
    (hsig : PlainSignature subject.signature)
    (hread : (Document.read none (dedentDocstring docstring)).result = .ok old)
    (hnames : (documented (old.params.map Param.divided)).Nodup)
    (hnil : [] ∉ documented (old.params.map Param.divided))
    (hfixed : (r.fixed subject docstring).result = .ok (fixed, hasPlaceholder, mismatch))
    (hdivided : ∀ p ∈ fixed.params, p.holdsType = false)
    (hread' : (Document.read none (dedentDocstring t)).result = .ok d) (hparams : d.params = fixed.params) :
    ∃ again hasPlaceholder mismatch, (r.fixed subject t).result = .ok (again, hasPlaceholder, mismatch) ∧
      d.Refits again ∧ again.params = d.params := by
  have hold := sound_read hread
  have hd := sound_read hread'
  rw [result_fixed subject hformat hfixers hread] at hfixed
  rw [result_fixed subject hformat hfixers hread']
  cases hnormalized : old.normalized.result with
  | error e =>
    rw [hnormalized] at hfixed
    cases hfixed
  | ok d₁ =>
    -- The first run sees the names divided, and the second one finds none to divide.
    obtain ⟨d₁', hnormalized', hparams₁⟩ := normalized_of_divisible hold (divisible_of_normalized hold hnormalized)
    obtain rfl : d₁ = d₁' := Except.ok.inj (hnormalized.symm.trans hnormalized')
    have hdivisible : ∀ p ∈ d.params, p.isDivisible = true := by
      intro p hp
      unfold Param.isDivisible
      rw [hdivided p (hparams ▸ hp)]
      rfl
    obtain ⟨d₂, hsecond, hparams₂⟩ := normalized_of_divisible hd hdivisible
    have hself : d.params.map Param.divided = d.params := by
      refine (List.map_congr_left fun p hp => ?_).trans (List.map_id' _)
      exact divided_eq_self (hdivided p (hparams ▸ hp))
    rw [hself] at hparams₂
    have hrefits := refits_normalized hd hsecond
    rw [hnormalized, Except.bind] at hfixed
    rw [← hparams₁] at hnames hnil
    obtain ⟨again, hasPlaceholder', mismatch', hagain, hkept⟩ := fixParams_again hfixers hsig
      (refits_normalized hold hnormalized).sound hnames hnil hfixed hrefits.sound (hparams₂.trans hparams)
    rw [hsecond]
    exact ⟨again, hasPlaceholder', mismatch', hagain, hrefits.trans (refits_fixParams hrefits.sound hagain),
      hkept.trans hparams₂⟩

end Renewal

/-! ## The lines -/

namespace Document

variable {d d' : Document} {t t' : Text} {opening opening' es es' : List (Section × Content)} {s : Section}

theorem mem_printedSections_iff (hd : d.Sound) (hs : s ≠ .summary) :
    s ∈ d.printedSections ↔ d.contents? s ≠ none := by
  constructor
  · exact fun hmem hnone => not_mem_printedSections hnone hmem
  · intro hsome
    by_contra hnot
    exact hsome (contents?_of_not_printed hd hs hnot)

/-- Sections with contents that were recorded are printed. -/
theorem printedAmong_eq_map (h : ∀ e ∈ es, e.1 ≠ .index ∧ (d.contents? e.1).isSome = true) :
    d.printedAmong (es.map (·.1.recordName)) = es.map (·.1) := by
  induction es with
  | nil => rfl
  | cons e es ih =>
    obtain ⟨⟨hindex, hsome⟩, hrest⟩ := List.forall_mem_cons.mp h
    rw [List.map_cons, List.map_cons, recordName_eq_title hindex, printedAmong_cons, if_pos hsome, ih hrest]
    rfl

/-- Documents with the same contents have the same sections without a title. -/
theorem untitledSections_congr (h : Parts t d opening es) (h' : Parts t' d' opening' es') (hd : d.Sound)
    (hd' : d'.Sound) (hprint : d.IsPrintable) (hprint' : d'.IsPrintable)
    (hsame : ∀ s, d.contents? s = d'.contents? s) : d.untitledSections = d'.untitledSections := by
  rw [untitledSections_eq (h.untitled_sublist hd hprint), untitledSections_eq (h'.untitled_sublist hd' hprint')]
  refine List.filter_congr fun s _ => decide_eq_decide.mpr ?_
  by_cases hs : s = .summary
  · rw [hs, h.summary_mem_iff hprint, h'.summary_mem_iff hprint', hsame]
  · rw [mem_printedSections_iff hd hs, mem_printedSections_iff hd' hs, hsame]

/-- What can be printed of a document can be printed of another with the same contents. -/
theorem isPrintable_congr (hd : d.Sound) (hprint : d.IsPrintable) (hsame : ∀ s, d'.contents? s = d.contents? s) :
    d'.IsPrintable := by
  intro s hs
  have hsome := hsame s ▸ contents?_of_mem hs
  by_cases hsummary : s = .summary
  · subst hsummary
    have hfits := hd.fits _ _ hsome
    cases hc : d'.content .summary with
    | lines ls => rfl
    | text t | links ls | data v =>
      rw [hc] at hfits
      cases hfits
    | params ps =>
      rw [hc] at hfits
      obtain ⟨_, hlayout⟩ := hfits
      cases hlayout
  · have hmem : s ∈ d.printedSections :=
      (mem_printedSections_iff hd hsummary).mpr (by rw [hsome]; exact Option.some_ne_none _)
    rw [contents?_of_mem hmem, Option.some.injEq] at hsome
    exact hsome ▸ hprint s hmem

end Document

namespace Renewal

open Document Fixer

variable {r : Renewal} {subject : Subject} {level : Nat} {docstring t : Text} {new : Renewed}
  {d d' old fixed : Document} {texts : List Text} {hasPlaceholder mismatch : Bool}
  {opening es : List (Section × Content)}

/-- The sections that are printed of a document that was read back. -/
theorem Origin.printedSections_again (h : Origin r level docstring new old texts)
    (hfirst : new.document.printedSections.Pairwise fun s s' => s.hasTitle = true → s'.hasTitle = true)
    (hparts : Parts (dedentDocstring new.text) d opening es) (hd : d.Sound)
    (hsections : es.map (·.1) = new.document.titledSections)
    (hsame : ∀ s, d.contents? s = new.document.contents? s) :
    d.printedSections = new.document.printedSections := by
  obtain ⟨_, _, hparts'⟩ := h.exists_parts
  have hprint := isPrintable_congr h.refits.sound h.isPrintable hsame
  have huntitled := untitledSections_congr hparts hparts' hd h.refits.sound hprint h.isPrintable hsame
  have hprinted : d.printedSections = d.printedAmong (opening.map (·.1.recordName)) ++
      new.document.titledSections := by
    have hes : d.printedAmong (es.map (·.1.recordName)) = es.map (·.1) := printedAmong_eq_map fun e he => by
      have hmem : e.1 ∈ new.document.titledSections := hsections ▸ List.mem_map_of_mem he
      exact ⟨(h.printable hmem).2, hsame e.1 ▸ (mem_titledSections.mp hmem).2.2⟩
    rw [hparts.printedSections_eq, hes, hsections]
  have hopening : ∀ s ∈ d.printedAmong (opening.map (·.1.recordName)), s.hasTitle = false := by
    intro s hs
    obtain ⟨e, he, rfl⟩ := List.mem_map.mp ((d.printedAmong_sublist opening).subset hs)
    exact hparts.opens.hasTitle_eq_false he
  have htitles : ∀ s ∈ new.document.titledSections, s.hasTitle = true := fun s hs =>
    (mem_titledSections.mp hs).2.1
  -- So the sections without a title are those of the opening.
  have hall : d.untitledSections = d.printedAmong (opening.map (·.1.recordName)) := by
    have hfirst : (d.printedAmong (opening.map (·.1.recordName))).filter (fun s => !s.hasTitle) =
        d.printedAmong (opening.map (·.1.recordName)) :=
      List.filter_eq_self.mpr fun s hs => by rw [hopening s hs]; rfl
    have hrest : new.document.titledSections.filter (fun s => !s.hasTitle) = [] :=
      List.filter_eq_nil_iff.mpr fun s hs => by rw [htitles s hs]; decide
    rw [untitledSections, hprinted, List.filter_append, hfirst, hrest, List.append_nil]
  rw [hprinted, ← hall, huntitled]
  exact (printedSections_of_pairwise hfirst).symm

/-- Every section of a document that was read back can be printed. -/
theorem Origin.printable_again (h : Origin r level docstring new old texts)
    (hparts : Parts (dedentDocstring new.text) d opening es)
    (hsections : es.map (·.1) = new.document.titledSections)
    (hsame : ∀ s, d.contents? s = new.document.contents? s) : ∀ name ∈ d.order, d.Printable name := by
  intro name hname
  have hrecorded := hname
  rw [hparts.order, ← List.map_append] at hname
  obtain ⟨⟨s, c⟩, he, rfl⟩ := List.mem_map.mp hname
  have hindex : s ≠ .index := by
    obtain he | he := List.mem_append.mp he
    · exact hparts.opens.ne_index he
    · exact (h.printable (hsections ▸ List.mem_map_of_mem (f := (·.1)) he)).2
  refine ⟨s, recordName_eq_title hindex, fun c hc => ?_⟩
  have hmem : s ∈ d.printedSections :=
    mem_printedAmong.mpr ⟨recordName_eq_title hindex ▸ hrecorded, by rw [hc]; rfl⟩
  rw [← (contents?_eq_some_iff.mp hc).2]
  exact isPrintable_congr h.refits.sound h.isPrintable hsame s hmem

/-- Where the same sections are printed with the same contents, the lines are the same. -/
theorem printedLines_congr (r : Renewal) (hsections : d.printedSections = d'.printedSections)
    (hcontent : ∀ s ∈ d.printedSections, d.content s = d'.content s) : d.printedLines r = d'.printedLines r := by
  unfold printedLines
  rw [← hsections]
  refine congrArg joinParagraphs (List.map_congr_left fun s hs => ?_)
  rw [sectionBlock, sectionBlock, hcontent s hs]

theorem printDocument_eq (hd : d.IsComplete) (hread : d.ContentsRead) (hprint : ∀ name ∈ d.order, d.Printable name) :
    (r.printDocument d).result = .ok (ended (d.printedLines r)) := by
  obtain ⟨body, hbody⟩ := (printDocument_succeeds_iff (r := r) hd).mpr hprint
  obtain ⟨texts, htexts, hjoined⟩ := Run.result_bind_eq_ok.mp hbody
  rw [← Prints.intercalate_eq hd hread (Run.mapM_eq_ok.mp htexts), hbody]
  exact hjoined.symm

/-- **What is printed for the new text** is what it was printed from. -/
theorem Origin.body_again (h : Origin r level docstring new old texts) (hformat : r.format? = none)
    (hfixers : r.settings.runFixers = true) (hsig : PlainSignature subject.signature)
    (hplain : docstring.IsPlain) (hblank : isBlank new.text = false)
    (hfaithful : new.document.IsFaithful r (Frame.ofDocstring docstring))
    (hnames : (documented (old.params.map Param.divided)).Nodup)
    (hnil : [] ∉ documented (old.params.map Param.divided))
    (hdivided : ∀ p ∈ new.document.params, p.holdsType = false)
    (hfixed : (r.fixed subject docstring).result = .ok (new.document, hasPlaceholder, mismatch)) :
    (r.body subject new.text).result = .ok (ended (new.document.printedLines r)) := by
  obtain ⟨d, hread, hsame⟩ := h.reads (h.rereads_of_isFaithful hplain hblank hfaithful)
  have hsound := h.refits.sound
  have hd := sound_read hread
  have hparams := params_eq_of_contents? hd hsound (hsame .parameters)
  obtain ⟨again, hasPlaceholder', mismatch', hagain, hrefits, hkept⟩ := fixed_again hformat hfixers hsig h.read
    hnames hnil hfixed hdivided hread hparams
  -- The parameters are settled, and the other sections are as they were read.
  have hsame' : ∀ s, again.contents? s = new.document.contents? s := by
    intro s
    by_cases hs : s = .parameters
    · rw [hs, contents?_parameters hrefits.sound, contents?_parameters hsound, hkept, hparams]
    · rw [← hsame s]
      exact contents?_congr (hrefits.kept s hs)
  obtain ⟨opening, es, hparts⟩ := Document.exists_parts hread
  -- The titles that are read are the headings of the text, and these are the titles that were printed.
  have hheadings := h.headings_eq hread hsame (h.not_isReadTwice hread hsame)
  rw [← headings_dedentDocstring, ← map_headLines_headedParagraphs] at hheadings
  have hsections := map_fst_of_reads hheadings hparts.entries.reads
  have hparts' := hparts.refits hrefits
  have hprinted := h.printedSections_again hfaithful.untitled_first hparts' hrefits.sound hsections hsame'
  have hcontent : ∀ s ∈ again.printedSections, again.content s = new.document.content s := by
    intro s hs
    have hsome := (contents?_of_mem hs).symm.trans (hsame' s)
    rw [contents?_of_mem (hprinted ▸ hs)] at hsome
    exact Option.some.inj hsome
  have hread' : again.ContentsRead := fun s hs =>
    hcontent s hs ▸ h.contentsRead hplain hfaithful.params s (hprinted ▸ hs)
  have hprintable := h.printable_again hparts' hsections hsame'
  refine body_eq_ok_iff.mpr ⟨again, hasPlaceholder', mismatch', hagain, ?_⟩
  rw [printDocument_eq hrefits.sound.isComplete hread' hprintable, printedLines_congr r hprinted hcontent]

end Renewal

/-! ## The frame -/

namespace Content

variable {s : Section} {c : Content} {settings : Settings} {anyWidth : Bool}

/-- There is one parameter, and it says nothing. -/
def IsNameless (c : Content) : Prop := c = .params [⟨[], [], []⟩]

instance (c : Content) : Decidable c.IsNameless :=
  match c with
  | params ps => decidable_of_iff (ps = [⟨[], [], []⟩]) (by rw [IsNameless, params.injEq])
  | text _ | lines _ | links _ | data _ => .isFalse nofun

theorem exists_getLast? {α : Type} {l : List α} (h : l ≠ []) : ∃ a, l.getLast? = some a :=
  ⟨_, List.getLast?_eq_some_getLast h⟩

/-- Only a parameter that says nothing leaves a blank line at the end of its section. -/
theorem IsRead.getLast?_block (settings : Settings) (anyWidth : Bool) (hc : c.IsRead s)
    (hne : c.isEmpty = false) :
    ∃ l, (c.block settings anyWidth s).getLast? = some l ∧
      (isBlank l = true ↔ c.IsNameless) := by
  have hlast : ∀ {l}, (c.printedLines settings anyWidth s).getLast? = some l →
      (c.block settings anyWidth s).getLast? = some l := by
    intro l hl
    rw [block, List.getLast?_append, List.getLast?_append, hl]
    rfl
  have hinked : ∀ {l}, (c.printedLines settings anyWidth s).getLast? = some l → isBlank l = false →
      ¬ c.IsNameless → ∃ l, (c.block settings anyWidth s).getLast? = some l ∧
        (isBlank l = true ↔ c.IsNameless) := by
    intro l hl hblank hc
    exact ⟨l, hlast hl, iff_of_false (by rw [hblank]; exact Bool.false_ne_true) hc⟩
  cases c with
  | text t => exact hinked rfl (isBlank_of_isSignature hc.2.2.1 hc.2.2.2) fun h => by cases h
  | lines ls =>
    obtain ⟨l, hl⟩ := exists_getLast? (by simpa [isEmpty] using hne : ls ≠ [])
    exact hinked hl (hc.2.squeezed.trimmed.2 l hl) fun h => by cases h
  | params ps =>
    obtain ⟨soleType, -, rfl | hps⟩ := hc
    · exact ⟨[], hlast (by rw [printedLines, Param.listLines_nameless]; rfl), iff_of_true rfl rfl⟩
    · have hps' : ps ≠ [] := by simpa [isEmpty] using hne
      obtain ⟨l, hl⟩ := exists_getLast? (Param.listLines_ne_nil (Printer.isCompact settings s ps) hps')
      refine hinked hl ((Param.isSqueezed_listLines _ hps).trimmed.2 l hl) fun heq => ?_
      rw [Content.params.inj heq] at hps
      exact (hps _ List.mem_cons_self).1.headLine_ne_nil rfl
  | links ls =>
    obtain ⟨k, ks, rfl⟩ := List.exists_cons_of_ne_nil (by simpa [isEmpty] using hne : ls ≠ [])
    obtain ⟨rest, below, hlines, -⟩ :=
      (hc.2 k List.mem_cons_self).1.exists_laidOut (decide (Link.IsInline anyWidth (k :: ks)))
    have hlines' : (links (k :: ks)).printedLines settings anyWidth s ≠ [] := by
      rw [printedLines, List.flatMap_cons, hlines]
      exact List.cons_ne_nil _ _
    obtain ⟨l, hl⟩ := exists_getLast? hlines'
    obtain ⟨link, hlink, hmem⟩ := List.mem_flatMap.mp (List.mem_of_getLast? hl)
    exact hinked hl ((hc.2 link hlink).1.of_mem_laidOut hmem).1 fun h => by cases h
  | data v => exact hc.elim

end Content

namespace Document

variable {d : Document} {r : Renewal}

/-- The section that is printed last has one parameter, which says nothing. -/
def EndsNameless (d : Document) : Prop :=
  ∃ s ∈ d.printedSections.getLast?, (d.content s).IsNameless

instance (d : Document) : Decidable d.EndsNameless :=
  inferInstanceAs (Decidable (∃ s ∈ d.printedSections.getLast?, (d.content s).IsNameless))

theorem isBlank_last_iff (hread : d.ContentsRead) (hne : d.printedSections ≠ []) :
    isBlank ((d.printedLines r).getLast?.getD []) = false ↔ ¬ d.EndsNameless := by
  obtain ⟨s, hs⟩ := Content.exists_getLast? hne
  obtain ⟨init, hinit⟩ := List.getLast?_eq_some_iff.mp hs
  have hmem : s ∈ d.printedSections := List.mem_of_getLast? hs
  obtain ⟨l, hl, hblank⟩ :=
    (hread s hmem).getLast?_block r.settings r.anyWidth (isEmpty_of_mem hmem)
  have hlines : (d.printedLines r).getLast? = some l := by
    rw [printedLines, hinit, List.map_append, List.map_singleton]
    cases init with
    | nil => exact (congrArg List.getLast? (joinParagraphs_singleton _)).trans hl
    | cons s' init =>
      rw [List.map_cons, joinParagraphs, intercalate_append (List.cons_ne_nil _ _) (List.cons_ne_nil _ _),
        List.intercalate_singleton, List.getLast?_append, sectionBlock, hl]
      rfl
  rw [hlines, Option.getD_some, ← Bool.not_eq_true, hblank, not_iff_not]
  constructor
  · exact fun hc => ⟨s, hs, hc⟩
  · rintro ⟨s', hs', hc⟩
    rw [hs, Option.mem_some_iff] at hs'
    exact hs' ▸ hc

end Document

namespace Renewal

open Document Fixer

variable {r : Renewal} {subject : Subject} {level : Nat} {docstring : Text} {new : Renewed} {old : Document}

theorem exists_fixed (hnew : (r.renew subject level docstring).result = .ok new) (hne : new.text ≠ []) :
    ∃ hasPlaceholder mismatch,
      (r.fixed subject docstring).result = .ok (new.document, hasPlaceholder, mismatch) := by
  have hlong : IsLong docstring :=
    Decidable.of_not_not fun hshort => hne (text_eq_nil_of_not_isLong hshort hnew)
  obtain ⟨d, hasPlaceholder, mismatch, body, hfixed, -, -, rfl⟩ := (renew_eq_ok_iff hlong).mp hnew
  exact ⟨hasPlaceholder, mismatch, hfixed⟩

/-- A function with one parameter. -/
def scaling : Subject := ⟨"m.py", "f", ⟨[⟨"x", .absent⟩], none, none⟩⟩

/-- A title is abbreviated, and the type of the parameter stands next to its name. -/
def abbreviated : Text :=
  "\n A\n\n Note\n ----\n n\n\n Parameters\n ----------\n x: int\n   d\n "

end Renewal
end DocTidy
