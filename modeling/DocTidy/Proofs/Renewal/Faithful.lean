import DocTidy.Proofs.Renewal.Untitled

/-!
# Documents that read back

A renewed docstring should read as the document that it was printed from.  Whether it does can be told
from that document (`Document.IsFaithful`): each kind of contents has a law of its own, the sections
without a title have to stand first, and the frame must show the lines as they are.
-/

namespace DocTidy

open Text

namespace Document

variable {d : Document} {r : Renewal} {f : Frame} {s : Section}

/-- The document can be read back from what is printed of it in a frame. -/
structure IsFaithful (r : Renewal) (f : Frame) (d : Document) : Prop where
  params : Param.AreRead false d.params
  links : ∀ s ∈ d.printedSections, (d.content s).LinksKept r.anyWidth
  unsigned : ∀ ls, d.contents? .summary = some (.lines ls) → isSignature (oneLine ls) = false
  untitled_first : d.printedSections.Pairwise fun s s' => s.hasTitle = true → s'.hasTitle = true
  summarised : .extendedSummary ∈ d.printedSections → .summary ∈ d.printedSections
  headings : ∀ s ∈ d.printedSections, d.Unheaded r s
  shown : f.Shows (d.printedLines r)

/-- The summary is not one line that reads as a signature. -/
instance (d : Document) :
    Decidable (∀ ls, d.contents? .summary = some (.lines ls) → isSignature (oneLine ls) = false) :=
  match d.contents? .summary with
  | some (.lines ls) => decidable_of_iff (isSignature (oneLine ls) = false)
      ⟨fun h _ hls => Content.lines.inj (Option.some.inj hls) ▸ h, fun h => h ls rfl⟩
  | none | some (.text _) | some (.params _) | some (.links _) | some (.data _) => .isTrue nofun

instance (r : Renewal) (f : Frame) (d : Document) : Decidable (d.IsFaithful r f) :=
  decidable_of_iff (Param.AreRead false d.params ∧
      (∀ s ∈ d.printedSections, (d.content s).LinksKept r.anyWidth) ∧
      (∀ ls, d.contents? .summary = some (.lines ls) → isSignature (oneLine ls) = false) ∧
      (d.printedSections.Pairwise fun s s' => s.hasTitle = true → s'.hasTitle = true) ∧
      (.extendedSummary ∈ d.printedSections → .summary ∈ d.printedSections) ∧
      (∀ s ∈ d.printedSections, d.Unheaded r s) ∧ f.Shows (d.printedLines r))
    ⟨fun ⟨h₁, h₂, h₃, h₄, h₅, h₆, h₇⟩ => ⟨h₁, h₂, h₃, h₄, h₅, h₆, h₇⟩,
      fun h => ⟨h.params, h.links, h.unsigned, h.untitled_first, h.summarised, h.headings, h.shown⟩⟩

end Document

/-! ## Printing and reading -/

namespace Renewal

open Document

variable {r : Renewal} {subject : Subject} {level : Nat} {docstring : Text} {new : Renewed}
  {d old : Document} {texts : List Text}

theorem Origin.isPrintable (h : Origin r level docstring new old texts) : new.document.IsPrintable := by
  intro s hs
  obtain ⟨t, -, ht⟩ := exists_of_mem_forall₂ h.prints.flip (mem_printedAmong.mp hs).1
  have hprinted := printSection_of_contents h.refits.sound.isComplete (contents?_of_mem hs) ht
  exact (Printer.printSection_succeeds_iff r.settings r.anyWidth s _).mp ⟨t, hprinted⟩

theorem Origin.exists_parts (h : Origin r level docstring new old texts) :
    ∃ opening es, Parts (dedentDocstring docstring) new.document opening es := by
  obtain ⟨opening, es, hparts⟩ := Document.exists_parts h.read
  exact ⟨opening, es, hparts.refits h.refits⟩

/-- Contents that were read and not changed are as reading leaves them. -/
theorem Origin.contentsRead (h : Origin r level docstring new old texts) (hplain : docstring.IsPlain)
    (hparams : Param.AreRead false new.document.params) : new.document.ContentsRead := by
  intro s hs
  -- Fixing changes the parameters only.
  by_cases hs' : s = .parameters
  · subst hs'
    obtain hcontent | ⟨-, hempty⟩ := params_cases h.refits.sound
    · rw [hcontent]
      exact ⟨false, rfl, hparams⟩
    · rw [isEmpty_of_mem hs] at hempty
      cases hempty
  · have hcan := h.isPrintable s hs
    rw [h.refits.kept s hs'] at hcan ⊢
    exact isRead_of_read hplain h.read (h.refits.order ▸ (mem_printedAmong.mp hs).1) hcan

theorem Origin.isPlain (h : Origin r level docstring new old texts) (hread : new.document.ContentsRead) :
    new.text.IsPlain := by
  rw [h.text_eq hread]
  exact (isPlain_ended fun l hl => (hread.of_mem_printedLines hl).1).fill _ level

theorem Origin.printedSections_ne_nil (h : Origin r level docstring new old texts)
    (hread : new.document.ContentsRead) (hblank : isBlank new.text = false) :
    new.document.printedSections ≠ [] := by
  intro hnil
  rw [h.text_eq hread, printedLines, hnil] at hblank
  cases Frame.isBlank_of_fill hblank

/-- **What is read of the new text** where its lines show as they are: the paragraphs of the sections without
a title, and then one group of paragraphs for each title. -/
theorem Origin.headedParagraphs_eq (h : Origin r level docstring new old texts)
    (hread : new.document.ContentsRead) (hblank : isBlank new.text = false)
    (hfirst : new.document.printedSections.Pairwise fun s s' => s.hasTitle = true → s'.hasTitle = true)
    (hheadings : ∀ s ∈ new.document.printedSections, new.document.Unheaded r s)
    (hshown : (Frame.ofDocstring docstring).Shows (new.document.printedLines r)) :
    headedParagraphs (dedentDocstring new.text) =
      (new.document.untitledSections.flatMap (new.document.sectionParagraphs r),
        new.document.titledSections.map (new.document.sectionGroup r)) := by
  obtain ⟨l, ls, hlines, hl⟩ := hread.exists_printedLines (r := r) (h.printedSections_ne_nil hread hblank)
  have hall : ∀ k ∈ l :: ls, OnlySpaces k ∧ (isBlank k = true → k = []) := fun k hk =>
    hread.of_mem_printedLines (hlines ▸ hk)
  have hparagraphs : readParagraphs new.text =
      new.document.printedSections.flatMap (new.document.sectionParagraphs r) := by
    rw [h.text_eq hread, ← paragraphs_printedLines]
    rw [hlines] at hshown ⊢
    exact hshown.readParagraphs_fill level hl (fun k hk => (hall k hk).2) fun k hk => (hall k hk).1
  change headedRuns isHeading (readParagraphs new.text) = _
  have huntitled : ∀ s ∈ new.document.untitledSections, s.hasTitle = false := fun s hs =>
    (mem_untitledSections.mp hs).2
  have htitled : ∀ s ∈ new.document.titledSections, s.hasTitle = true := fun s hs =>
    (mem_titledSections.mp hs).2.1
  -- No heading stands before the first title, and each title begins a group.
  rw [printedSections_of_pairwise hfirst, List.forall_mem_append] at hheadings
  rw [hparagraphs, printedSections_of_pairwise hfirst, List.flatMap_append,
    headedRuns_append (not_isHeading_untitled huntitled hheadings.1),
    headedRuns_titled htitled hheadings.2, List.append_nil]

/-- **A faithful document reads back.** -/
theorem Origin.rereads_of_isFaithful (h : Origin r level docstring new old texts) (hplain : docstring.IsPlain)
    (hblank : isBlank new.text = false)
    (hfaithful : new.document.IsFaithful r (Frame.ofDocstring docstring)) : Rereads new := by
  have hread := h.contentsRead hplain hfaithful.params
  obtain ⟨opening, es, hparts⟩ := h.exists_parts
  have hopened := openedBy_untitled (r := r) hparts h.refits.sound hread h.isPrintable
    (h.printedSections_ne_nil hread hblank) hfaithful.unsigned hfaithful.summarised
  obtain ⟨-, es', hopens, hsame⟩ := (openedBy_iff (areParagraphs_untitled _ r)).mp hopened
  have hheaded := h.headedParagraphs_eq hread hblank hfaithful.untitled_first hfaithful.headings hfaithful.shown
  constructor
  · refine ⟨blank.addAll es', readFront_eq_ok_iff.mpr ?_, hsame⟩
    rw [hheaded]
    dsimp only
    rw [List.isEmpty_map, hopens.eq]
    exact ⟨hopens.nodup, rfl⟩
  · rw [hheaded, List.forall₂_map_right_iff, List.forall₂_same]
    intro s hs
    have hprinted : s ∈ new.document.printedSections := by
      rw [← filter_hasTitle_printedSections] at hs
      exact (List.mem_filter.mp hs).1
    exact (readsBack_iff hprinted (mem_titledSections.mp hs).2.1 (hread s hprinted)).mpr
      (hfaithful.links s hprinted)

end Renewal
end DocTidy
