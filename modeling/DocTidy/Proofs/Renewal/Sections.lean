import DocTidy.Proofs.Document.Paragraphs
import DocTidy.Proofs.Link.RoundTrip
import DocTidy.Proofs.Param.RoundTrip
import DocTidy.Proofs.Renewal.Headings

/-!
# Reading printed sections

A section is printed as a title and lines below it, and read from these lines, less the blank ones that
stand around them.  One law for each kind of contents says what is read: lines come back as they are,
parameters always, and links exactly if each of them is kept.
-/

namespace DocTidy

open Text Document

/-! ## Parameters -/

namespace Param

variable {p : Param} {ps : List Param} {soleType : Bool} {ls : List Text}

/-- Parameters as they are read from squeezed lines; without a line, there is one that says nothing. -/
def AreRead (soleType : Bool) (ps : List Param) : Prop :=
  ps = [⟨[], [], []⟩] ∨ ∀ p ∈ ps, IsRead soleType p ∧ IsSqueezed p.desc

instance (soleType : Bool) (ps : List Param) : Decidable (AreRead soleType ps) :=
  inferInstanceAs (Decidable (ps = [⟨[], [], []⟩] ∨ ∀ p ∈ ps, IsRead soleType p ∧ IsSqueezed p.desc))

theorem isSqueezed_entryLines (hp : IsRead soleType p) (hdesc : IsSqueezed p.desc) :
    IsSqueezed (entryLines p) := by
  have hhead : ∀ l ∈ [headLine p], isBlank l = false := by
    obtain ⟨c, r, hline, hc⟩ := hp.exists_headLine
    rw [List.forall_mem_singleton, hline, isBlank_cons, hc, Bool.false_and]
  exact (isSqueezed_of_inked hhead).append
    (hdesc.map (isBlank_indentedLine isBlank_descMargin) rfl)

theorem listLines_ne_nil (compact : Bool) (hps : ps ≠ []) : listLines compact ps ≠ [] := by
  obtain ⟨p, ps, rfl⟩ := List.exists_cons_of_ne_nil hps
  cases ps with
  | nil =>
    rw [listLines_singleton]
    exact List.cons_ne_nil _ _
  | cons q ps =>
    rw [listLines_cons_cons]
    exact List.cons_ne_nil _ _

theorem listLines_nameless (compact : Bool) : listLines compact [⟨[], [], []⟩] = [[]] :=
  listLines_singleton compact _

theorem isSqueezed_listLines (compact : Bool) (hps : ∀ p ∈ ps, IsRead soleType p ∧ IsSqueezed p.desc) :
    IsSqueezed (listLines compact ps) := by
  induction ps with
  | nil => exact isSqueezed_of_inked fun l hl => absurd hl List.not_mem_nil
  | cons p ps ih =>
    rw [List.forall_mem_cons] at hps
    have hentry := isSqueezed_entryLines hps.1.1 hps.1.2
    cases ps with
    | nil => rwa [listLines_singleton]
    | cons q ps =>
      rw [listLines_cons_cons]
      cases compact with
      | true => exact hentry.append (ih hps.2)
      | false => exact hentry.append_gap (ih hps.2) (List.cons_ne_nil _ _) (listLines_ne_nil false (by simp))

theorem AreRead.printResult_eq (h : AreRead soleType ps) :
    ∀ p ∈ ps, Printer.printResult p = ended (entryLines p) := by
  obtain rfl | hps := h
  · exact List.forall_mem_singleton.mpr rfl
  · exact fun p hp => (hps p hp).1.printResult_eq

theorem AreRead.printParam_eq (h : AreRead false ps) :
    ∀ p ∈ ps, Printer.printParam p = ended (entryLines p) := by
  obtain rfl | hps := h
  · exact List.forall_mem_singleton.mpr rfl
  · exact fun p hp => (hps p hp).1.printParam_eq.trans (hps p hp).1.printResult_eq

/-- **Parameters are read back** from their printed lines, less the blank ones around these. -/
theorem AreRead.ofLines_squeeze (h : AreRead soleType ps) (hne : ps ≠ []) (compact : Bool) :
    ofLines soleType (squeeze (listLines compact ps)) = ps := by
  obtain rfl | hps := h
  · cases soleType <;> cases compact <;> decide
  · rw [(isSqueezed_listLines compact hps).squeeze_eq]
    exact (lists_listLines compact ps).ofLines_eq (fun p hp => (hps p hp).1) hne

theorem isSqueezed_trimBlankLines (hcleared : IsCleared ls) (hsingle : HasSingleGaps ls) :
    IsSqueezed (trimBlankLines ls) := by
  obtain ⟨front, back, -, -, hsplit⟩ := exists_trimBlankLines ls
  have hpart : trimBlankLines ls <:+: ls := ⟨front, back, hsplit.symm⟩
  exact ⟨isTrimmed_trimBlankLines ls, fun l hl => hcleared l (hpart.subset hl), hsingle.of_isInfix hpart⟩

/-- Dedenting leaves blank lines where they are. -/
theorem hasSingleGaps_dedentBody (h : HasSingleGaps ls) : HasSingleGaps (dedentBody ls) := by
  cases ls with
  | nil => exact List.isChain_singleton _
  | cons l ls => exact h.congr (map_isBlank_of_map_strip (map_strip_dedentLines (l :: ls)))

theorem infix_of_mem_entries {entry : Text × List Text} (h : entry ∈ entries ls) : entry.2 <:+: ls := by
  obtain ⟨front, back, hsplit⟩ := List.append_of_mem h
  rw [← flatMap_entries ls, hsplit, List.flatMap_append, List.flatMap_cons]
  exact ⟨front.flatMap (fun e => e.1 :: e.2) ++ [entry.1], back.flatMap fun e => e.1 :: e.2, by simp⟩

/-- Reading squeezed lines gives parameters with squeezed descriptions. -/
theorem areRead_ofLines (soleType : Bool) (hls : IsSqueezed ls) (hspaces : ∀ l ∈ ls, OnlySpaces l) :
    AreRead soleType (ofLines soleType ls) := by
  cases ls with
  | nil => exact .inl (by cases soleType <;> decide)
  | cons first rest =>
    refine .inr fun p hp => ⟨isRead_of_mem_ofLines soleType hspaces (hls.trimmed.1 first rfl) p hp, ?_⟩
    obtain ⟨entry, hentry, rfl⟩ := List.mem_map.mp hp
    have hpart := infix_of_mem_entries hentry
    have hbelow : ∀ l ∈ entry.2, OnlySpaces l := fun l hl =>
      onlySpaces_dedentBody hspaces l (hpart.subset hl)
    have hsingle := hasSingleGaps_dedentBody ((hasSingleGaps_dedentBody hls.single).of_isInfix hpart)
    exact (isSqueezed_trimBlankLines (isCleared_dedentBody hbelow) hsingle).map isBlank_stripRight rfl

end Param

/-! ## Contents -/

namespace Content

variable {s : Section} {c : Content} {settings : Settings} {anyWidth : Bool}

/-- Lines of a section as reading leaves them: those of the summaries without white space at the end, and
those of the summary without a blank one. -/
structure AreLines (s : Section) (ls : List Text) : Prop where
  squeezed : IsSqueezed ls
  spaces : ∀ l ∈ ls, OnlySpaces l
  stripped : s.hasTitle = false → ∀ l ∈ ls, stripRight l = l
  inked : s = .summary → ∀ l ∈ ls, isBlank l = false

/-- Contents as reading leaves them. -/
def IsRead (s : Section) : Content → Prop
  | text t => s = .signature ∧ OnlySpaces t ∧ strip t = t ∧ isSignature t = true
  | lines ls => s.layout = .lines ∧ AreLines s ls
  | params ps => ∃ soleType, s.layout = .params soleType ∧ Param.AreRead soleType ps
  | links ls => s.layout = .links ∧ ∀ l ∈ ls, l.IsRead ∧ ∀ d ∈ l.desc, OnlySpaces d
  | data _ => False

end Content

/-! ## Printed lines -/

/-- The blank line that the settings may ask for below a title. -/
def Section.gap (settings : Settings) : Section → List Text
  | .notes => if settings.spaceInNotesTitle then [[]] else []
  | .seeAlso => Link.titleGap settings
  | _ => []

/-- A title and its underline. -/
def Section.titleLines (s : Section) : List Text := if s.hasTitle then [s.title, s.heading.2] else []

/-- No blank line stands between parameters. -/
def Printer.isCompact (settings : Settings) (s : Section) (ps : List Param) : Bool :=
  match s with
  | .parameters | .methods | .otherParameters => !hasGap ps || settings.compactParam
  | _ => true

namespace Content

variable {s : Section} {c : Content} {settings : Settings} {anyWidth : Bool}

/-- The lines of contents. -/
def printedLines (settings : Settings) (anyWidth : Bool) (s : Section) : Content → List Text
  | text t => [t]
  | lines ls => ls
  | params ps => Param.listLines (Printer.isCompact settings s ps) ps
  | links ls => ls.flatMap (Link.laidOut (decide (Link.IsInline anyWidth ls)))
  | data _ => []

/-- The lines of a printed section. -/
def block (settings : Settings) (anyWidth : Bool) (s : Section) (c : Content) : List Text :=
  s.titleLines ++ (s.gap settings ++ c.printedLines settings anyWidth s)

end Content

namespace Printer

variable {s : Section} {c : Content} {ls : List Text} {settings : Settings} {anyWidth : Bool}

theorem printLines_eq (s : Section) (spaced : Bool) (hls : ls ≠ []) :
    printLines s.title spaced ls =
      ended ([s.title, s.heading.2] ++ ((if spaced then [[]] else []) ++ ls)) := by
  have hgap : (if spaced then ['\n'] else []) = ended (if spaced then [[]] else []) := by
    cases spaced <;> rfl
  unfold printLines
  rw [titled_eq, hgap, List.append_assoc _ (unlines ls)]
  change ended [s.title, s.heading.2] ++ _ ++ (unlines ls ++ ['\n']) = _
  rw [unlines_append_newline hls, List.append_assoc, ← ended_append, ← ended_append]

theorem printSection_lines (settings : Settings) (anyWidth : Bool) (hs : canPrint s (.lines ls) = true)
    (hlayout : s.layout = .lines) (hls : Content.AreLines s ls) (hne : ls ≠ []) :
    (printSection settings anyWidth s (.lines ls)).result =
      .ok (ended (Content.block settings anyWidth s (.lines ls))) := by
  cases s with
  | summary => exact congrArg Except.ok (printSummary_eq hne (hls.inked rfl))
  | extendedSummary => exact congrArg Except.ok (unlines_append_newline hne)
  | notes => exact congrArg Except.ok (printLines_eq .notes settings.spaceInNotesTitle hne)
  | warnings | references | examples => exact congrArg Except.ok (printLines_eq _ false hne)
  | signature | index => cases hs
  | parameters | returns | yields | receives | raises | warns | otherParameters | attributes | methods | seeAlso =>
    cases hlayout

theorem printSection_paramList (settings : Settings) (anyWidth : Bool) {soleType : Bool} {ps : List Param}
    (hs : canPrint s (.params ps) = true) (hlayout : s.layout = .params soleType)
    (hps : Param.AreRead soleType ps) :
    (printSection settings anyWidth s (.params ps)).result =
      .ok (ended (Content.block settings anyWidth s (.params ps))) := by
  have hresult := Param.printResults_eq s.title hps.printResult_eq
  cases s with
  | parameters | methods | otherParameters =>
    cases hlayout
    exact congrArg Except.ok (Param.printParamList_eq _ _ hps.printParam_eq)
  | warns | raises | yields | returns | attributes => exact hresult
  | receives => cases hs
  | signature | summary | extendedSummary | seeAlso | notes | warnings | references | examples | index =>
    cases hlayout

theorem eq_seeAlso_of_layout (h : s.layout = .links) : s = .seeAlso := by
  cases s <;> first | rfl | cases h

theorem printSection_links (settings : Settings) (anyWidth : Bool) {ls : List Link}
    (hls : ∀ l ∈ ls, l.IsRead) :
    (printSection settings anyWidth .seeAlso (.links ls)).result =
      .ok (ended (Content.block settings anyWidth .seeAlso (.links ls))) := by
  have hprinted := Link.printLinks_lines settings anyWidth fun l hl => (hls l hl).isNamed
  refine Run.result_bind_eq_ok.mpr ⟨ls, rfl, ?_⟩
  rw [hprinted]
  rfl

/-- **Contents that were read are printed** as the lines of their section. -/
theorem printSection_eq (settings : Settings) (anyWidth : Bool) (hs : canPrint s c = true) (hc : c.IsRead s)
    (hne : c.isEmpty = false) :
    (printSection settings anyWidth s c).result = .ok (ended (c.block settings anyWidth s)) := by
  cases c with
  | text t =>
    obtain ⟨rfl, -⟩ := hc
    exact congrArg Except.ok (ended_cons t []).symm
  | lines ls => exact printSection_lines settings anyWidth hs hc.1 hc.2 (by simpa [Content.isEmpty] using hne)
  | params ps =>
    obtain ⟨soleType, hlayout, hps⟩ := hc
    exact printSection_paramList settings anyWidth hs hlayout hps
  | links ls =>
    obtain ⟨hlayout, hls⟩ := hc
    obtain rfl := eq_seeAlso_of_layout hlayout
    exact printSection_links settings anyWidth fun l hl => (hls l hl).1
  | data d => exact hc.elim

end Printer

/-! ## Reading the lines again -/

namespace Content

variable {s : Section} {c : Content} {settings : Settings} {anyWidth : Bool}

theorem gap_blank (settings : Settings) (s : Section) : ∀ l ∈ s.gap settings, l = [] := by
  intro l hl
  unfold Section.gap at hl
  split at hl
  · split at hl
    · exact List.mem_singleton.mp hl
    · cases hl
  · exact Link.eq_nil_of_mem_titleGap hl
  · cases hl

theorem layout_untitled (hs : s.hasTitle = false) : s.layout = .lines := by
  cases s <;> first | rfl | cases hs

theorem gap_untitled (settings : Settings) (hs : s.hasTitle = false) : s.gap settings = [] := by
  cases s <;> first | rfl | cases hs

theorem isBlank_of_isSignature {t : Text} (hstrip : strip t = t) (h : isSignature t = true) :
    isBlank t = false := by
  have hsignature : isSignature (oneLine [t]) = true := by rwa [oneLine_singleton, hstrip]
  have hblank := isBlank_oneLine hsignature
  rwa [oneLine_singleton, hstrip] at hblank

theorem onlySpaces_titleLines (s : Section) : ∀ l ∈ s.titleLines, OnlySpaces l := by
  cases s <;> decide +kernel

theorem isCleared_titleLines (s : Section) : IsCleared s.titleLines := by
  unfold Section.titleLines
  split
  · intro l hl hblank
    obtain rfl | hl := List.mem_cons.mp hl
    · rw [(isLine_title s).1] at hblank
      cases hblank
    · rw [List.mem_singleton.mp hl, (isLine_underline s).1] at hblank
      cases hblank
  · exact fun l hl => absurd hl List.not_mem_nil

theorem IsRead.onlySpaces_printedLines (hc : c.IsRead s) :
    ∀ l ∈ c.printedLines settings anyWidth s, OnlySpaces l := by
  cases c with
  | text t => exact List.forall_mem_singleton.mpr hc.2.1
  | lines ls => exact hc.2.spaces
  | params ps =>
    obtain ⟨soleType, -, rfl | hps⟩ := hc
    · rw [printedLines, Param.listLines_nameless]
      decide
    · exact (Param.lists_listLines _ ps).onlySpaces fun p hp => (hps p hp).1
  | links ls =>
    intro line hline
    obtain ⟨l, hl, hline⟩ := List.mem_flatMap.mp hline
    exact (hc.2 l hl).1.onlySpaces_of_mem_laidOut (hc.2 l hl).2 hline
  | data d => exact hc.elim

theorem IsRead.isCleared_printedLines (hc : c.IsRead s) : IsCleared (c.printedLines settings anyWidth s) := by
  cases c with
  | text t =>
    intro l hl hblank
    obtain rfl := List.mem_singleton.mp hl
    rw [isBlank_of_isSignature hc.2.2.1 hc.2.2.2] at hblank
    cases hblank
  | lines ls => exact hc.2.squeezed.cleared
  | params ps =>
    obtain ⟨soleType, -, rfl | hps⟩ := hc
    · rw [printedLines, Param.listLines_nameless]
      exact isCleared_replicate 1
    · exact (Param.isSqueezed_listLines _ hps).cleared
  | links ls =>
    intro line hline hblank
    obtain ⟨l, hl, hline⟩ := List.mem_flatMap.mp hline
    rw [((hc.2 l hl).1.of_mem_laidOut hline).1] at hblank
    cases hblank
  | data d => exact hc.elim

theorem IsRead.onlySpaces_block (hc : c.IsRead s) : ∀ l ∈ c.block settings anyWidth s, OnlySpaces l := by
  have hgap : ∀ l ∈ s.gap settings, OnlySpaces l := fun l hl => by
    rw [gap_blank settings s l hl]
    decide
  exact List.forall_mem_append.mpr
    ⟨onlySpaces_titleLines s, List.forall_mem_append.mpr ⟨hgap, hc.onlySpaces_printedLines⟩⟩

theorem IsRead.isCleared_block (hc : c.IsRead s) : IsCleared (c.block settings anyWidth s) := by
  have hgap : IsCleared (s.gap settings) := fun l hl _ => gap_blank settings s l hl
  exact (isCleared_titleLines s).append (hgap.append hc.isCleared_printedLines)

/-- The first line of a printed section has text on it. -/
theorem IsRead.exists_block (settings : Settings) (anyWidth : Bool) (hc : c.IsRead s)
    (hne : c.isEmpty = false) :
    ∃ l ls, c.block settings anyWidth s = l :: ls ∧ isBlank l = false := by
  unfold block Section.titleLines
  cases hs : s.hasTitle with
  | true => exact ⟨s.title, _, rfl, (isLine_title s).1⟩
  | false =>
    cases c with
    | text t =>
      obtain ⟨rfl, -, hstrip, hsignature⟩ := hc
      exact ⟨t, [], rfl, isBlank_of_isSignature hstrip hsignature⟩
    | lines ls =>
      obtain ⟨l, ls, rfl⟩ := List.exists_cons_of_ne_nil (by simpa [isEmpty] using hne)
      exact ⟨l, ls, by rw [gap_untitled settings hs]; rfl, hc.2.squeezed.trimmed.1 l rfl⟩
    | params ps =>
      obtain ⟨soleType, hlayout, -⟩ := hc
      rw [layout_untitled hs] at hlayout
      cases hlayout
    | links ls =>
      have hlayout := hc.1
      rw [layout_untitled hs] at hlayout
      cases hlayout
    | data d => exact hc.elim

/-- The title and the underline begin the first paragraph of a section, and what is read as its contents
are the lines below them. -/
theorem exists_sectionLines (s : Section) (below : List Text) :
    ∃ p ps, paragraphs (s.title :: s.heading.2 :: below) = (s.title :: s.heading.2 :: p) :: ps ∧
      sectionLines (s.title :: s.heading.2 :: p, ps) = squeeze below := by
  have htitle := (isLine_title s).1
  have hunderline := (isLine_underline s).1
  obtain ⟨p, ps, -, hparagraphs⟩ := paragraphs_cons_cons htitle hunderline below
  obtain ⟨gap, hgap, hsqueeze⟩ := squeeze_cons hunderline below
  refine ⟨p, ps, hparagraphs, ?_⟩
  have hlines : joinParagraphs ((s.title :: s.heading.2 :: p) :: ps) =
      s.title :: s.heading.2 :: (gap ++ squeeze below) := by
    rw [← hparagraphs, ← squeeze, squeeze_cons_cons htitle hunderline, hsqueeze]
  have hblank : ∀ l ∈ gap, isBlank l = true := fun l hl => by
    rw [hgap l hl]
    rfl
  rw [sectionLines, hlines]
  change (gap ++ squeeze below).dropWhile isBlank = squeeze below
  rw [List.dropWhile_append_of_pos hblank]
  cases hbelow : squeeze below with
  | nil => rfl
  | cons l ls =>
    have hfirst := (isSqueezed_squeeze below).trimmed.1 l (by rw [hbelow]; rfl)
    exact List.dropWhile_cons_of_neg (by rw [hfirst]; exact Bool.false_ne_true)

/-- The links of a section are kept when they are printed. -/
def LinksKept (anyWidth : Bool) : Content → Prop
  | links ls => ∀ l ∈ ls, l.IsKept (decide (Link.IsInline anyWidth ls))
  | _ => True

instance (anyWidth : Bool) (c : Content) : Decidable (c.LinksKept anyWidth) :=
  match c with
  | links ls => inferInstanceAs (Decidable (∀ l ∈ ls, l.IsKept (decide (Link.IsInline anyWidth ls))))
  | text _ | lines _ | params _ | data _ => inferInstanceAs (Decidable True)

/-- **What is read of a printed section**: the same contents, exactly if its links are kept. -/
theorem readContent_printed (settings : Settings) (anyWidth : Bool) (hs : s.hasTitle = true) (hc : c.IsRead s)
    (hne : c.isEmpty = false) :
    ∃ again, (readContent s (squeeze (s.gap settings ++ c.printedLines settings anyWidth s))).result = .ok again ∧
      (again = c ↔ c.LinksKept anyWidth) := by
  rw [squeeze_blank_append fun l hl => by rw [gap_blank settings s l hl]; rfl]
  cases c with
  | text t =>
    obtain ⟨rfl, -⟩ := hc
    cases hs
  | lines ls =>
    refine ⟨.lines ls, ?_, iff_of_true rfl trivial⟩
    rw [readContent, hc.1, printedLines, hc.2.squeezed.squeeze_eq]
    rfl
  | params ps =>
    obtain ⟨soleType, hlayout, hps⟩ := hc
    refine ⟨.params ps, ?_, iff_of_true rfl trivial⟩
    rw [readContent, hlayout, printedLines]
    exact congrArg (Except.ok ∘ Content.params) (hps.ofLines_squeeze (by simpa [isEmpty] using hne) _)
  | links ls =>
    -- Printed links have no blank line among them, so that nothing is squeezed before they are read.
    obtain ⟨hlayout, hls⟩ := hc
    have hinked : ∀ line ∈ ls.flatMap (Link.laidOut (decide (Link.IsInline anyWidth ls))),
        isBlank line = false := by
      intro line hline
      obtain ⟨l, hl, hline⟩ := List.mem_flatMap.mp hline
      exact ((hls l hl).1.of_mem_laidOut hline).1
    obtain ⟨again, hsame, hread⟩ :=
      Link.ofLines_laidOut (decide (Link.IsInline anyWidth ls)) fun l hl => (hls l hl).1
    refine ⟨.links again, ?_, by rw [Content.links.injEq, hsame]; rfl⟩
    rw [readContent, hlayout, printedLines, squeeze_of_inked hinked]
    exact Run.result_bind_eq_ok.mpr ⟨again, hread, rfl⟩
  | data d => exact hc.elim

end Content
end DocTidy
