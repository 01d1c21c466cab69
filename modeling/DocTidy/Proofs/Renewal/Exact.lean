import DocTidy.Proofs.Renewal.Faithful
import DocTidy.Proofs.Renewal.LastLine
import DocTidy.Proofs.Renewal.Seen

/-!
# Only faithful documents read back

A renewed docstring that reads as the document it was printed from was printed from a faithful one
(`reads_iff_isFaithful`).  There are no more headings than titles, the paragraphs before the first heading
are those of the sections without a title, and what the reader sees tells how the lines show.
-/

namespace DocTidy

open Text

namespace Document

variable {d : Document} {r : Renewal} {s : Section} {front : List (List Text)}

/-! ## Headings -/

/-- Each title is a heading; what other headings there are stand below the titles. -/
theorem countP_isHeading (d : Document) (r : Renewal) (ss : List Section) :
    (ss.flatMap (d.sectionParagraphs r)).countP isHeading = ss.countP Section.hasTitle +
      (ss.flatMap fun s => (d.sectionParagraphs r s).drop (if s.hasTitle then 1 else 0)).countP isHeading := by
  induction ss with
  | nil => rfl
  | cons s ss ih =>
    have hfirst : (d.sectionParagraphs r s).countP isHeading = (if s.hasTitle then 1 else 0) +
        ((d.sectionParagraphs r s).drop (if s.hasTitle then 1 else 0)).countP isHeading := by
      cases hs : s.hasTitle with
      | false => exact (Nat.zero_add _).symm
      | true =>
        obtain ⟨hparagraphs, hheading, -⟩ := sectionParagraphs_titled d r hs
        rw [hparagraphs, List.countP_cons_of_pos hheading, Nat.add_comm]
        rfl
    rw [List.flatMap_cons, List.flatMap_cons, List.countP_append, List.countP_append, List.countP_cons, ih, hfirst]
    omega

theorem unheaded_of_countP {ss : List Section}
    (h : (ss.flatMap (d.sectionParagraphs r)).countP isHeading = ss.countP Section.hasTitle) :
    ∀ s ∈ ss, d.Unheaded r s := by
  rw [countP_isHeading, Nat.add_eq_left, List.countP_eq_zero] at h
  intro s hs p hp
  exact Bool.eq_false_iff.mpr (h p (List.mem_flatMap.mpr ⟨s, hs, hp⟩))

theorem sectionParagraphs_ne_nil (hread : d.ContentsRead) (hs : s ∈ d.printedSections) :
    d.sectionParagraphs r s ≠ [] := by
  obtain ⟨l, ls, hblock, hl⟩ := (hread s hs).exists_block r.settings r.anyWidth (isEmpty_of_mem hs)
  intro hnil
  rw [sectionParagraphs, sectionBlock, hblock, paragraphs_eq_nil_iff] at hnil
  rw [hnil l List.mem_cons_self] at hl
  cases hl

/-- Sections without a title stand first if all their paragraphs stand before the first heading. -/
theorem untitled_first_of_length (hread : d.ContentsRead) (hunheaded : ∀ s ∈ d.printedSections, d.Unheaded r s)
    (hlength : (d.untitledSections.flatMap (d.sectionParagraphs r)).length =
      (headedRuns isHeading (d.printedSections.flatMap (d.sectionParagraphs r))).1.length) :
    d.printedSections.Pairwise fun s s' => s.hasTitle = true → s'.hasTitle = true := by
  refine pairwise_of_forall_dropWhile fun s hs => ?_
  have hsplit := List.takeWhile_append_dropWhile (p := fun s : Section => !s.hasTitle) (l := d.printedSections)
  have hbefore : ∀ s ∈ d.printedSections.takeWhile fun s => !s.hasTitle, s.hasTitle = false := fun s hs => by
    simpa using List.mem_takeWhile_imp hs
  have hmem : s ∈ d.printedSections := (List.dropWhile_sublist _).subset hs
  have hhead := List.head?_dropWhile_not (fun s : Section => !s.hasTitle) d.printedSections
  unfold untitledSections at hlength
  rw [← hsplit] at hlength hunheaded
  generalize d.printedSections.takeWhile (fun s => !s.hasTitle) = before at hlength hunheaded hbefore
  generalize d.printedSections.dropWhile (fun s => !s.hasTitle) = after at hlength hunheaded hs hhead
  -- The first section that follows has a title, so a heading stands there.
  have hafter : (headedRuns isHeading (after.flatMap (d.sectionParagraphs r))).1 = [] := by
    cases after with
    | nil => rfl
    | cons first after =>
      have hfirst : first.hasTitle = true := by simpa using hhead
      obtain ⟨hparagraphs, hheading, -⟩ := sectionParagraphs_titled d r hfirst
      rw [List.flatMap_cons, hparagraphs, List.cons_append, headedRuns_cons_head hheading]
  have hfilter : before.filter (fun s => !s.hasTitle) = before :=
    List.filter_eq_self.mpr fun s hs => by simp [hbefore s hs]
  rw [List.filter_append, hfilter, List.flatMap_append, List.flatMap_append,
    headedRuns_append (not_isHeading_untitled hbefore fun s hs => hunheaded s (List.mem_append_left _ hs)),
    hafter, List.append_nil, List.length_append, Nat.add_eq_left, List.length_eq_zero_iff,
    List.flatMap_eq_nil_iff] at hlength
  by_contra hs'
  refine sectionParagraphs_ne_nil (r := r) hread hmem (hlength s (List.mem_filter.mpr ⟨hs, ?_⟩))
  simpa using hs'

/-! ## The first line -/

variable {l : Text} {ls : List Text}

theorem titleLines_of_mem_titledSections (hs : s ∈ d.titledSections) : s.titleLines = [s.title, s.heading.2] := by
  rw [Section.titleLines, if_pos (Renewal.mem_titledSections.mp hs).2.1]

/-- A title and the line below it begin with text, and one of them is not the first line. -/
theorem exists_line_below (hs : s ∈ d.titledSections) (hlines : d.printedLines r = l :: ls) :
    ∃ k ∈ ls, isBlank k = false ∧ strip k = k := by
  have hmem : s ∈ d.printedSections := by
    rw [← filter_hasTitle_printedSections, List.mem_filter] at hs
    exact hs.1
  have hblock : ∀ k ∈ s.titleLines, k ∈ l :: ls := fun k hk => by
    rw [← hlines, printedLines]
    exact mem_joinParagraphs (List.mem_map_of_mem hmem) (List.mem_append_left _ hk)
  rw [titleLines_of_mem_titledSections hs, List.forall_mem_cons, List.forall_mem_singleton] at hblock
  have hne : s.title ≠ s.heading.2 := by cases s <;> decide
  have htitle := isLine_title s
  have hunderline := isLine_underline s
  -- The two lines differ, so that they are not both the first.
  rcases List.mem_cons.mp hblock.2 with heq | hbelow
  · rcases List.mem_cons.mp hblock.1 with htop | hbelow
    · exact absurd (htop.trans heq.symm) hne
    · exact ⟨_, hbelow, htitle.1, htitle.2.1⟩
  · exact ⟨_, hbelow, hunderline.1, hunderline.2.1⟩

/-- The first line has no white space around it, or it is seen as it is up to white space at the end. -/
theorem ShowsFront.first (h : d.ShowsFront r front) (hfront : AreParagraphs front)
    (hread : d.ContentsRead) (hsections : d.printedSections = d.untitledSections ++ d.titledSections)
    (hlines : d.printedLines r = l :: ls) (hl : isBlank l = false) (more : List (List Text)) :
    strip l = l ∨ ∃ k ∈ (front ++ more).flatten.head?, l = stripRight k := by
  have hprinted : (d.untitledSections.flatMap (d.sectionParagraphs r) ++
      d.titledSections.flatMap (d.sectionParagraphs r)).flatten = l :: (paragraphs ls).flatten := by
    rw [← List.flatMap_append, ← hsections, ← paragraphs_printedLines, hlines, flatten_paragraphs_cons hl]
  obtain huntitled | ⟨q, rest, rfl, huntitled⟩ := h
  · cases front with
    | nil =>
      -- A title stands first.
      have hnone : d.untitledSections = [] := by
        refine List.eq_nil_iff_forall_not_mem.mpr fun s hs => ?_
        refine sectionParagraphs_ne_nil (r := r) hread (mem_untitledSections.mp hs).1 ?_
        exact List.flatMap_eq_nil_iff.mp huntitled s hs
      rw [hnone, List.nil_append] at hsections
      cases htitled : d.titledSections with
      | nil =>
        rw [printedLines, hsections, htitled] at hlines
        cases hlines
      | cons s ss =>
        have hs : s ∈ d.titledSections := htitled ▸ List.mem_cons_self
        obtain ⟨below, hjoin⟩ := joinParagraphs_cons (d.sectionBlock r s) (ss.map (d.sectionBlock r))
        rw [printedLines, hsections, htitled, List.map_cons, hjoin, sectionBlock, Content.block,
          titleLines_of_mem_titledSections hs] at hlines
        obtain rfl : s.title = l := (List.cons.inj hlines).1
        exact .inl (isLine_title s).2.1
    | cons p rest =>
      obtain ⟨k, p, rfl⟩ := List.exists_cons_of_ne_nil (hfront p List.mem_cons_self).1
      rw [huntitled] at hprinted
      exact .inr ⟨k, rfl, (List.cons.inj hprinted).1.symm⟩
  · rw [huntitled] at hprinted
    obtain rfl : oneLine q = l := (List.cons.inj hprinted).1
    exact .inl (strip_strip _)

end Document

/-! ## Printing and reading -/

namespace Renewal

open Document

variable {r : Renewal} {subject : Subject} {level : Nat} {docstring : Text} {new : Renewed}
  {d old : Document} {texts : List Text}

/-- White space apart, what is read are the paragraphs that were printed. -/
theorem Origin.map_strip_readParagraphs (h : Origin r level docstring new old texts)
    (hread : new.document.ContentsRead) (hblank : isBlank new.text = false) :
    (readParagraphs new.text).map (·.map strip) =
      (new.document.printedSections.flatMap (new.document.sectionParagraphs r)).map (·.map strip) := by
  obtain ⟨l, ls, hlines, hl⟩ := hread.exists_printedLines (r := r) (h.printedSections_ne_nil hread hblank)
  rw [h.text_eq hread, ← paragraphs_printedLines, hlines]
  exact Frame.map_strip_readParagraphs_fill _ level hl fun k hk =>
    (hread.of_mem_printedLines (hlines ▸ hk)).1

/-- **There are no more headings than titles.** -/
theorem Origin.unheaded (h : Origin r level docstring new old texts) (hread : new.document.ContentsRead)
    (hblank : isBlank new.text = false) (hback : Rereads new) :
    ∀ s ∈ new.document.printedSections, new.document.Unheaded r s := by
  have hstrip (ps : List (List Text)) : (ps.map (·.map strip)).countP isHeading = ps.countP isHeading := by
    rw [List.countP_map]
    exact List.countP_congr fun p _ => by rw [Function.comp_apply, isHeading_map_strip]
  -- A heading stays one when its lines are stripped, so that what is read has as many as what is printed.
  refine unheaded_of_countP ?_
  rw [← hstrip, ← h.map_strip_readParagraphs hread hblank, hstrip, ← length_snd_headedRuns,
    List.countP_eq_length_filter, filter_hasTitle_printedSections]
  exact hback.sections.length_eq.symm

/-- What stands before the first heading gives the sections without a title. -/
theorem Rereads.openedBy (hback : Rereads new)
    (honce : ¬ IsReadTwice (!(headedParagraphs (dedentDocstring new.text)).2.isEmpty)
      (headedParagraphs (dedentDocstring new.text)).1) :
    new.document.OpenedBy (!(headedParagraphs (dedentDocstring new.text)).2.isEmpty)
      (headedParagraphs (dedentDocstring new.text)).1 := by
  obtain ⟨d, hfront, hsame⟩ := hback.front
  obtain ⟨hnames, rfl⟩ := readFront_eq_ok_iff.mp hfront
  exact (openedBy_iff (areParagraphs_front _)).mpr ⟨honce, _, opens_iff.mpr ⟨rfl, hnames⟩, hsame⟩

theorem Origin.untitled_first (h : Origin r level docstring new old texts) (hread : new.document.ContentsRead)
    (hblank : isBlank new.text = false) (hback : Rereads new)
    (hfront : new.document.ShowsFront r (headedParagraphs (dedentDocstring new.text)).1) :
    new.document.printedSections.Pairwise fun s s' => s.hasTitle = true → s'.hasTitle = true := by
  refine untitled_first_of_length (r := r) hread (h.unheaded hread hblank hback) ?_
  have hlength := congrArg (fun ps => (headedRuns isHeading ps).1.length)
    (h.map_strip_readParagraphs hread hblank)
  rw [fst_headedRuns_map isHeading_map_strip, fst_headedRuns_map isHeading_map_strip, List.length_map,
    List.length_map] at hlength
  rw [← hlength]
  change _ = (headedParagraphs (dedentDocstring new.text)).1.length
  obtain huntitled | ⟨q, rest, hq, huntitled⟩ := hfront
  · rw [huntitled, List.length_map]
  · rw [huntitled, hq, List.length_cons, List.length_cons, List.length_map]

/-- The lines below the first are seen as they are where there is no title. -/
theorem Origin.lines_below (h : Origin r level docstring new old texts) (hread : new.document.ContentsRead)
    (hblank : isBlank new.text = false) (hback : Rereads new)
    (hfront : new.document.ShowsFront r (headedParagraphs (dedentDocstring new.text)).1)
    (hsections : new.document.printedSections = new.document.untitledSections ++ new.document.titledSections)
    (htitled : new.document.titledSections = []) :
    (new.document.printedSections.flatMap (new.document.sectionParagraphs r)).flatten.tail =
      (readParagraphs new.text).flatten.tail.map stripRight := by
  have hgroups : (headedParagraphs (dedentDocstring new.text)).2 = [] := by
    have hback := hback.sections
    rw [htitled] at hback
    exact List.forall₂_nil_left_iff.mp hback
  have hall : (headedParagraphs (dedentDocstring new.text)).1 = readParagraphs new.text := by
    have hflatten := headedParagraphs_flatten new.text
    rwa [hgroups, List.flatMap_nil, List.append_nil] at hflatten
  have hstrip := h.map_strip_readParagraphs hread hblank
  rw [hsections, htitled, List.append_nil] at hstrip ⊢
  rw [hall] at hfront
  obtain huntitled | ⟨q, rest, hq, huntitled⟩ := hfront
  · rw [huntitled, ← List.map_flatten, List.map_tail]
  · -- A signature that is printed on one line was read from one.
    rw [huntitled, hq] at hstrip
    obtain ⟨k, rfl, -⟩ := List.map_eq_singleton_iff.mp (List.cons.inj hstrip).1
    rw [huntitled, hq, List.flatten_cons, List.flatten_cons, List.singleton_append, List.singleton_append,
      List.tail_cons, List.tail_cons, List.map_flatten]

/-- What a reader sees of the lines in their frame. -/
theorem Origin.readParagraphs_eq (h : Origin r level docstring new old texts) (hread : new.document.ContentsRead)
    {l : Text} {ls : List Text} (hlines : new.document.printedLines r = l :: ls) (hl : isBlank l = false) :
    readParagraphs new.text = Text.paragraphs ((Frame.ofDocstring docstring).seenLines (l :: ls)) := by
  rw [h.text_eq hread, hlines]
  exact Frame.readParagraphs_fill _ level hl fun k hk => (hread.of_mem_printedLines (hlines ▸ hk)).1

theorem flatten_ne_nil {ps : List (List Text)} (hps : AreParagraphs ps) (hne : ps ≠ []) : ps.flatten ≠ [] := by
  obtain ⟨p, ps, rfl⟩ := List.exists_cons_of_ne_nil hne
  rw [List.flatten_cons]
  exact List.append_ne_nil_of_left_ne_nil (hps p List.mem_cons_self).1 _

/-- The last section with a title is read from the last group of paragraphs. -/
theorem Rereads.exists_last (hback : Rereads new) {ss : List Section} {s : Section}
    (htitled : new.document.titledSections = ss ++ [s]) :
    ∃ groups group, (headedParagraphs (dedentDocstring new.text)).2 = groups ++ [group] ∧
      ReadsBack new.document s group := by
  have hreversed := List.forall₂_reverse_iff.mpr hback.sections
  rw [htitled, List.reverse_append] at hreversed
  obtain ⟨group, groups, hgroup, -, hgroups⟩ := List.forall₂_cons_left_iff.mp hreversed
  refine ⟨groups.reverse, group, ?_, hgroup⟩
  rw [← List.reverse_cons, ← hgroups, List.reverse_reverse]

/-- The last line of a section that is read from what shows, where nothing closes the frame. -/
theorem stripRight_sectionLines {group : List Text × List (List Text)} (hgroup : AreParagraphs (group.1 :: group.2))
    {k : Text} (hk : stripRight k = k) (hlast : (group.1 :: group.2).flatten.getLast? = some k) :
    ∀ y ∈ (sectionLines group).getLast?, stripRight y = y := by
  intro y hy
  obtain ⟨front, hfront⟩ : sectionLines group <:+ joinParagraphs (group.1 :: group.2) :=
    (List.dropWhile_suffix isBlank).trans (List.drop_suffix 2 _)
  have hinked : isBlank y = false := (isSqueezed_sectionLines hgroup).trimmed.2 y hy
  have hjoin : (joinParagraphs (group.1 :: group.2)).getLast? = some y := by
    rw [← hfront, List.getLast?_append, hy]
    rfl
  obtain ⟨init, hinit⟩ := List.getLast?_eq_some_iff.mp hjoin
  have hlines := Frame.lastInked?_append hinked (List.forall_mem_nil _) init
  rw [← hinit, Frame.lastInked?, ← flatten_paragraphs, hgroup.paragraphs_joinParagraphs, hlast] at hlines
  exact Option.some.inj hlines ▸ hk

/-- The last line that is seen is that of the last group, and it ends with text where nothing closes the
frame. -/
theorem Origin.exists_last_seen (h : Origin r level docstring new old texts)
    (hread : new.document.ContentsRead) (hblank : isBlank new.text = false)
    (hends : (Frame.ofDocstring docstring).endsBlank = false)
    {groups : List (List Text × List (List Text))} {group : List Text × List (List Text)}
    (hgroups : (headedParagraphs (dedentDocstring new.text)).2 = groups ++ [group])
    (hgroup : AreParagraphs (group.1 :: group.2)) :
    ∃ k, (group.1 :: group.2).flatten.getLast? = some k ∧ stripRight k = k := by
  obtain ⟨l, ls, hlines, hl⟩ := hread.exists_printedLines (r := r) (h.printedSections_ne_nil hread hblank)
  obtain ⟨above, k, hseen, hk, hstrip⟩ := Frame.exists_seenLines_concat hends hl ls
  have hlast := Frame.lastInked?_append hk (List.forall_mem_nil _) above
  rw [← hseen, Frame.lastInked?, ← flatten_paragraphs, ← h.readParagraphs_eq hread hlines hl,
    ← headedParagraphs_flatten, hgroups, List.flatMap_append, List.flatMap_singleton, ← List.append_assoc,
    List.flatten_append, List.getLast?_append_of_ne_nil _ (flatten_ne_nil hgroup (List.cons_ne_nil _ _))]
    at hlast
  exact ⟨k, hlast, hstrip⟩

/-- **No white space is lost at the end** of a text that reads back. -/
theorem Origin.ending (h : Origin r level docstring new old texts) (hread : new.document.ContentsRead)
    (hblank : isBlank new.text = false) (hback : Rereads new)
    (hfront : new.document.ShowsFront r (headedParagraphs (dedentDocstring new.text)).1)
    (hsections : new.document.printedSections = new.document.untitledSections ++ new.document.titledSections)
    (hends : (Frame.ofDocstring docstring).endsBlank = false) :
    ∀ l ∈ Frame.lastInked? (new.document.printedLines r), stripRight l = l := by
  have hlast : Frame.lastInked? (new.document.printedLines r) =
      (new.document.printedSections.flatMap (new.document.sectionParagraphs r)).flatten.getLast? := by
    rw [← paragraphs_printedLines, flatten_paragraphs]
    rfl
  rw [hlast, hsections]
  rcases List.eq_nil_or_concat' new.document.titledSections with hnil | ⟨ss, s, htitled⟩
  · -- The sections without a title have no white space at the end of any line.
    intro l hl
    rw [hnil, List.append_nil] at hl
    obtain ⟨ls, hls, hl⟩ := List.mem_flatten.mp (List.mem_of_getLast? hl)
    exact hfront.stripRight_eq ls hls l hl
  · -- The last section is read from the last group of paragraphs.
    have hs : s ∈ new.document.printedSections := by simp [hsections, htitled]
    have htitle : s.hasTitle = true :=
      (mem_titledSections.mp (htitled ▸ List.mem_append_right _ List.mem_cons_self)).2.1
    obtain ⟨groups, group, hgroups, -, c, hc, hcontents⟩ := hback.exists_last htitled
    rw [contents?_of_mem hs] at hcontents
    obtain rfl := Option.some.inj hcontents
    have hgroup : AreParagraphs (group.1 :: group.2) :=
      areParagraphs_group (hgroups ▸ List.mem_append_right _ List.mem_cons_self)
    obtain ⟨k, hseen, hstrip⟩ := h.exists_last_seen hread hblank hends hgroups hgroup
    have hblock := Content.stripRight_lastInked r.settings r.anyWidth htitle (hread s hs)
      (isSqueezed_sectionLines hgroup).trimmed (stripRight_sectionLines hgroup hstrip hseen) hc
    have hparagraphs : (new.document.sectionParagraphs r s).flatten.getLast? =
        Frame.lastInked? ((new.document.content s).block r.settings r.anyWidth s) := by
      rw [sectionParagraphs, flatten_paragraphs]
      rfl
    have hne : (new.document.sectionParagraphs r s).flatten ≠ [] :=
      flatten_ne_nil (areParagraphs_paragraphs _) (sectionParagraphs_ne_nil hread hs)
    rw [htitled, ← List.append_assoc, List.flatMap_append, List.flatMap_singleton, List.flatten_append,
      List.getLast?_append_of_ne_nil _ hne, hparagraphs]
    exact hblock

/-- **The lines of a text that reads back show as they are.** -/
theorem Origin.shows (h : Origin r level docstring new old texts) (hread : new.document.ContentsRead)
    (hblank : isBlank new.text = false) (hback : Rereads new)
    (hfront : new.document.ShowsFront r (headedParagraphs (dedentDocstring new.text)).1)
    (hsections : new.document.printedSections = new.document.untitledSections ++ new.document.titledSections) :
    (Frame.ofDocstring docstring).Shows (new.document.printedLines r) := by
  refine ⟨?_, h.ending hread hblank hback hfront hsections⟩
  obtain ⟨l, ls, hlines, hl⟩ := hread.exists_printedLines (r := r) (h.printedSections_ne_nil hread hblank)
  have hall : ∀ k ∈ l :: ls, OnlySpaces k ∧ (isBlank k = true → k = []) := fun k hk =>
    hread.of_mem_printedLines (hlines ▸ hk)
  have hseen := h.readParagraphs_eq hread hlines hl
  have hfirst := hfront.first (areParagraphs_front _) hread hsections hlines hl
    ((headedParagraphs (dedentDocstring new.text)).2.flatMap fun group => group.1 :: group.2)
  rw [headedParagraphs_flatten, hseen] at hfirst
  rw [hlines]
  refine Frame.flush_of_seenLines hl (fun k hk => (hall k hk).1) (fun k hk => (hall k hk).2) hfirst ?_
  by_cases htitled : new.document.titledSections = []
  · right
    have hbelow := h.lines_below hread hblank hback hfront hsections htitled
    rwa [← paragraphs_printedLines, hlines, flatten_paragraphs_cons hl, hseen] at hbelow
  · obtain ⟨s, hs⟩ := List.exists_mem_of_ne_nil _ htitled
    exact .inl (exists_line_below hs hlines)

/-- **A document that reads back is faithful.** -/
theorem Origin.isFaithful (h : Origin r level docstring new old texts) (hplain : docstring.IsPlain)
    (hblank : isBlank new.text = false) (hparams : Param.AreRead false new.document.params) (hback : Rereads new)
    (honce : ¬ IsReadTwice (!(headedParagraphs (dedentDocstring new.text)).2.isEmpty)
      (headedParagraphs (dedentDocstring new.text)).1) :
    new.document.IsFaithful r (Frame.ofDocstring docstring) := by
  have hread := h.contentsRead hplain hparams
  have hopened := hback.openedBy honce
  have hparagraphs := areParagraphs_front (dedentDocstring new.text)
  obtain ⟨opening, es, hparts⟩ := h.exists_parts
  have hfront := hopened.showsFront (r := r) hparagraphs hparts h.refits.sound hread h.isPrintable
  have huntitled := h.untitled_first hread hblank hback hfront
  have hheadings := h.unheaded hread hblank hback
  have hshown := h.shows hread hblank hback hfront (printedSections_of_pairwise huntitled)
  refine ⟨hparams, fun s hs => ?_, fun ls hls => hopened.unsigned hls, huntitled,
    hopened.summarised hparagraphs hparts h.isPrintable, hheadings, hshown⟩
  -- Now that the lines are known to show, each title is read with the lines that were printed below it.
  cases htitle : s.hasTitle with
  | false =>
    cases hc : new.document.content s with
    | links ls =>
      have hlinks := hread s hs
      rw [hc] at hlinks
      cases hlinks.1.symm.trans (Content.layout_untitled htitle)
    | text t | lines ls | params ps | data v => trivial
  | true =>
    have hsections := hback.sections
    rw [h.headedParagraphs_eq hread hblank huntitled hheadings hshown, List.forall₂_map_right_iff,
      List.forall₂_same] at hsections
    refine (readsBack_iff (r := r) hs htitle (hread s hs)).mp (hsections s ?_)
    rw [← filter_hasTitle_printedSections, List.mem_filter]
    exact ⟨hs, htitle⟩

/-- **When a new docstring reads as the document it was printed from.**  It does, with no other white space than
spaces and newlines, exactly if that document is faithful to its frame. -/
theorem reads_iff_isFaithful (hformat : r.format? = none)
    (hnew : (r.renew subject level docstring).result = .ok new) (hblank : isBlank new.text = false)
    (hplain : docstring.IsPlain) :
    (new.text.IsPlain ∧ ∃ d, (Document.read none (dedentDocstring new.text)).result = .ok d ∧
      d.filledSections = new.document.filledSections) ↔
      new.document.IsFaithful r (Frame.ofDocstring docstring) := by
  obtain ⟨old, texts, h⟩ := exists_origin hformat hnew hblank
  have hsound := h.refits.sound
  have hfilled {d : Document} (hread : (Document.read none (dedentDocstring new.text)).result = .ok d) :
      d.filledSections = new.document.filledSections ↔ ∀ s, d.contents? s = new.document.contents? s :=
    filledSections_eq_iff (sound_read hread).isComplete hsound.isComplete (sound_read hread).fits hsound.fits
  constructor
  · rintro ⟨hplain', d, hread, hsame⟩
    rw [hfilled hread] at hsame
    -- Parameters may come from the signature: that they are as reading leaves them shows in what is read again.
    have hparams : Param.AreRead false new.document.params := by
      rw [params_eq_of_contents? hsound (sound_read hread) (hsame .parameters).symm]
      exact areRead_params hplain' hread
    exact h.isFaithful hplain hblank hparams (h.rereads hread hsame) (h.not_isReadTwice hread hsame)
  · intro hfaithful
    obtain ⟨d, hread, hsame⟩ := h.reads (h.rereads_of_isFaithful hplain hblank hfaithful)
    exact ⟨h.isPlain (h.contentsRead hplain hfaithful.params), d, hread, (hfilled hread).mpr hsame⟩

end Renewal
end DocTidy
