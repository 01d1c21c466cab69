import DocTidy.Block.Page
import DocTidy.Proofs.Block.Progress

/-!
# What is shown of a page

Each step of reading gives blocks that a page has a form for, and puts the definition list of a See Also
section right below its title.  Both stay true when the blocks of several steps follow one another, so
every page that is read can be shown, and its references are the names of one definition list.
-/

namespace DocTidy.Page

open Text Block

variable {title shown : Text} {below left lines : List Text} {b : Block} {bs cs : List Block}

/-- A page has a form for the block, whatever its names are resolved to. -/
def HasForm (b : Block) : Prop := ∀ resolve, ∃ shown, blockHtml resolve b = .ok shown

/-- The title of each See Also section is followed by a definition list. -/
def ListsLinks : List Block → Prop
  | [] => True
  | b :: bs => (isSeeAlso b = true → ∃ es more, bs = .definitions es :: more) ∧ ListsLinks bs

/-- What is true of the blocks of every page that was read. -/
structure Presentable (bs : List Block) : Prop where
  forms : ∀ b ∈ bs, HasForm b
  links : ListsLinks bs

/-- The names are those of the definition list right below the first title of a See Also section.  There
are none without such a title. -/
def References (bs : List Block) (names : List Text) : Prop :=
  ((∀ b ∈ bs, isSeeAlso b = false) ∧ names = []) ∨
    ∃ front title es back, bs = front ++ title :: .definitions es :: back ∧
      (∀ b ∈ front, isSeeAlso b = false) ∧ isSeeAlso title = true ∧ names = es.map (·.head)

/-! ## Blocks that follow one another -/

theorem presentable_nil : Presentable [] := ⟨by simp, trivial⟩

theorem Presentable.cons (hbs : Presentable bs) (hform : HasForm b)
    (hlinks : isSeeAlso b = true → ∃ es more, bs = .definitions es :: more) :
    Presentable (b :: bs) :=
  ⟨List.forall_mem_cons.mpr ⟨hform, hbs.forms⟩, hlinks, hbs.links⟩

theorem presentable_singleton (hform : HasForm b) (hb : isSeeAlso b = false) : Presentable [b] := by
  refine presentable_nil.cons hform fun h => ?_
  rw [hb] at h
  cases h

theorem ListsLinks.append (hbs : ListsLinks bs) (hcs : ListsLinks cs) : ListsLinks (bs ++ cs) := by
  induction bs with
  | nil => exact hcs
  | cons b bs ih =>
    refine ⟨fun hb => ?_, ih hbs.2⟩
    obtain ⟨es, more, rfl⟩ := hbs.1 hb
    exact ⟨es, more ++ cs, rfl⟩

theorem Presentable.append (hbs : Presentable bs) (hcs : Presentable cs) : Presentable (bs ++ cs) :=
  ⟨List.forall_mem_append.mpr ⟨hbs.forms, hcs.forms⟩, hbs.links.append hcs.links⟩

/-! ## One step -/

theorem presentable_definitions (es : List Entry) : Presentable [.definitions es] :=
  presentable_singleton (fun _ => ⟨_, rfl⟩) rfl

theorem presentable_readParagraph (h : readParagraph lines = .ok (b, left)) : Presentable [b] := by
  obtain ⟨line, rest, -, rfl, -⟩ := readParagraph_eq_ok h
  exact presentable_singleton (fun _ => ⟨_, rfl⟩) rfl

theorem hasForm_sectionTitle (h : Header) : HasForm (.sectionTitle h) := fun _ => ⟨_, rfl⟩

theorem isSeeAlso_sectionTitle (hshown : shown ≠ "See Also") :
    isSeeAlso (.sectionTitle ⟨shown, 1⟩) = false := beq_eq_false_iff_ne.mpr hshown

/-- A section and what is read below its title.  Only the sections of links are shown as See Also. -/
theorem presentable_titled (h : ReadsBelow title below shown bs left) :
    Presentable (.sectionTitle ⟨shown, 1⟩ :: bs) := by
  have hform := hasForm_sectionTitle ⟨shown, 1⟩
  cases h with
  | alone htitle =>
    -- Nothing is read below such a title, and it is never one of links.
    refine presentable_singleton hform (isSeeAlso_sectionTitle ?_)
    rintro rfl
    exact absurd htitle (by decide)
  | links _ _ => exact (presentable_definitions _).cons hform fun _ => ⟨_, [], rfl⟩
  | prose htitle hread =>
    refine (presentable_readParagraph hread).cons hform fun hlinks => ?_
    rw [isSeeAlso_sectionTitle] at hlinks
    · cases hlinks
    · rintro rfl
      exact absurd htitle (by decide)
  | names _ _ => exact (presentable_definitions _).cons hform fun _ => ⟨_, [], rfl⟩

/-- **What a step reads can be shown.** -/
theorem presentable_of_reads (lines : List Text) (taken : Taken) (h : Reads lines taken) :
    Presentable taken.blocks := by
  cases h with
  | titled _ hbelow => exact presentable_titled hbelow
  | blank => exact presentable_singleton (fun _ => ⟨_, rfl⟩) rfl
  | code => exact presentable_singleton (fun _ => ⟨_, rfl⟩) rfl
  | prose hread => exact presentable_readParagraph hread
  | verbatim => exact presentable_singleton (fun _ => ⟨_, rfl⟩) rfl

/-! ## The whole page -/

theorem exists_html {page : Page} (h : Presentable page.blocks) (resolve : Text → Option Text) :
    ∃ shown, page.html resolve = .ok shown := by
  obtain ⟨parts, hparts⟩ := exists_forall₂ fun b hb => h.forms b hb (linkTo resolve)
  unfold html
  rw [Run.except_mapM_eq_ok.mpr hparts]
  exact ⟨_, rfl⟩

theorem ListsLinks.of_append (h : ListsLinks (bs ++ cs)) : ListsLinks cs := by
  induction bs with
  | nil => exact h
  | cons b bs ih => exact ih h.2

theorem exists_seeAlso {page : Page} (h : ListsLinks page.blocks) :
    ∃ names, page.seeAlso = pure (some names) ∧ References page.blocks names := by
  unfold seeAlso
  cases hrest : page.blocks.dropWhile fun b => !isSeeAlso b with
  | nil =>
    rw [List.dropWhile_eq_nil_iff] at hrest
    exact ⟨[], rfl, .inl ⟨fun b hb => by simpa using hrest b hb, rfl⟩⟩
  | cons title rest =>
    -- The blocks before the first title of links are those that are passed over.
    have hfront : ∀ b ∈ page.blocks.takeWhile fun b => !isSeeAlso b, isSeeAlso b = false := by
      intro b hb
      simpa using List.mem_takeWhile_imp hb
    have htitle : isSeeAlso title = true := by
      have hne : (page.blocks.dropWhile fun b => !isSeeAlso b) ≠ [] := by
        rw [hrest]
        exact List.cons_ne_nil title rest
      have hhead := List.head_dropWhile_not (fun b => !isSeeAlso b) hne
      simpa [hrest] using hhead
    have hcut := List.takeWhile_append_dropWhile (p := fun b => !isSeeAlso b) (l := page.blocks)
    rw [hrest] at hcut
    rw [← hcut] at h
    obtain ⟨es, back, rfl⟩ := h.of_append.1 htitle
    exact ⟨es.map (·.head), rfl, .inr ⟨_, title, es, back, hcut.symm, hfront, htitle, rfl⟩⟩

/-- **A page that is read can be shown.**  Whatever its names are resolved to and whichever pages refer to
it, there is a text for it.  Its references are found without a word, and are the names of the definition
list below the first See Also title. -/
theorem ofLines_presents {name signature : Option Text} {page : Page} {warnings : List Text}
    (h : (ofLines name signature lines).result = .ok (page, warnings)) :
    (∀ resolve backrefs, ∃ shown, html resolve { page with backrefs := backrefs } = .ok shown) ∧
      ∃ names, page.seeAlso = pure (some names) ∧ References page.blocks names := by
  obtain ⟨⟨blocks, warnings⟩, hread, hpage⟩ := Run.result_bind_eq_ok.mp h
  obtain ⟨rfl, -⟩ := Prod.mk.inj (Except.ok.inj hpage)
  have hblocks : Presentable blocks := readAll_collects presentable_nil
    (fun _ _ hbs hcs => hbs.append hcs) presentable_of_reads hread
  exact ⟨fun resolve backrefs => exists_html hblocks resolve, exists_seeAlso hblocks.links⟩

/-- Three references under a title in lower case, between a summary and a note. -/
def relatedLines : List Text :=
  ["Sum.", "", "See also", "--------", "f : first", "g, h", "", "Notes", "-----", "n"]

def relatedPage : Page :=
  ⟨[.paragraph ["Sum."], .sectionTitle ⟨"See Also", 1⟩,
    .definitions [⟨"f", "first", []⟩, ⟨"g", [], []⟩, ⟨"h", [], []⟩], .sectionTitle ⟨"Notes", 1⟩,
    .paragraph ["n"]], none, none, []⟩

theorem relatedPage_presented :
    (ofLines none none relatedLines).result = .ok (relatedPage, []) ∧
      (∃ shown, html some { relatedPage with backrefs := ["k"] } = .ok shown) ∧
      ∃ names, relatedPage.seeAlso = pure (some names) ∧ names = ["f", "g", "h"] ∧
        References relatedPage.blocks names := by
  have hread : (ofLines none none relatedLines).result = .ok (relatedPage, []) :=
    Run.eq_ok_of_toOption (by decide +kernel)
  obtain ⟨hshown, names, hnames, hreferences⟩ := ofLines_presents hread
  have hlisted : Except.ok (some names) = relatedPage.seeAlso.result :=
    congrArg Run.result hnames.symm
  exact ⟨hread, hshown some ["k"], names, hnames, Option.some.inj (Except.ok.inj hlisted), hreferences⟩

end DocTidy.Page
