import DocTidy.Proofs.Block.Progress
import DocTidy.Proofs.Text.Letters
import Mathlib.Data.List.Infix

/-!
# What reading keeps of a text

The letters and digits of some lines are followed through the reading of blocks.  All of them are found
again in the text of the blocks, in their order, but for one place: a paragraph takes the line behind it
along, and no block holds that line.  So reading keeps all letters and digits exactly where there are
none in such a line.
-/

namespace DocTidy.Block

open Text

variable {line underline title shown : Text} {lines rest below left : List Text} {es : List Entry}
  {blocks : List Block} {taken : Taken}

/-! ## Definition lists -/

theorem letters_toText (e : Entry) :
    letters e.toText = letters e.head ++ letters e.type ++ lettersOf e.rest := by
  have hbelow : letters (if (unlines e.rest).isEmpty then [] else '\n' :: unlines e.rest) =
      lettersOf e.rest := by
    rw [← letters_unlines]
    split
    · rename_i hnil
      rw [List.isEmpty_iff.mp hnil]
    · exact List.filter_cons_of_neg (by decide)
  have hcolon : letters (":" : Text) = [] := by decide
  unfold Entry.toText
  rw [letters_append, hbelow, letters_append, letters_append, hcolon, List.append_nil]

/-- The two parts of a line hold all its letters. -/
theorem letters_splitEntry (line : Text) :
    letters (splitEntry line).1 ++ letters (splitEntry line).2 = letters line := by
  rcases splitEntry_cases line with ⟨head, type, hline, -, hsplit⟩ | ⟨-, hsplit⟩
  · have hcolon : letters (':' :: type) = letters type := List.filter_cons_of_neg (by decide)
    rw [hsplit, letters_strip, letters_strip, hline, letters_append, hcolon]
  · rw [hsplit, letters_strip, letters_nil, List.append_nil]

/-- The text of the entries that some lines stand for. -/
theorem lettersOf_entriesOf (line : Text) (below : List Text) :
    lettersOf ((entriesOf line below).map Entry.toText) = letters line ++ lettersOf below := by
  have hline := letters_splitEntry line
  unfold entriesOf
  split
  · -- Several names, each an entry without anything else.
    rename_i hlone
    simp only [Bool.and_eq_true, List.isEmpty_iff] at hlone
    rw [hlone.1.2, letters_nil, List.append_nil] at hline
    have hname (name : Text) : letters (Entry.toText ⟨strip name, [], []⟩) = letters name := by
      rw [letters_toText, letters_strip, letters_nil, lettersOf_nil, List.append_nil, List.append_nil]
    have hnames : lettersOf ((splitEntry line).1.splitOn ',') = letters (splitEntry line).1 :=
      lettersOf_splitOn (by decide) _
    rw [hlone.2, lettersOf_nil, List.append_nil, ← hline, ← hnames]
    simp [lettersOf, List.flatMap_map, hname]
  · rw [List.map_singleton, lettersOf_cons, lettersOf_nil, List.append_nil, letters_toText, hline]

theorem Defines.lettersOf_eq (h : Defines lines es left) :
    lettersOf lines = letters (definitions es).toText ++ lettersOf left := by
  rw [Block.toText, letters_unlines]
  induction h with
  | nil => rfl
  | blank hblank _ ih => rw [lettersOf_cons, letters_eq_nil hblank, List.nil_append, ih]
  | header => rfl
  | @entry line rest es left _ _ _ ih =>
    rw [List.map_append, lettersOf_append, lettersOf_entriesOf, lettersOf_cons, List.append_assoc,
      List.append_assoc, ← ih, ← lettersOf_append, splitBelow_append]

/-! ## One step -/

/-- The line behind a paragraph, alone or below a title: the step that reads the paragraph takes it
along, and no block holds it. -/
def passedOver (lines : List Text) : List Block → List Text
  | [.paragraph ls] => (lines.drop ls.length).take 1
  | [.sectionTitle _, .paragraph ls] => (lines.drop (2 + ls.length)).take 1
  | _ => []

/-- The lines begin with a header whose title is shown as another one. -/
def isRetitled : List Text → Bool
  | line :: underline :: _ =>
    isUnderline line.length underline &&
      ((titleAliases.lookup line).isSome || line == "See also")
  | _ => false

theorem letters_underline {length : Nat} (h : isUnderline length underline = true) :
    letters underline = [] := by
  refine List.filter_eq_nil_iff.mpr fun c hc hletter => ?_
  -- A letter is none of the characters that underlines are made of.
  have hother : c ≠ '-' ∧ c ≠ '=' ∧ c ≠ '~' ∧ c ≠ '\x60' := by
    refine ⟨?_, ?_, ?_, ?_⟩
    all_goals
      rintro rfl
      exact absurd hletter (by decide)
  rw [isUnderline_eq_false hc hother] at h
  cases h

theorem letters_header (title : Text) : letters (sectionTitle ⟨title, 1⟩).toText = letters title := by
  have hline : letters (replicate title.length '=') = [] := by
    refine List.filter_eq_nil_iff.mpr fun c hc => ?_
    rw [List.eq_of_mem_replicate hc]
    decide
  have hbreak : letters ("\n" : Text) = [] := by decide
  change letters (title ++ "\n" ++ replicate title.length '=') = _
  rw [letters_append, letters_append, hline, hbreak, List.append_nil, List.append_nil]

/-- A title that means no other is shown as it stands. -/
theorem ReadsBelow.shown_eq (h : ReadsBelow (meantTitle line) below shown blocks left)
    (halias : titleAliases.lookup line = none) (hline : line ≠ "See also") : shown = line := by
  have hmeant : meantTitle line = line := by rw [meantTitle, halias, Option.getD_none]
  rw [hmeant] at h
  cases h with
  | alone => rfl
  | links htitle =>
    rcases List.mem_cons.mp htitle with heq | hother
    · exact heq.symm
    · exact absurd (List.mem_singleton.mp hother) hline
  | prose => rfl
  | names => rfl

/-- The lines of a paragraph, the line behind it and the rest. -/
theorem lettersOf_readParagraph {block : Block} (h : readParagraph lines = .ok (block, left)) :
    ∃ ls, block = paragraph ls ∧
      lettersOf lines = letters block.toText ++ lettersOf ((lines.drop ls.length).take 1) ++
        lettersOf left := by
  obtain ⟨line, rest, rfl, rfl, rfl⟩ := readParagraph_eq_ok h
  refine ⟨_, rfl, ?_⟩
  have hcut : (line :: rest.takeWhile isProse) ++ rest.dropWhile isProse = line :: rest := by
    rw [List.cons_append, List.takeWhile_append_dropWhile]
  have hbehind : (line :: rest).drop (line :: rest.takeWhile isProse).length =
      rest.dropWhile isProse := by
    rw [← hcut]
    exact List.drop_left
  have hlines : lettersOf (line :: rest) = lettersOf (line :: rest.takeWhile isProse) ++
      lettersOf (rest.dropWhile isProse) := by
    rw [← hcut, lettersOf_append]
  have hdropped : lettersOf ((rest.dropWhile isProse).take 1) ++
      lettersOf ((rest.dropWhile isProse).drop 1) = lettersOf (rest.dropWhile isProse) := by
    rw [← lettersOf_append, List.take_append_drop]
  rw [hbehind, Block.toText, letters_unlines, hlines, List.append_assoc, hdropped]

theorem lettersOf_map_singleton (block : Block) :
    lettersOf ([block].map Block.toText) = letters block.toText := by
  rw [List.map_singleton, lettersOf_cons, lettersOf_nil, List.append_nil]

/-- A block that holds all the lines that were taken. -/
theorem lettersOf_held {block : Block} {ls : List Text} (hblock : block.toText = unlines ls)
    (hpassed : passedOver lines [block] = []) (hcut : ls ++ left = lines) :
    lettersOf lines = lettersOf ([block].map Block.toText) ++ lettersOf (passedOver lines [block]) ++
      lettersOf left := by
  rw [hpassed, lettersOf_nil, List.append_nil, lettersOf_map_singleton, hblock, letters_unlines,
    ← lettersOf_append, hcut]

theorem Defines.lettersOf_below (h : Defines below es left) (header : Header) :
    lettersOf below = lettersOf ([definitions es].map Block.toText) ++
      lettersOf (passedOver lines [sectionTitle header, definitions es]) ++ lettersOf left := by
  have hnone : passedOver lines [sectionTitle header, definitions es] = [] := rfl
  rw [hnone, lettersOf_nil, List.append_nil, lettersOf_map_singleton, ← h.lettersOf_eq]

/-- What is read below a title. -/
theorem ReadsBelow.lettersOf_eq (h : ReadsBelow title below shown blocks left) (header : Header)
    (line underline : Text) :
    lettersOf below = lettersOf (blocks.map Block.toText) ++
      lettersOf (passedOver (line :: underline :: below) (sectionTitle header :: blocks)) ++
        lettersOf left := by
  cases h with
  | alone => rfl
  | links _ hlist => exact hlist.lettersOf_below header
  | prose _ hread =>
    have ⟨ls, hblock, hlines⟩ := lettersOf_readParagraph hread
    have hbehind : passedOver (line :: underline :: below) [sectionTitle header, paragraph ls] =
        (below.drop ls.length).take 1 := by
      rw [passedOver, Nat.add_comm]
      rfl
    rw [lettersOf_map_singleton, hlines, hblock, hbehind]
  | names _ hlist => exact hlist.lettersOf_below header

/-- **One step keeps all letters and digits**, but for those in the line that it passes over. -/
theorem Reads.lettersOf_eq (h : Reads lines taken) (htitle : isRetitled lines = false) :
    lettersOf lines = lettersOf (taken.blocks.map Block.toText) ++
      lettersOf (passedOver lines taken.blocks) ++ lettersOf taken.rest := by
  cases h with
  | @titled line underline below shown blocks left _ hunderline hbelow =>
    have hshown : shown = line := by
      rw [isRetitled, hunderline, Bool.true_and, Bool.or_eq_false_iff] at htitle
      exact hbelow.shown_eq (Option.isNone_iff_eq_none.mp (by simpa using htitle.1))
        (by simpa using htitle.2)
    dsimp only
    rw [lettersOf_cons, lettersOf_cons, letters_underline hunderline, List.nil_append,
      List.map_cons, lettersOf_cons, letters_header, hshown, List.append_assoc, List.append_assoc,
      ← List.append_assoc (lettersOf (blocks.map Block.toText)),
      ← hbelow.lettersOf_eq ⟨line, 1⟩ line underline]
  | @blank line rest hblank =>
    rw [lettersOf_cons, letters_eq_nil hblank]
    rfl
  | @code line rest hblank =>
    refine lettersOf_held rfl rfl ?_
    rw [List.cons_append, List.takeWhile_append_dropWhile]
  | prose hread =>
    have ⟨ls, hblock, hlines⟩ := lettersOf_readParagraph hread
    rw [lettersOf_map_singleton, hlines, hblock]
    rfl
  | @verbatim line rest =>
    refine lettersOf_held rfl rfl ?_
    rw [List.cons_append, untilHeader_append]

/-! ## All steps -/

/-- Three parts with the middle one left out, and the last one shortened, are the same only if nothing
was left out. -/
theorem append_eq_append_iff_of_sublist {front middle back kept : Text} (h : kept.Sublist back) :
    front ++ middle ++ back = front ++ kept ↔ middle = [] ∧ back = kept := by
  constructor
  · intro heq
    have hlength := congrArg List.length heq
    have hle := h.length_le
    simp only [List.length_append] at hlength
    have hmiddle : middle = [] := List.eq_nil_of_length_eq_zero (by omega)
    have hback : back.length = kept.length := by omega
    exact ⟨hmiddle, (h.eq_of_length hback.symm).symm⟩
  · rintro ⟨rfl, rfl⟩
    rw [List.append_nil]

/-- **What reading keeps.**  The letters and digits of the blocks are letters and digits of the lines, in
their order.  They are all of them exactly if no line that a step passes over holds any. -/
theorem readAll_keeps_letters_iff {warnings : List Text}
    (htitles : ∀ rest, rest <:+ lines → isRetitled rest = false)
    (h : (readAll lines).result = .ok (blocks, warnings)) :
    (lettersOf (blocks.map Block.toText)).Sublist (lettersOf lines) ∧
      (lettersOf lines = lettersOf (blocks.map Block.toText) ↔
        ∀ now taken, Reaches lines now → now ≠ [] → (readNext now).result = .ok taken →
          lettersOf (passedOver now taken.blocks) = []) := by
  -- Each step leaves fewer lines; what it keeps and what it passes over is known from the step.
  induction hn : lines.length using Nat.strong_induction_on generalizing lines blocks warnings with
  | _ n ih =>
    subst hn
    by_cases hne : lines = []
    · subst hne
      rw [readAll_nil, Run.result_pure] at h
      obtain ⟨rfl, -⟩ := Prod.mk.inj (Except.ok.inj h)
      refine ⟨List.Sublist.refl _, fun _ now taken hreaches hnow => ?_, fun _ => rfl⟩
      exact absurd (reaches_nil.mp hreaches) hnow
    · obtain ⟨taken, more, hnext, hmore, hparts⟩ := readAll_eq_ok hne h
      obtain ⟨rfl, -⟩ := Prod.mk.inj hparts
      have hreads := reads_of_readNext hne hnext
      have ⟨hsuffix, hshorter⟩ := hreads.progress hne
      have hstep := hreads.lettersOf_eq (htitles lines List.suffix_rfl)
      have ⟨hsublist, hiff⟩ := ih _ hshorter (fun rest hrest => htitles rest (hrest.trans hsuffix))
        hmore rfl
      rw [hstep, List.map_append, lettersOf_append]
      constructor
      · rw [List.append_assoc]
        exact ((hsublist.trans (List.sublist_append_right _ _)).append_left _)
      · rw [append_eq_append_iff_of_sublist hsublist, hiff]
        constructor
        · rintro ⟨hpassed, hall⟩ now taken' hreaches hnow hresult
          rcases (reaches_of_ok hne hnext).mp hreaches with rfl | hreaches
          · rw [← Except.ok.inj (hnext.symm.trans hresult)]
            exact hpassed
          · exact hall now taken' hreaches hnow hresult
        · intro hall
          refine ⟨hall lines taken .refl hne hnext, fun now taken' hreaches => ?_⟩
          exact hall now taken' ((reaches_of_ok hne hnext).mpr (.inr hreaches))

/-- A summary, a section with two names, and one with a note. -/
def sumLines : List Text :=
  ["Sum.", "", "Returns", "-------", "n, m : int", "  Two of 3.", "", "Notes", "-----", "See b."]

/-- The only lines that are passed over are blank. -/
theorem sumLines_keep_letters :
    (readAll sumLines).result = .ok ([.paragraph ["Sum."], .sectionTitle ⟨"Returns", 1⟩,
      .definitions [⟨"n, m", "int", ["  Two of 3.", []]⟩], .sectionTitle ⟨"Notes", 1⟩,
      .paragraph ["See b."]], []) ∧
    ∀ now taken, Reaches sumLines now → now ≠ [] → (readNext now).result = .ok taken →
      lettersOf (passedOver now taken.blocks) = [] := by
  have htails : ∀ rest ∈ sumLines.tails, isRetitled rest = false := by decide
  have htitles (rest : List Text) (hrest : rest <:+ sumLines) : isRetitled rest = false :=
    htails rest ((List.mem_tails _ _).mpr hrest)
  have hread := Run.eq_ok_of_toOption (r := (readAll sumLines).result) (a := ([.paragraph ["Sum."],
    .sectionTitle ⟨"Returns", 1⟩, .definitions [⟨"n, m", "int", ["  Two of 3.", []]⟩],
    .sectionTitle ⟨"Notes", 1⟩, .paragraph ["See b."]], [])) (by decide +kernel)
  exact ⟨hread, (readAll_keeps_letters_iff htitles hread).2.mp (by decide +kernel)⟩

/-- An indented line behind a paragraph of two lines is lost. -/
theorem indented_line_lost :
    (∀ rest, rest <:+ (["a", "b", " c"] : List Text) → isRetitled rest = false) ∧
    (readAll ["a", "b", " c"]).result = .ok ([.paragraph ["a", "b"]], []) ∧
    lettersOf ["a", "b", " c"] = "abc" ∧
    lettersOf ([Block.paragraph ["a", "b"]].map Block.toText) = "ab" := by
  have htails : ∀ rest ∈ (["a", "b", " c"] : List Text).tails, isRetitled rest = false := by decide
  have hread := Run.eq_ok_of_toOption (r := (readAll ["a", "b", " c"]).result)
    (a := ([.paragraph ["a", "b"]], [])) (by decide +kernel)
  exact ⟨fun rest hrest => htails rest ((List.mem_tails _ _).mpr hrest), hread, by decide, by decide⟩

end DocTidy.Block
