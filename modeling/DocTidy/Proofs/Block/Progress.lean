import DocTidy.Proofs.Block.Definitions
import Mathlib.Logic.Relation

/-!
# Reading makes progress

`Reads` says what one step of reading takes off some lines, with one case for each kind of block.
A step does that, or it fails for one of two reasons: the lines begin with a header that no section
has, or with the header of a section that defines names and has no line below (`readNext_cases`).
What is left after a step is a shorter end of the lines.  So reading all blocks comes to an end, and
it fails exactly where one of its steps does.
-/

namespace DocTidy.Block

open Text Relation

/-! ## Headers and titles -/

/-- The sections that hold links. -/
def linkTitles : List Text := ["See Also", "See also"]

/-- The sections whose contents are blocks of their own. -/
def openTitles : List Text := ["Examples", "Notes", "References"]

def knownTitles : List Text := definingTitles ++ linkTitles ++ openTitles

/-- The lines begin with a header that stands for `title`, with the lines `below` under it. -/
def Heads (title : Text) (below lines : List Text) : Prop :=
  ∃ line underline, lines = line :: underline :: below ∧
    isUnderline line.length underline = true ∧ meantTitle line = title

/-- A block can be read from the lines: a header at their start is that of a known section, with a line
below if the section defines names. -/
def Readable (lines : List Text) : Prop :=
  ∀ title below, Heads title below lines →
    title ∈ knownTitles ∧ (title ∈ definingTitles → below ≠ [])

/-- What is read below a header that means `title`: the title that is shown, the blocks under it, and
the lines that are left. -/
inductive ReadsBelow (title : Text) (below : List Text) : Text → List Block → List Text → Prop
  | alone (htitle : title ∈ openTitles) : ReadsBelow title below title [] below
  | links {es left} (htitle : title ∈ linkTitles) (hlist : Defines below es left) :
      ReadsBelow title below "See Also" [definitions es] left
  | prose {block left} (htitle : title ∈ definingTitles)
      (hread : readParagraph below = .ok (block, left)) : ReadsBelow title below title [block] left
  | names {es left} (htitle : title ∈ definingTitles) (hlist : Defines below es left) :
      ReadsBelow title below title [definitions es] left

/-- What one step takes off some lines. -/
inductive Reads : List Text → Taken → Prop
  | titled {line underline below shown blocks left warnings}
      (hunderline : isUnderline line.length underline = true)
      (hbelow : ReadsBelow (meantTitle line) below shown blocks left) :
      Reads (line :: underline :: below) ⟨sectionTitle ⟨shown, 1⟩ :: blocks, left, warnings⟩
  | blank {line rest} (hblank : isBlank line = true) : Reads (line :: rest) ⟨[.blank], rest, []⟩
  | code {line rest} (hblank : isBlank line = false) :
      Reads (line :: rest) ⟨[.code (line :: rest.takeWhile fun l => !isBlank l)],
        rest.dropWhile fun l => !isBlank l, []⟩
  | prose {lines block left} (hread : readParagraph lines = .ok (block, left)) :
      Reads lines ⟨[block], left, []⟩
  | verbatim {line rest} (hheader : atHeader (line :: rest) = false) :
      Reads (line :: rest) ⟨[.verbatim (line :: (untilHeader rest).1)], (untilHeader rest).2, []⟩

variable {line underline title : Text} {lines rest below left : List Text} {taken : Taken}

theorem header?_eq_ok (h : isUnderline line.length underline = true) (below : List Text) :
    header? (line :: underline :: below) = .ok (⟨line, 1⟩, below) := by
  rw [header?, underlineLevel, if_pos h]
  rfl

theorem header?_eq_error (h : atHeader lines = false) : header? lines = .error .noMatch := by
  match lines with
  | [] => rfl
  | [_] => rfl
  | line :: underline :: below =>
    have hline : isUnderline line.length underline = false := h
    rw [header?, underlineLevel, if_neg (by rw [hline]; decide)]
    rfl

theorem exists_of_atHeader (h : atHeader lines = true) :
    ∃ line underline below, lines = line :: underline :: below ∧
      isUnderline line.length underline = true := by
  match lines with
  | [] => cases h
  | [_] => cases h
  | line :: underline :: below => exact ⟨line, underline, below, rfl, h⟩

theorem untilHeader_append (lines : List Text) :
    (untilHeader lines).1 ++ (untilHeader lines).2 = lines := by
  induction lines with
  | nil => rfl
  | cons line rest ih =>
    rw [untilHeader]
    split
    · rfl
    · change line :: ((untilHeader rest).1 ++ (untilHeader rest).2) = _
      rw [ih]

/-! ## Paragraphs -/

/-- Where there is a line, it begins a paragraph or something else.  A paragraph is that line with the
lines at the margin below it, and one more line goes with them. -/
theorem readParagraph_cons (line : Text) (rest : List Text) :
    ∃ isOther : Bool, readParagraph (line :: rest) =
      if isOther then .error .noMatch
      else .ok (paragraph (line :: rest.takeWhile isProse), (rest.dropWhile isProse).drop 1) :=
  ⟨_, rfl⟩

theorem readParagraph_cases (line : Text) (rest : List Text) :
    (∃ block left, readParagraph (line :: rest) = .ok (block, left)) ∨
      readParagraph (line :: rest) = .error .noMatch := by
  have ⟨isOther, hread⟩ := readParagraph_cons line rest
  rw [hread]
  cases isOther with
  | true => exact .inr rfl
  | false => exact .inl ⟨_, _, rfl⟩

theorem readParagraph_eq_ok {block : Block} (h : readParagraph lines = .ok (block, left)) :
    ∃ line rest, lines = line :: rest ∧ block = paragraph (line :: rest.takeWhile isProse) ∧
      left = (rest.dropWhile isProse).drop 1 := by
  cases lines with
  | nil => cases h
  | cons line rest =>
    have ⟨isOther, hread⟩ := readParagraph_cons line rest
    rw [hread] at h
    cases isOther with
    | true => cases h
    | false =>
      have heq := Prod.mk.inj (Except.ok.inj h)
      exact ⟨line, rest, rfl, heq.1.symm, heq.2.symm⟩

/-! ## Sections -/

/-- The lines below a title that defines names can be read unless there are none. -/
theorem readDefining_cases (htitle : title ∈ definingTitles) (below : List Text) :
    (below = [] ∧ (readDefining below).result = .error .noLine) ∨
      below ≠ [] ∧ ∃ block left, (readDefining below).result = .ok (block, left) ∧
        ReadsBelow title below title [block] left := by
  cases below with
  | nil => exact .inl ⟨rfl, rfl⟩
  | cons line rest =>
    refine .inr ⟨List.cons_ne_nil line rest, ?_⟩
    unfold readDefining
    rcases readParagraph_cases line rest with ⟨block, left, hread⟩ | hread
    · rw [hread]
      exact ⟨block, left, rfl, .prose htitle hread⟩
    · rw [hread]
      have ⟨es, left, hlist⟩ := exists_defines (line :: rest)
      have hresult := readDefinitions_eq_ok_iff.mpr hlist
      exact ⟨definitions es, left, Run.result_bind_eq_ok.mpr ⟨(es, left), hresult, rfl⟩,
        .names htitle hlist⟩

theorem mem_linkTitles : title ∈ linkTitles ↔ (title == "See Also" || title == "See also") = true := by
  simp [linkTitles]

theorem mem_openTitles : title ∈ openTitles ↔
    (title == "Examples" || title == "Notes" || title == "References") = true := by
  simp [openTitles, or_assoc]

theorem mem_knownTitles :
    title ∈ knownTitles ↔ title ∈ definingTitles ∨ title ∈ linkTitles ∨ title ∈ openTitles := by
  rw [knownTitles, List.mem_append, List.mem_append, or_assoc]

theorem readable_cons (underline : Text) (hknown : meantTitle line ∈ knownTitles)
    (hbelow : meantTitle line ∈ definingTitles → below ≠ []) :
    Readable (line :: underline :: below) := by
  rintro title below' ⟨line', underline', heq, -, rfl⟩
  cases heq
  exact ⟨hknown, hbelow⟩

/-- **What happens at a header.**  A section is read, or its title is not known, or it defines names and
there is no line below. -/
theorem readSection_cases (hunderline : isUnderline line.length underline = true)
    (below : List Text) :
    (Readable (line :: underline :: below) ∧
        ∃ taken, (readSection (line :: underline :: below)).result = .ok taken ∧
          Reads (line :: underline :: below) taken) ∨
      (meantTitle line ∉ knownTitles ∧
        (readSection (line :: underline :: below)).result =
          .error (.unknownTitle (meantTitle line))) ∨
      (meantTitle line ∈ definingTitles ∧ below = [] ∧
        (readSection (line :: underline :: below)).result = .error .noLine) := by
  have hreadable := @readable_cons line below underline
  rw [mem_knownTitles] at hreadable ⊢
  unfold readSection
  rw [header?_eq_ok hunderline below, Run.result_bind, Run.result_ofExcept]
  dsimp only [Except.bind]
  by_cases hdefining : meantTitle line ∈ definingTitles
  · rw [if_pos (List.contains_iff_mem.mpr hdefining)]
    rcases readDefining_cases hdefining below with ⟨hnil, hresult⟩ | ⟨hne, block, left, hresult, hbelow⟩
    · refine .inr (.inr ⟨hdefining, hnil, ?_⟩)
      rw [Run.result_bind, hresult]
      rfl
    · exact .inl ⟨hreadable (.inl hdefining) fun _ => hne, _,
        Run.result_bind_eq_ok.mpr ⟨_, hresult, rfl⟩, .titled hunderline hbelow⟩
  · rw [if_neg (mt List.contains_iff_mem.mp hdefining)]
    by_cases hlink : meantTitle line ∈ linkTitles
    · rw [if_pos (mem_linkTitles.mp hlink)]
      have ⟨es, left, hlist⟩ := exists_defines below
      have hresult := readDefinitions_eq_ok_iff.mpr hlist
      exact .inl ⟨hreadable (.inr (.inl hlink)) fun h => absurd h hdefining, _,
        Run.result_bind_eq_ok.mpr ⟨_, hresult, rfl⟩, .titled hunderline (.links hlink hlist)⟩
    · rw [if_neg (mt mem_linkTitles.mpr hlink)]
      by_cases hopen : meantTitle line ∈ openTitles
      · rw [if_pos (mem_openTitles.mp hopen)]
        exact .inl ⟨hreadable (.inr (.inr hopen)) fun h => absurd h hdefining, _, rfl,
          .titled hunderline (.alone hopen)⟩
      · rw [if_neg (mt mem_openTitles.mpr hopen)]
        exact .inr (.inl ⟨fun hknown => hknown.elim hdefining (Or.elim · hlink hopen), rfl⟩)

theorem readSection_of_not_atHeader (h : atHeader lines = false) :
    (readSection lines).result = .error .noMatch := by
  unfold readSection
  rw [header?_eq_error h]
  rfl

/-! ## The next block -/

theorem result_quietly (r : Except Error (Block × List Text)) :
    (quietly r).result = r.map fun (block, rest) => ⟨[block], rest, []⟩ := by
  cases r with
  | error e => rfl
  | ok r => rfl

theorem result_orNext_of_noMatch {r : Run Taken} {next : Unit → Run Taken}
    (h : r.result = .error .noMatch) : (orNext r next).result = (next ()).result := by
  unfold orNext
  rw [h]

theorem result_orNext_of_ne_noMatch {r : Run Taken} {next : Unit → Run Taken}
    (h : r.result ≠ .error .noMatch) : (orNext r next).result = r.result := by
  unfold orNext
  split
  · rename_i hnoMatch
    exact absurd hnoMatch h
  · rfl

theorem result_orNext_of_ok {r : Run Taken} {next : Unit → Run Taken} (h : r.result = .ok taken) :
    (orNext r next).result = .ok taken := by
  rw [result_orNext_of_ne_noMatch (by rw [h]; simp), h]

/-- Lines that do not begin with a header can always be read. -/
theorem readNext_of_not_atHeader (h : atHeader (line :: rest) = false) :
    ∃ taken, (readNext (line :: rest)).result = .ok taken ∧ Reads (line :: rest) taken := by
  have hheader : (quietly (readHeader (line :: rest))).result = .error .noMatch := by
    rw [result_quietly, readHeader, header?_eq_error h]
    rfl
  unfold readNext
  rw [result_orNext_of_noMatch (readSection_of_not_atHeader h), result_orNext_of_noMatch hheader]
  cases hblank : isBlank line with
  | true =>
    have hresult : (quietly (readBlank (line :: rest))).result = .ok ⟨[blank], rest, []⟩ := by
      rw [result_quietly, readBlank, if_pos hblank]
      rfl
    exact ⟨_, result_orNext_of_ok hresult, .blank hblank⟩
  | false =>
    have hresult : (quietly (readBlank (line :: rest))).result = .error .noMatch := by
      rw [result_quietly, readBlank, if_neg (by rw [hblank]; decide)]
      rfl
    rw [result_orNext_of_noMatch hresult]
    by_cases hprompt : (startsWith line ">>>" || startsWith line "    >>>") = true
    · have hcode : (quietly (readCode (line :: rest))).result =
          .ok ⟨[code (line :: rest.takeWhile fun l => !isBlank l)],
            rest.dropWhile fun l => !isBlank l, []⟩ := by
        rw [result_quietly, readCode, if_pos hprompt]
        simp [Except.map, hblank]
      exact ⟨_, result_orNext_of_ok hcode, .code hblank⟩
    · have hcode : (quietly (readCode (line :: rest))).result = .error .noMatch := by
        rw [result_quietly, readCode, if_neg hprompt]
        rfl
      rw [result_orNext_of_noMatch hcode]
      rcases readParagraph_cases line rest with ⟨block, left, hread⟩ | hread
      · have hprose : (quietly (readParagraph (line :: rest))).result = .ok ⟨[block], left, []⟩ := by
          rw [result_quietly, hread]
          rfl
        exact ⟨_, result_orNext_of_ok hprose, .prose hread⟩
      · have hprose : (quietly (readParagraph (line :: rest))).result = .error .noMatch := by
          rw [result_quietly, hread]
          rfl
        -- What is left takes at least the first line, since that is not a header.
        have hverbatim : (quietly (readVerbatim (line :: rest))).result =
            .ok ⟨[verbatim (line :: (untilHeader rest).1)], (untilHeader rest).2, []⟩ := by
          rw [result_quietly, readVerbatim, untilHeader, if_neg (by rw [h]; decide)]
          rfl
        rw [result_orNext_of_noMatch hprose]
        exact ⟨_, result_orNext_of_ok hverbatim, .verbatim h⟩

/-- **What one step does.**  It reads a block, or it fails at a header: because no section has its
title, or because it defines names and no line is left. -/
theorem readNext_cases (hne : lines ≠ []) :
    (Readable lines ∧ ∃ taken, (readNext lines).result = .ok taken ∧ Reads lines taken) ∨
      (∃ title below, Heads title below lines ∧ title ∉ knownTitles ∧
        (readNext lines).result = .error (.unknownTitle title)) ∨
      (∃ title, Heads title [] lines ∧ title ∈ definingTitles ∧
        (readNext lines).result = .error .noLine) := by
  cases hheader : atHeader lines with
  | false =>
    obtain ⟨line, rest, rfl⟩ := List.exists_cons_of_ne_nil hne
    refine .inl ⟨?_, readNext_of_not_atHeader hheader⟩
    rintro title below ⟨line', underline, heq, hunderline, -⟩
    rw [heq] at hheader
    exact absurd (hheader.symm.trans hunderline) (by decide)
  | true =>
    obtain ⟨line, underline, below, rfl, hunderline⟩ := exists_of_atHeader hheader
    -- A header is never left to the readers of other blocks.
    have hfirst {e : Error} (he : (readSection (line :: underline :: below)).result = .error e)
        (hne : e ≠ .noMatch) : (readNext (line :: underline :: below)).result = .error e := by
      unfold readNext
      rw [result_orNext_of_ne_noMatch (by rw [he]; exact fun h => hne (Except.error.inj h)), he]
    rcases readSection_cases hunderline below with
      ⟨hreadable, taken, hresult, hreads⟩ | ⟨hunknown, hresult⟩ | ⟨hdefining, rfl, hresult⟩
    · exact .inl ⟨hreadable, taken, result_orNext_of_ok hresult, hreads⟩
    · exact .inr (.inl ⟨_, below, ⟨line, underline, rfl, hunderline, rfl⟩, hunknown,
        hfirst hresult Error.noConfusion⟩)
    · exact .inr (.inr ⟨_, ⟨line, underline, rfl, hunderline, rfl⟩, hdefining,
        hfirst hresult Error.noConfusion⟩)

/-- A step that succeeds reads one of the kinds of block. -/
theorem reads_of_readNext (hne : lines ≠ []) (h : (readNext lines).result = .ok taken) :
    Reads lines taken := by
  rcases readNext_cases hne with ⟨-, taken', hresult, hreads⟩ | ⟨_, _, -, -, hresult⟩ |
    ⟨_, -, -, hresult⟩
  · obtain rfl := Except.ok.inj (hresult.symm.trans h)
    exact hreads
  · cases hresult.symm.trans h
  · cases hresult.symm.trans h

theorem Heads.unique {title' : Text} {below' : List Text} (h : Heads title below lines)
    (h' : Heads title' below' lines) : title = title' ∧ below = below' := by
  obtain ⟨line, underline, rfl, -, rfl⟩ := h
  obtain ⟨line', underline', heq, -, rfl⟩ := h'
  cases heq
  exact ⟨rfl, rfl⟩

theorem readNext_eq_error_iff {e : Error} (hne : lines ≠ []) :
    (readNext lines).result = .error e ↔
      (∃ title below, Heads title below lines ∧ title ∉ knownTitles ∧ e = .unknownTitle title) ∨
      (∃ title, Heads title [] lines ∧ title ∈ definingTitles ∧ e = .noLine) := by
  rcases readNext_cases hne with ⟨hreadable, taken, hresult, -⟩ |
    ⟨title, below, hheads, hunknown, hresult⟩ | ⟨title, hheads, hdefining, hresult⟩
  · rw [hresult]
    refine ⟨nofun, ?_⟩
    rintro (⟨title, below, hheads, hunknown, -⟩ | ⟨title, hheads, hdefining, -⟩)
    · exact absurd (hreadable title below hheads).1 hunknown
    · exact absurd rfl ((hreadable title [] hheads).2 hdefining)
  · rw [hresult]
    constructor
    · intro h
      exact .inl ⟨title, below, hheads, hunknown, (Except.error.inj h).symm⟩
    · rintro (⟨title', below', hheads', -, rfl⟩ | ⟨title', hheads', hdefining, -⟩)
      · rw [(hheads.unique hheads').1]
      · rw [← (hheads.unique hheads').1] at hdefining
        exact absurd (mem_knownTitles.mpr (.inl hdefining)) hunknown
  · rw [hresult]
    constructor
    · intro h
      exact .inr ⟨title, hheads, hdefining, (Except.error.inj h).symm⟩
    · rintro (⟨title', below', hheads', hunknown, -⟩ | ⟨title', -, -, rfl⟩)
      · rw [← (hheads.unique hheads').1] at hunknown
        exact absurd (mem_knownTitles.mpr (.inl hdefining)) hunknown
      · rfl

/-! ## Every step leaves a shorter end of the lines -/

theorem Defines.suffix {es : List Entry} (h : Defines lines es left) : left <:+ lines := by
  induction h with
  | nil => exact List.suffix_rfl
  | @blank line rest _ _ _ _ ih => exact ih.trans (List.suffix_cons line rest)
  | header => exact List.suffix_rfl
  | @entry line rest es left _ _ _ ih =>
    have hbelow : (splitBelow rest).2 <:+ rest := ⟨(splitBelow rest).1, splitBelow_append rest⟩
    exact (ih.trans hbelow).trans (List.suffix_cons line rest)

theorem suffix_of_readParagraph {block : Block} (h : readParagraph (line :: rest) = .ok (block, left)) :
    left <:+ rest := by
  obtain ⟨_, _, heq, -, rfl⟩ := readParagraph_eq_ok h
  obtain ⟨rfl, rfl⟩ := List.cons.inj heq
  exact (List.drop_suffix 1 _).trans (List.dropWhile_suffix isProse)

theorem ReadsBelow.suffix {shown : Text} {blocks : List Block}
    (h : ReadsBelow title below shown blocks left) : left <:+ below := by
  cases h with
  | alone => exact List.suffix_rfl
  | links _ hlist => exact hlist.suffix
  | prose _ hread =>
    obtain ⟨line, rest, rfl, -⟩ := readParagraph_eq_ok hread
    exact (suffix_of_readParagraph hread).trans (List.suffix_cons line rest)
  | names _ hlist => exact hlist.suffix

/-- What a step leaves is an end of the lines below the first one. -/
theorem Reads.suffix (h : Reads (line :: rest) taken) : taken.rest <:+ rest := by
  cases h with
  | titled _ hbelow => exact hbelow.suffix.trans (List.suffix_cons _ _)
  | blank => exact List.suffix_rfl
  | code => exact List.dropWhile_suffix _
  | prose hread => exact suffix_of_readParagraph hread
  | verbatim => exact ⟨(untilHeader rest).1, untilHeader_append rest⟩

/-- **A step makes progress.** -/
theorem Reads.progress (hne : lines ≠ []) (h : Reads lines taken) :
    taken.rest <:+ lines ∧ taken.rest.length < lines.length := by
  obtain ⟨line, rest, rfl⟩ := List.exists_cons_of_ne_nil hne
  have hsuffix := h.suffix
  have hlength := hsuffix.length_le
  refine ⟨hsuffix.trans (List.suffix_cons line rest), ?_⟩
  rw [List.length_cons]
  omega

/-! ## The readers in their order -/

/-- The readers that a step tries one after the other. -/
def readers : List (List Text → Run Taken) :=
  [readSection, fun ls => quietly (readHeader ls), fun ls => quietly (readBlank ls),
   fun ls => quietly (readCode ls), fun ls => quietly (readParagraph ls),
   fun ls => quietly (readVerbatim ls)]

/-- The reader is tried on the lines: all readers before it find something else there. -/
def IsTried (reader : List Text → Run Taken) (lines : List Text) : Prop :=
  ∃ before after, readers = before ++ reader :: after ∧
    ∀ other ∈ before, (other lines).result = .error .noMatch

theorem readNext_eq_foldr (lines : List Text) :
    readNext lines = readers.foldr (fun reader next => orNext (reader lines) fun _ => next)
      (Run.fail (.unparsedLines lines)) := rfl

/-- What a reader takes when it is its turn is what the step takes. -/
theorem readNext_of_isTried {reader : List Text → Run Taken} (htried : IsTried reader lines)
    (h : (reader lines).result = .ok taken) : (readNext lines).result = .ok taken := by
  obtain ⟨before, after, hreaders, hbefore⟩ := htried
  rw [readNext_eq_foldr, hreaders]
  clear hreaders
  induction before with
  | nil =>
    rw [List.nil_append, List.foldr_cons]
    exact result_orNext_of_ok h
  | cons other before ih =>
    rw [List.cons_append, List.foldr_cons,
      result_orNext_of_noMatch (hbefore other List.mem_cons_self)]
    exact ih fun r hr => hbefore r (List.mem_cons_of_mem other hr)

/-! ## Reading all blocks -/

/-- One step of the reading of all blocks, from the lines before it to those after it. -/
def Step (lines rest : List Text) : Prop :=
  lines ≠ [] ∧ ∃ taken, (readNext lines).result = .ok taken ∧ taken.rest = rest

/-- Reading the lines gets to a point where the lines `now` are left. -/
def Reaches (lines now : List Text) : Prop := ReflTransGen Step lines now

theorem reaches_nil {now : List Text} : Reaches [] now ↔ now = [] := by
  constructor
  · intro h
    rcases ReflTransGen.cases_head h with heq | ⟨next, ⟨hne, -⟩, -⟩
    · exact heq.symm
    · exact absurd rfl hne
  · rintro rfl
    exact .refl

theorem reaches_of_error {e : Error} {now : List Text} (h : (readNext lines).result = .error e) :
    Reaches lines now ↔ now = lines := by
  constructor
  · intro hreaches
    rcases ReflTransGen.cases_head hreaches with heq | ⟨next, ⟨-, taken, hresult, -⟩, -⟩
    · exact heq.symm
    · cases h.symm.trans hresult
  · rintro rfl
    exact .refl

theorem reaches_of_ok {now : List Text} (hne : lines ≠ []) (h : (readNext lines).result = .ok taken) :
    Reaches lines now ↔ now = lines ∨ Reaches taken.rest now := by
  constructor
  · intro hreaches
    rcases ReflTransGen.cases_head hreaches with heq | ⟨next, ⟨-, taken', hresult, rfl⟩, hmore⟩
    · exact .inl heq.symm
    · obtain rfl := Except.ok.inj (h.symm.trans hresult)
      exact .inr hmore
  · rintro (rfl | hmore)
    · exact .refl
    · exact .head ⟨hne, taken, h, rfl⟩ hmore

theorem readAll_nil : readAll [] = pure ([], []) := by
  rw [readAll]
  rfl

theorem result_readAll_of_error {e : Error} (hne : lines ≠ [])
    (h : (readNext lines).result = .error e) : (readAll lines).result = .error e := by
  rw [readAll, if_neg (by simpa using hne), Run.result_bind, h]
  rfl

theorem result_readAll_of_ok (hne : lines ≠ []) (h : (readNext lines).result = .ok taken) :
    (readAll lines).result = (readAll taken.rest).result.map fun (blocks, warnings) =>
      (taken.blocks ++ blocks, taken.warnings ++ warnings) := by
  have hprogress := ((reads_of_readNext hne h).progress hne).2
  rw [readAll, if_neg (by simpa using hne), Run.result_bind, h]
  dsimp only [Except.bind]
  rw [if_pos hprogress, Run.result_bind]
  cases (readAll taken.rest).result with
  | error e => rfl
  | ok r => rfl

/-- The two parts of a success: what the first step takes, and what is read from the rest. -/
theorem readAll_eq_ok {r : List Block × List Text} (hne : lines ≠ [])
    (h : (readAll lines).result = .ok r) :
    ∃ taken more, (readNext lines).result = .ok taken ∧ (readAll taken.rest).result = .ok more ∧
      r = (taken.blocks ++ more.1, taken.warnings ++ more.2) := by
  cases hnext : (readNext lines).result with
  | error e => cases (result_readAll_of_error hne hnext).symm.trans h
  | ok taken =>
    rw [result_readAll_of_ok hne hnext] at h
    cases hmore : (readAll taken.rest).result with
    | error e =>
      rw [hmore] at h
      cases h
    | ok more =>
      rw [hmore] at h
      exact ⟨taken, more, rfl, hmore, (Except.ok.inj h).symm⟩

/-- What is true of the blocks of every step, and stays true when blocks follow one another, is true of
all blocks. -/
theorem readAll_collects {P : List Block → Prop} (hnil : P [])
    (happend : ∀ bs cs, P bs → P cs → P (bs ++ cs))
    (hstep : ∀ lines taken, Reads lines taken → P taken.blocks) {r : List Block × List Text}
    (h : (readAll lines).result = .ok r) : P r.1 := by
  induction hn : lines.length using Nat.strong_induction_on generalizing lines r with
  | _ n ih =>
    subst hn
    by_cases hne : lines = []
    · rw [hne, readAll_nil, Run.result_pure] at h
      rw [← Except.ok.inj h]
      exact hnil
    · obtain ⟨taken, more, hnext, hmore, rfl⟩ := readAll_eq_ok hne h
      have hreads := reads_of_readNext hne hnext
      exact happend _ _ (hstep lines taken hreads) (ih _ (hreads.progress hne).2 hmore rfl)

/-- **Reading fails exactly where one of its steps does.** -/
theorem readAll_eq_error_iff {e : Error} :
    (readAll lines).result = .error e ↔
      ∃ now, Reaches lines now ∧ now ≠ [] ∧ (readNext now).result = .error e := by
  -- What a step leaves is shorter, so what is known of it carries over.
  induction hn : lines.length using Nat.strong_induction_on generalizing lines with
  | _ n ih =>
    subst hn
    by_cases hne : lines = []
    · subst hne
      rw [readAll_nil, Run.result_pure]
      refine ⟨nofun, ?_⟩
      rintro ⟨now, hreaches, hnow, -⟩
      exact absurd (reaches_nil.mp hreaches) hnow
    · cases hnext : (readNext lines).result with
      | error e' =>
        rw [result_readAll_of_error hne hnext]
        constructor
        · intro h
          rw [Except.error.inj h] at hnext
          exact ⟨lines, .refl, hne, hnext⟩
        · rintro ⟨now, hreaches, -, hnow⟩
          rw [(reaches_of_error hnext).mp hreaches, hnext] at hnow
          rw [Except.error.inj hnow]
      | ok taken =>
        have hshorter := ((reads_of_readNext hne hnext).progress hne).2
        have hrest : (readAll lines).result = .error e ↔ (readAll taken.rest).result = .error e := by
          rw [result_readAll_of_ok hne hnext]
          cases (readAll taken.rest).result with
          | error e' => rfl
          | ok r => exact ⟨nofun, nofun⟩
        rw [hrest, ih _ hshorter rfl]
        constructor
        · rintro ⟨now, hreaches, hnow⟩
          exact ⟨now, (reaches_of_ok hne hnext).mpr (.inr hreaches), hnow⟩
        · rintro ⟨now, hreaches, hnow⟩
          rcases (reaches_of_ok hne hnext).mp hreaches with rfl | hreaches
          · cases hnext.symm.trans hnow.2
          · exact ⟨now, hreaches, hnow⟩

theorem Heads.ne_nil (h : Heads title below lines) : lines ≠ [] := by
  obtain ⟨line, underline, rfl, -⟩ := h
  exact List.cons_ne_nil _ _

/-- **Reading makes progress, and fails for two reasons only.**  Every reader that succeeds when it is
its turn leaves a shorter end of the lines.  Reading fails with the title of the header that it comes
to, if no section has that title, and for want of a line, if a section that defines names is all that
is left; otherwise it succeeds. -/
theorem readAll_progress (lines : List Text) :
    (∀ now reader taken, Reaches lines now → now ≠ [] → IsTried reader now →
      (reader now).result = .ok taken → taken.rest <:+ now ∧ taken.rest.length < now.length) ∧
    (∀ e, (readAll lines).result = .error e ↔
      (∃ now title below, Reaches lines now ∧ Heads title below now ∧ title ∉ knownTitles ∧
        e = .unknownTitle title) ∨
      (∃ now title, Reaches lines now ∧ Heads title [] now ∧ title ∈ definingTitles ∧
        e = .noLine)) ∧
    ((∃ r, (readAll lines).result = .ok r) ↔ ∀ now, Reaches lines now → Readable now) := by
  have herror (e : Error) : (readAll lines).result = .error e ↔
      (∃ now title below, Reaches lines now ∧ Heads title below now ∧ title ∉ knownTitles ∧
        e = .unknownTitle title) ∨
      (∃ now title, Reaches lines now ∧ Heads title [] now ∧ title ∈ definingTitles ∧
        e = .noLine) := by
    rw [readAll_eq_error_iff]
    constructor
    · rintro ⟨now, hreaches, hne, hnow⟩
      rcases (readNext_eq_error_iff hne).mp hnow with ⟨title, below, h⟩ | ⟨title, h⟩
      · exact .inl ⟨now, title, below, hreaches, h⟩
      · exact .inr ⟨now, title, hreaches, h⟩
    · rintro (⟨now, title, below, hreaches, h⟩ | ⟨now, title, hreaches, h⟩)
      · have hne := h.1.ne_nil
        exact ⟨now, hreaches, hne, (readNext_eq_error_iff hne).mpr (.inl ⟨title, below, h⟩)⟩
      · have hne := h.1.ne_nil
        exact ⟨now, hreaches, hne, (readNext_eq_error_iff hne).mpr (.inr ⟨title, h⟩)⟩
  refine ⟨?_, herror, ?_⟩
  · intro now reader taken _ hne htried hresult
    exact (reads_of_readNext hne (readNext_of_isTried htried hresult)).progress hne
  · constructor
    · rintro ⟨r, hok⟩ now hreaches title below hheads
      have hsucceeds (e : Error) (he : (readAll lines).result = .error e) : False := by
        cases hok.symm.trans he
      refine ⟨by_contra fun hunknown => ?_, ?_⟩
      · exact hsucceeds _ ((herror _).mpr
          (.inl ⟨now, title, below, hreaches, hheads, hunknown, rfl⟩))
      · rintro hdefining rfl
        exact hsucceeds _ ((herror _).mpr (.inr ⟨now, title, hreaches, hheads, hdefining, rfl⟩))
    · intro hreadable
      cases hresult : (readAll lines).result with
      | ok r => exact ⟨r, rfl⟩
      | error e =>
        rcases (herror e).mp hresult with ⟨now, title, below, hreaches, hheads, hunknown, -⟩ |
          ⟨now, title, hreaches, hheads, hdefining, -⟩
        · exact absurd (hreadable now hreaches title below hheads).1 hunknown
        · exact absurd rfl ((hreadable now hreaches title [] hheads).2 hdefining)

/-- A paragraph is read before the reading comes to a title that no section has. -/
theorem foreign_title_stops_reading :
    (readAll ["a", "", "Foo", "---"]).result = .error (.unknownTitle "Foo") ∧
    ∃ now below, Reaches ["a", "", "Foo", "---"] now ∧ Heads "Foo" below now ∧
      ("Foo" : Text) ∉ knownTitles := by
  have hresult : (readAll ["a", "", "Foo", "---"]).result = .error (.unknownTitle "Foo") :=
    Run.eq_error_of_error? (by decide +kernel)
  refine ⟨hresult, ?_⟩
  rcases ((readAll_progress _).2.1 _).mp hresult with
    ⟨now, title, below, hreaches, hheads, hunknown, heq⟩ | ⟨_, _, _, _, _, heq⟩
  · rw [← Error.unknownTitle.inj heq] at hheads hunknown
    exact ⟨now, below, hreaches, hheads, hunknown⟩
  · cases heq

end DocTidy.Block
