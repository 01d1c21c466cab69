import DocTidy.Block.Reader
import DocTidy.Proofs.Run
import DocTidy.Proofs.Text.Dedent

/-!
# Printing and reading definition lists

`Defines` says what a definition list is without any fuel, and the reader finds exactly that.  The
entries that are read have a form in which they can be told apart when they are printed: a first line
at the margin with a colon in it, and indented or blank lines below.  So a printed list is read as the
same entries, with no line left over.
-/

namespace DocTidy

open Text

/-! ## Cutting at a character -/

namespace Text

variable {t : Text} {c : Char}

theorem cutAt?_char_of_mem {front rest : Text} (hc : c ∉ front) :
    cutAt? [c] (front ++ c :: rest) = some (front, rest) := by
  induction front with
  | nil => simp [cutAt?, List.isPrefixOf]
  | cons a front ih =>
    rw [List.mem_cons, not_or] at hc
    have hne : (c == a) = false := beq_eq_false_iff_ne.mpr hc.1
    rw [List.cons_append, cutAt?, if_neg (by simp [List.isPrefixOf, hne]), ih hc.2]
    rfl

theorem cutAt?_char_of_not_mem (hc : c ∉ t) : cutAt? [c] t = none := by
  induction t with
  | nil => rfl
  | cons a t ih =>
    rw [List.mem_cons, not_or] at hc
    have hne : (c == a) = false := beq_eq_false_iff_ne.mpr hc.1
    rw [cutAt?, if_neg (by simp [List.isPrefixOf, hne]), ih hc.2]
    rfl

end Text

namespace Block

/-! ## What a definition list is -/

/-- The line belongs below an entry whose lines are indented by `indent`. -/
def belongsBelow (indent : Nat) (l : Text) : Bool := startsWith l (spaces indent) || isBlank l

/-- How deeply a line is indented. -/
def indentOf (l : Text) : Nat := (l.takeWhile isSpace).length

/-- The lines that belong below an entry, from the second line on, and the rest. -/
def splitBelow : List Text → List Text × List Text
  | [] => ([], [])
  | next :: rest =>
    if indentOf next = 0 then ([], next :: rest)
    else (next :: rest.takeWhile (belongsBelow (indentOf next)),
      rest.dropWhile (belongsBelow (indentOf next)))

/-- The entries that a first line and the lines below it stand for. -/
def entriesOf (line : Text) (below : List Text) : List Entry :=
  if (splitEntry line).1.contains ' ' && (splitEntry line).2.isEmpty && below.isEmpty then
    ((splitEntry line).1.splitOn ',').map fun name => ⟨strip name, [], []⟩
  else [⟨(splitEntry line).1, (splitEntry line).2, below⟩]

/-- The lines begin with a definition list of some entries, and leave some lines over. -/
inductive Defines : List Text → List Entry → List Text → Prop
  | nil : Defines [] [] []
  | blank {line rest es left} (hblank : isBlank line = true) (h : Defines rest es left) :
      Defines (line :: rest) es left
  | header {line rest} (hblank : isBlank line = false) (hheader : atHeader (line :: rest) = true) :
      Defines (line :: rest) [] (line :: rest)
  | entry {line rest es left} (hblank : isBlank line = false)
      (hheader : atHeader (line :: rest) = false) (h : Defines (splitBelow rest).2 es left) :
      Defines (line :: rest) (entriesOf line (splitBelow rest).1 ++ es) left

variable {l line : Text} {rest lines left : List Text} {es : List Entry}

theorem splitBelow_append (rest : List Text) :
    (splitBelow rest).1 ++ (splitBelow rest).2 = rest := by
  unfold splitBelow
  split
  · rfl
  · split
    · rfl
    · rw [List.cons_append, List.takeWhile_append_dropWhile]

theorem length_splitBelow_le (rest : List Text) : (splitBelow rest).2.length ≤ rest.length := by
  have happend := congrArg List.length (splitBelow_append rest)
  rw [List.length_append] at happend
  omega

theorem entryLines_cons (line : Text) (rest : List Text) :
    entryLines (line :: rest) = .ok (line, (splitBelow rest).1, (splitBelow rest).2) := by
  cases rest with
  | nil => rfl
  | cons next rest =>
    have hunfold : entryLines (line :: next :: rest) = if indentOf next = 0 then
        .ok (line, [], next :: rest)
      else .ok (line, next :: rest.takeWhile (belongsBelow (indentOf next)),
        rest.dropWhile (belongsBelow (indentOf next))) := rfl
    rw [hunfold, splitBelow]
    split
    · rfl
    · rfl

/-- Reading entries never fails where there is a line. -/
theorem result_readEntries (line : Text) (rest : List Text) :
    (readEntries (line :: rest)).result =
      .ok (entriesOf line (splitBelow rest).1, (splitBelow rest).2) := by
  unfold readEntries entriesOf
  rw [entryLines_cons, Run.result_bind, Run.result_ofExcept]
  dsimp only [Except.bind]
  split
  · rfl
  · split
    · rfl
    · rfl

theorem defines_nil_iff : Defines [] es left ↔ es = [] ∧ left = [] := by
  constructor
  · rintro ⟨⟩
    exact ⟨rfl, rfl⟩
  · rintro ⟨rfl, rfl⟩
    exact .nil

theorem defines_blank_iff (hblank : isBlank line = true) :
    Defines (line :: rest) es left ↔ Defines rest es left := by
  constructor
  · intro h
    cases h with
    | blank _ h => exact h
    | header hline => exact absurd (hblank.symm.trans hline) (by decide)
    | entry hline => exact absurd (hblank.symm.trans hline) (by decide)
  · exact .blank hblank

theorem defines_header_iff (hblank : isBlank line = false)
    (hheader : atHeader (line :: rest) = true) :
    Defines (line :: rest) es left ↔ es = [] ∧ left = line :: rest := by
  constructor
  · intro h
    cases h with
    | blank hline => exact absurd (hline.symm.trans hblank) (by decide)
    | header => exact ⟨rfl, rfl⟩
    | entry _ hline => exact absurd (hheader.symm.trans hline) (by decide)
  · rintro ⟨rfl, rfl⟩
    exact .header hblank hheader

theorem defines_entry_iff (hblank : isBlank line = false)
    (hheader : atHeader (line :: rest) = false) :
    Defines (line :: rest) es left ↔
      ∃ more, Defines (splitBelow rest).2 more left ∧
        es = entriesOf line (splitBelow rest).1 ++ more := by
  constructor
  · intro h
    cases h with
    | blank hline => exact absurd (hline.symm.trans hblank) (by decide)
    | header _ hline => exact absurd (hline.symm.trans hheader) (by decide)
    | entry _ _ h => exact ⟨_, h, rfl⟩
  · rintro ⟨more, h, rfl⟩
    exact .entry hblank hheader h

/-- The fuel does not matter as long as there is some for each line. -/
theorem readDefinitionsFrom_eq_ok_iff {fuel : Nat} (hfuel : lines.length ≤ fuel) :
    (readDefinitionsFrom fuel lines).result = .ok (es, left) ↔ Defines lines es left := by
  have hpair {es es' : List Entry} {left left' : List Text} :
      (.ok (es', left') : Except Error _) = .ok (es, left) ↔ es = es' ∧ left = left' := by
    simp [eq_comm]
  induction fuel generalizing lines es left with
  | zero =>
    obtain rfl : lines = [] := List.eq_nil_of_length_eq_zero (by omega)
    rw [readDefinitionsFrom, Run.result_pure, hpair, defines_nil_iff]
  | succ fuel ih =>
    cases lines with
    | nil => rw [readDefinitionsFrom, Run.result_pure, hpair, defines_nil_iff]
    | cons line rest =>
      have hrest : rest.length ≤ fuel := by simpa using hfuel
      have hbelow : (splitBelow rest).2.length ≤ fuel := (length_splitBelow_le rest).trans hrest
      rw [readDefinitionsFrom]
      -- The three kinds of line that the reader tells apart are those of the relation.
      by_cases hblank : isBlank line = true
      · rw [if_pos hblank]
        exact (ih hrest).trans (defines_blank_iff hblank).symm
      · rw [Bool.not_eq_true] at hblank
        by_cases hheader : atHeader (line :: rest) = true
        · rw [if_neg (by simp [hblank]), if_pos hheader, Run.result_pure, hpair,
            defines_header_iff hblank hheader]
        · rw [Bool.not_eq_true] at hheader
          rw [if_neg (by simp [hblank]), if_neg (by simp [hheader]), Run.result_bind,
            result_readEntries, defines_entry_iff hblank hheader]
          change (readDefinitionsFrom fuel (splitBelow rest).2 >>= fun more =>
            pure (entriesOf line (splitBelow rest).1 ++ more.1, more.2)).result = _ ↔ _
          rw [Run.result_bind_eq_ok]
          constructor
          · rintro ⟨⟨more, left⟩, hmore, heq⟩
            obtain ⟨rfl, rfl⟩ := Prod.mk.inj (Except.ok.inj heq)
            exact ⟨more, (ih hbelow).mp hmore, rfl⟩
          · rintro ⟨more, h, rfl⟩
            exact ⟨(more, left), (ih hbelow).mpr h, rfl⟩

/-- **What the reader of definition lists finds.** -/
theorem readDefinitions_eq_ok_iff :
    (readDefinitions lines).result = .ok (es, left) ↔ Defines lines es left :=
  readDefinitionsFrom_eq_ok_iff (Nat.le_refl lines.length)

/-- All lines begin with a definition list, if need be one without entries. -/
theorem exists_defines (lines : List Text) : ∃ es left, Defines lines es left := by
  induction hn : lines.length using Nat.strong_induction_on generalizing lines with
  | _ n ih =>
    cases lines with
    | nil => exact ⟨[], [], .nil⟩
    | cons line rest =>
      have hrest : rest.length < n := by
        rw [← hn, List.length_cons]
        omega
      by_cases hblank : isBlank line = true
      · obtain ⟨es, left, h⟩ := ih rest.length hrest rest rfl
        exact ⟨es, left, .blank hblank h⟩
      · rw [Bool.not_eq_true] at hblank
        by_cases hheader : atHeader (line :: rest) = true
        · exact ⟨[], line :: rest, .header hblank hheader⟩
        · rw [Bool.not_eq_true] at hheader
          have hbelow : (splitBelow rest).2.length < n := by
            have := length_splitBelow_le rest
            omega
          obtain ⟨es, left, h⟩ := ih _ hbelow (splitBelow rest).2 rfl
          exact ⟨_, left, .entry hblank hheader h⟩

/-! ## Entries that were read -/

/-- Lines that may stand below an entry: none, or a first indented line and lines that are indented
as deeply, or blank. -/
def AreBelow : List Text → Prop
  | [] => True
  | next :: ls => 0 < indentOf next ∧ ∀ l ∈ ls, belongsBelow (indentOf next) l = true

/-- What is true of every entry that was read: its parts can be found again in its text. -/
structure WasRead (e : Entry) : Prop where
  head_stripped : strip e.head = e.head
  type_stripped : strip e.type = e.type
  no_colon : ':' ∉ e.head
  below : AreBelow e.rest
  /-- A name with spaces that stands alone has no comma at which it could be divided. -/
  undivided : e.head.contains ' ' = true → e.type = [] → e.rest = [] → ',' ∉ e.head

theorem areBelow_splitBelow (rest : List Text) : AreBelow (splitBelow rest).1 := by
  unfold splitBelow
  split
  · trivial
  · split
    · trivial
    · rename_i hindent
      refine ⟨Nat.pos_of_ne_zero hindent, fun l hl => ?_⟩
      exact List.mem_takeWhile_imp hl

theorem splitEntry_cases (line : Text) :
    (∃ head type, line = head ++ ':' :: type ∧ ':' ∉ head ∧
      splitEntry line = (strip head, strip type)) ∨
    ':' ∉ line ∧ splitEntry line = (strip line, []) := by
  by_cases hmem : ':' ∈ line
  · obtain ⟨head, type, hline, hhead⟩ := List.eq_append_cons_of_mem hmem
    refine .inl ⟨head, type, hline, hhead, ?_⟩
    have hcut : cutAt? (":" : String).toList line = some (head, type) := by
      rw [hline]
      exact cutAt?_char_of_mem hhead
    rw [splitEntry, hcut]
  · refine .inr ⟨hmem, ?_⟩
    have hcut : cutAt? (":" : String).toList line = none := cutAt?_char_of_not_mem hmem
    rw [splitEntry, hcut]

theorem splitEntry_spec (line : Text) :
    strip (splitEntry line).1 = (splitEntry line).1 ∧
      strip (splitEntry line).2 = (splitEntry line).2 ∧ ':' ∉ (splitEntry line).1 := by
  obtain ⟨head, type, -, hcolon, hsplit⟩ | ⟨hcolon, hsplit⟩ := splitEntry_cases line
  · rw [hsplit]
    exact ⟨strip_strip head, strip_strip type, not_mem_strip hcolon⟩
  · rw [hsplit]
    exact ⟨strip_strip line, rfl, not_mem_strip hcolon⟩

theorem wasRead_entriesOf (line : Text) {below : List Text} (hbelow : AreBelow below) :
    ∀ e ∈ entriesOf line below, WasRead e := by
  obtain ⟨hhead, htype, hcolon⟩ := splitEntry_spec line
  unfold entriesOf
  split
  · -- Several names: each is what stands between two commas.
    intro e he
    obtain ⟨name, hname, rfl⟩ := List.mem_map.mp he
    have hname_colon : ':' ∉ name := fun hmem => hcolon (mem_of_mem_splitOn _ name hname hmem)
    have hname_comma : ',' ∉ name := not_mem_of_mem_splitOn _ name hname
    exact ⟨strip_strip name, rfl, not_mem_strip hname_colon, trivial,
      fun _ _ _ => not_mem_strip hname_comma⟩
  · rename_i hsingle
    intro e he
    obtain rfl := List.mem_singleton.mp he
    refine ⟨hhead, htype, hcolon, hbelow, fun hspace hnil hbelow_nil => ?_⟩
    refine absurd ?_ hsingle
    dsimp only at hspace hnil hbelow_nil
    rw [hspace, hnil, hbelow_nil]
    rfl

theorem Defines.wasRead (h : Defines lines es left) : ∀ e ∈ es, WasRead e := by
  induction h with
  | nil => simp
  | blank _ _ ih => exact ih
  | header => simp
  | @entry line rest es left _ _ _ ih =>
    intro e he
    obtain he | he := List.mem_append.mp he
    · exact wasRead_entriesOf line (areBelow_splitBelow rest) e he
    · exact ih e he

/-- No newline gets into an entry from lines without any. -/
theorem not_mem_entriesOf {c : Char} {below : List Text} (hline : c ∉ line)
    (hbelow : ∀ l ∈ below, c ∉ l) :
    ∀ e ∈ entriesOf line below, c ∉ e.head ∧ c ∉ e.type ∧ ∀ l ∈ e.rest, c ∉ l := by
  have hparts : c ∉ (splitEntry line).1 ∧ c ∉ (splitEntry line).2 := by
    obtain ⟨head, type, rfl, -, hsplit⟩ | ⟨-, hsplit⟩ := splitEntry_cases line
    · rw [List.mem_append, List.mem_cons, not_or, not_or] at hline
      rw [hsplit]
      exact ⟨not_mem_strip hline.1, not_mem_strip hline.2.2⟩
    · rw [hsplit]
      exact ⟨not_mem_strip hline, List.not_mem_nil⟩
  unfold entriesOf
  split
  · intro e he
    obtain ⟨name, hname, rfl⟩ := List.mem_map.mp he
    have hname_char : c ∉ name := fun hmem => hparts.1 (mem_of_mem_splitOn _ name hname hmem)
    exact ⟨not_mem_strip hname_char, List.not_mem_nil, by simp⟩
  · intro e he
    obtain rfl := List.mem_singleton.mp he
    exact ⟨hparts.1, hparts.2, hbelow⟩

theorem Defines.not_mem {c : Char} (h : Defines lines es left) (hlines : ∀ l ∈ lines, c ∉ l) :
    ∀ e ∈ es, c ∉ e.head ∧ c ∉ e.type ∧ ∀ l ∈ e.rest, c ∉ l := by
  induction h with
  | nil => simp
  | blank _ _ ih => exact ih fun l hl => hlines l (List.mem_cons_of_mem _ hl)
  | header => simp
  | @entry line rest es left _ _ _ ih =>
    have hrest : ∀ l ∈ (splitBelow rest).1 ++ (splitBelow rest).2, c ∉ l := by
      rw [splitBelow_append]
      exact fun l hl => hlines l (List.mem_cons_of_mem _ hl)
    intro e he
    obtain he | he := List.mem_append.mp he
    · exact not_mem_entriesOf (hlines line List.mem_cons_self)
        (fun l hl => hrest l (List.mem_append_left _ hl)) e he
    · exact ih (fun l hl => hrest l (List.mem_append_right _ hl)) e he

/-! ## Printed entries -/

/-- The first line of a printed entry. -/
def firstLine (e : Entry) : Text := e.head ++ ':' :: e.type

/-- The lines of a printed entry. -/
def printedLines (e : Entry) : List Text := firstLine e :: e.rest

/-- The line begins with text. -/
def AtMargin (l : Text) : Prop := ∃ c r, l = c :: r ∧ isSpace c = false

theorem AtMargin.indentOf (h : AtMargin l) : indentOf l = 0 := by
  obtain ⟨c, r, rfl, hc⟩ := h
  simp [Block.indentOf, hc]

theorem AtMargin.isBlank (h : AtMargin l) : isBlank l = false := by
  obtain ⟨c, r, rfl, hc⟩ := h
  simp [hc]

theorem AtMargin.belongsBelow (h : AtMargin l) {indent : Nat} (hindent : 0 < indent) :
    belongsBelow indent l = false := by
  have hblank := h.isBlank
  obtain ⟨c, r, rfl, hc⟩ := h
  obtain ⟨n, rfl⟩ : ∃ n, indent = n + 1 := ⟨indent - 1, by omega⟩
  have hne : (' ' == c) = false := by
    rw [beq_eq_false_iff_ne]
    rintro rfl
    exact absurd hc (by decide)
  simp [Block.belongsBelow, hblank, startsWith, spaces, List.replicate_succ, List.isPrefixOf, hne]

theorem atMargin_firstLine {e : Entry} (he : WasRead e) : AtMargin (firstLine e) := by
  unfold firstLine
  cases hhead : e.head with
  | nil => exact ⟨':', e.type, rfl, by decide⟩
  | cons c r =>
    refine ⟨c, r ++ ':' :: e.type, rfl, ?_⟩
    exact isSpace_of_strip_eq_cons (he.head_stripped.trans hhead)

/-- Lines below an entry end where a line begins at the margin. -/
theorem splitBelow_append_of_areBelow {below after : List Text} (hbelow : AreBelow below)
    (hafter : ∀ l, after.head? = some l → AtMargin l) :
    splitBelow (below ++ after) = (below, after) := by
  cases below with
  | nil =>
    cases after with
    | nil => rfl
    | cons l after =>
      have hl : AtMargin l := hafter l rfl
      rw [List.nil_append, splitBelow, if_pos hl.indentOf]
  | cons next ls =>
    obtain ⟨hindent, hls⟩ := hbelow
    rw [List.cons_append, splitBelow, if_neg (by omega)]
    have htake : (ls ++ after).takeWhile (belongsBelow (indentOf next)) = ls := by
      rw [List.takeWhile_append_of_pos hls]
      cases after with
      | nil => simp
      | cons l after =>
        rw [List.takeWhile_cons_of_neg (by simp [(hafter l rfl).belongsBelow hindent]),
          List.append_nil]
    have hdrop : (ls ++ after).dropWhile (belongsBelow (indentOf next)) = after := by
      rw [List.dropWhile_append_of_pos hls]
      cases after with
      | nil => rfl
      | cons l after =>
        rw [List.dropWhile_cons_of_neg (by simp [(hafter l rfl).belongsBelow hindent])]
    rw [htake, hdrop]

theorem splitEntry_firstLine {e : Entry} (he : WasRead e) :
    splitEntry (firstLine e) = (e.head, e.type) := by
  have hcut : cutAt? (":" : String).toList (firstLine e) = some (e.head, e.type) :=
    cutAt?_char_of_mem he.no_colon
  rw [splitEntry, hcut]
  dsimp only
  rw [he.head_stripped, he.type_stripped]

theorem entriesOf_firstLine {e : Entry} (he : WasRead e) : entriesOf (firstLine e) e.rest = [e] := by
  unfold entriesOf
  rw [splitEntry_firstLine he]
  dsimp only
  split
  · rename_i hlone
    -- A name that stands alone is not divided, since it has no comma.
    simp only [Bool.and_eq_true, List.isEmpty_iff] at hlone
    obtain ⟨⟨hspace, htype⟩, hrest⟩ := hlone
    rw [List.splitOn_eq_singleton (he.undivided hspace htype hrest), List.map_singleton,
      he.head_stripped, ← htype, ← hrest]
  · rfl

/-- A line that holds anything but the characters of underlines is none. -/
theorem isUnderline_eq_false {length : Nat} {c : Char} (hmem : c ∈ l)
    (hc : c ≠ '-' ∧ c ≠ '=' ∧ c ≠ '~' ∧ c ≠ '\x60') : isUnderline length l = false := by
  cases l with
  | nil => rfl
  | cons a r =>
    rw [← Bool.not_eq_true, isUnderline]
    simp only [Bool.and_eq_true, Bool.or_eq_true, beq_iff_eq, List.all_eq_true]
    rintro ⟨⟨ha, hall⟩, -⟩
    obtain rfl : c = a := hall c hmem
    simp [hc] at ha

theorem isUnderline_of_indented {length : Nat} (hindent : 0 < indentOf l) :
    isUnderline length l = false := by
  cases l with
  | nil => rfl
  | cons c r =>
    have hspace : isSpace c = true := by
      by_contra hc
      simp [indentOf, hc] at hindent
    refine isUnderline_eq_false List.mem_cons_self ⟨?_, ?_, ?_, ?_⟩
    all_goals
      rintro rfl
      exact absurd hspace (by decide)

/-- Below the first line of a printed entry there is no underline: the next line is indented, or it is
the first line of another entry. -/
theorem atHeader_printedLines {e : Entry} (he : WasRead e) {after : List Text}
    (hafter : ∀ l, after.head? = some l → ':' ∈ l) :
    atHeader (printedLines e ++ after) = false := by
  have hbelow := he.below
  unfold printedLines
  cases hrest : e.rest with
  | cons next ls =>
    rw [hrest] at hbelow
    exact isUnderline_of_indented hbelow.1
  | nil =>
    cases after with
    | nil => rfl
    | cons l after => exact isUnderline_eq_false (hafter l rfl) (by decide)

theorem head?_printed (es : List Entry) (hes : ∀ e ∈ es, WasRead e) :
    ∀ l, (es.flatMap printedLines).head? = some l → AtMargin l ∧ ':' ∈ l := by
  intro l hl
  cases es with
  | nil => cases hl
  | cons e es =>
    obtain rfl : firstLine e = l := Option.some.inj hl
    exact ⟨atMargin_firstLine (hes e List.mem_cons_self), by simp [firstLine]⟩

/-- **Printed entries are read again.** -/
theorem defines_printedLines (hes : ∀ e ∈ es, WasRead e) :
    Defines (es.flatMap printedLines) es [] := by
  induction es with
  | nil => exact .nil
  | cons e es ih =>
    have he : WasRead e := hes e List.mem_cons_self
    have hrest : ∀ e ∈ es, WasRead e := fun e' he' => hes e' (List.mem_cons_of_mem _ he')
    -- What follows the lines of this entry begins at the margin, so none of it is taken in.
    have hmargin := head?_printed es hrest
    have hsplit : splitBelow (e.rest ++ es.flatMap printedLines) =
        (e.rest, es.flatMap printedLines) :=
      splitBelow_append_of_areBelow he.below fun l hl => (hmargin l hl).1
    have hheader : atHeader (firstLine e :: (e.rest ++ es.flatMap printedLines)) = false :=
      atHeader_printedLines he fun l hl => (hmargin l hl).2
    rw [List.flatMap_cons, printedLines, List.cons_append]
    refine (defines_entry_iff (atMargin_firstLine he).isBlank hheader).mpr ⟨es, ?_, ?_⟩
    · rw [hsplit]
      exact ih hrest
    · rw [hsplit, entriesOf_firstLine he]
      rfl

/-! ## The text of a definition list -/

/-- The text of an entry that was read is that of its lines. -/
theorem toText_eq_unlines {e : Entry} (he : WasRead e) : e.toText = unlines (printedLines e) := by
  have hbelow := he.below
  unfold Entry.toText printedLines firstLine
  cases hrest : e.rest with
  | nil => simp [unlines]
  | cons next ls =>
    rw [hrest] at hbelow
    -- The first line below is indented, so there is something to print.
    have hne : next ≠ [] := by
      rintro rfl
      exact absurd hbelow.1 (by decide)
    have hprinted : unlines (next :: ls) ≠ [] := by
      cases ls with
      | nil => simpa [unlines] using hne
      | cons l ls => simp [unlines, List.intercalate_cons_cons]
    have hjoined : unlines ((e.head ++ ':' :: e.type) :: next :: ls) =
        (e.head ++ ':' :: e.type) ++ '\n' :: unlines (next :: ls) := by
      simp [unlines, List.intercalate_cons_cons]
    rw [hjoined]
    simp [hprinted]

theorem splitOn_toText (hes : ∀ e ∈ es, WasRead e) (hne : es ≠ [])
    (hnewline : ∀ e ∈ es, '\n' ∉ e.head ∧ '\n' ∉ e.type ∧ ∀ l ∈ e.rest, '\n' ∉ l) :
    (Block.definitions es).toText.splitOn '\n' = es.flatMap printedLines := by
  have htext : (Block.definitions es).toText = unlines (es.flatMap printedLines) := by
    have hne : ∀ e ∈ es, printedLines e ≠ [] := fun e _ => List.cons_ne_nil _ _
    rw [unlines, ← intercalate_flatMap hne, Block.toText, unlines]
    congr 1
    exact List.map_congr_left fun e he => toText_eq_unlines (hes e he)
  have hlines : ∀ l ∈ es.flatMap printedLines, '\n' ∉ l := by
    intro l hl
    obtain ⟨e, he, hl⟩ := List.mem_flatMap.mp hl
    obtain ⟨hhead, htype, hrest⟩ := hnewline e he
    obtain rfl | hl := List.mem_cons.mp hl
    · simp [firstLine, hhead, htype]
    · exact hrest l hl
  obtain ⟨e, es', rfl⟩ := List.exists_cons_of_ne_nil hne
  rw [htext]
  exact List.splitOn_intercalate '\n' hlines (by simp [printedLines])

/-- **A definition list survives printing.**  Whatever lines a definition list is read from, its text
is read as the same entries, and nothing is left over. -/
theorem readDefinitions_toText (hlines : ∀ l ∈ lines, '\n' ∉ l) :
    ∃ es left, (readDefinitions lines).result = .ok (es, left) ∧
      (readDefinitions ((Block.definitions es).toText.splitOn '\n')).result = .ok (es, []) := by
  obtain ⟨es, left, h⟩ := exists_defines lines
  refine ⟨es, left, readDefinitions_eq_ok_iff.mpr h, readDefinitions_eq_ok_iff.mpr ?_⟩
  by_cases hes : es = []
  · -- Without entries the text is empty, and that is one blank line.
    subst hes
    exact .blank rfl .nil
  · rw [splitOn_toText h.wasRead hes (h.not_mem hlines)]
    exact defines_printedLines h.wasRead

/-- Two names on one line, and a definition with a blank line in it, before a header. -/
theorem named_and_defined_survive :
    ∃ es left, (readDefinitions ["f g, h", "x : int", "  n", "", "  m", "Notes", "-----"]).result =
        .ok (es, left) ∧
      es = [⟨"f g", [], []⟩, ⟨"h", [], []⟩, ⟨"x", "int", ["  n", [], "  m"]⟩] ∧
      left = ["Notes".toList, "-----".toList] ∧
      (Block.definitions es).toText = "f g:\nh:\nx:int\n  n\n\n  m" ∧
      (readDefinitions ((Block.definitions es).toText.splitOn '\n')).result = .ok (es, []) := by
  have hlines : ∀ l ∈ (["f g, h", "x : int", "  n", "", "  m", "Notes", "-----"] : List Text),
      '\n' ∉ l := by decide
  obtain ⟨es, left, hread, hagain⟩ := readDefinitions_toText hlines
  have hcomputed : (readDefinitions
      ["f g, h", "x : int", "  n", "", "  m", "Notes", "-----"]).result.toOption =
        some ([⟨"f g", [], []⟩, ⟨"h", [], []⟩, ⟨"x", "int", ["  n", [], "  m"]⟩],
          ["Notes".toList, "-----".toList]) := by decide +kernel
  obtain ⟨rfl, rfl⟩ := Prod.mk.inj (Except.ok.inj (hread.symm.trans (Run.eq_ok_of_toOption hcomputed)))
  exact ⟨_, _, hread, rfl, rfl, by decide, hagain⟩

end Block
end DocTidy
