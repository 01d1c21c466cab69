import DocTidy.Text.Indent
import Mathlib.Data.List.DropRight

/-!
# Indenting and stripping

`indentFrom` is `indent` character by character.  In this form it is plain that white space at the
ends of a text is not touched, so that stripping and indenting can change places, and that a text
can be told from the indented one.
-/

namespace DocTidy.Text

variable {m s t t' u w : Text} {c : Char} {atStart : Bool}

/-! ## White space -/

theorem isSpace_of_isLineBreak (h : isLineBreak c = true) : isSpace c = true := by
  unfold isLineBreak at h
  unfold isSpace
  simp only [Bool.or_eq_true, Bool.and_eq_true, decide_eq_true_eq, beq_iff_eq] at h ⊢
  omega

theorem isLineBreak_eq_false (h : isSpace c = false) : isLineBreak c = false := by
  rw [← Bool.not_eq_true] at h ⊢
  exact fun hbreak => h (isSpace_of_isLineBreak hbreak)

@[simp] theorem isBlank_nil : isBlank [] = true := rfl

@[simp] theorem isBlank_cons (c : Char) (t : Text) : isBlank (c :: t) = (isSpace c && isBlank t) := rfl

@[simp] theorem isBlank_append (s t : Text) : isBlank (s ++ t) = (isBlank s && isBlank t) :=
  List.all_append

@[simp] theorem isBlank_spaces (n : Nat) : isBlank (spaces n) = true := by
  unfold isBlank spaces
  rw [List.all_replicate]
  split <;> rfl

theorem stripLeft_eq_nil_iff : stripLeft t = [] ↔ isBlank t = true := by
  unfold stripLeft isBlank
  rw [List.dropWhile_eq_nil_iff, List.all_eq_true]

theorem stripRight_eq_nil_iff : stripRight t = [] ↔ isBlank t = true := by
  unfold isBlank
  rw [List.all_eq_true]
  exact List.rdropWhile_eq_nil_iff

theorem isBlank_stripLeft (t : Text) : isBlank (stripLeft t) = isBlank t := by
  induction t with
  | nil => rfl
  | cons c r ih =>
    unfold stripLeft at ih ⊢
    cases hc : isSpace c with
    | true => rw [List.dropWhile_cons_of_pos hc, ih, isBlank_cons, hc, Bool.true_and]
    | false => rw [List.dropWhile_cons_of_neg (by simp [hc])]

theorem isBlank_stripRight (t : Text) : isBlank (stripRight t) = isBlank t := by
  unfold isBlank stripRight dropEndWhile
  rw [List.all_reverse, ← isBlank, ← stripLeft, isBlank_stripLeft, isBlank, List.all_reverse]

theorem stripLeft_append (ht : isBlank t = false) (s : Text) :
    stripLeft (t ++ s) = stripLeft t ++ s := by
  unfold stripLeft
  rw [List.dropWhile_append, if_neg]
  rw [List.isEmpty_iff]
  intro hnil
  rw [stripLeft_eq_nil_iff.mp hnil] at ht
  cases ht

theorem stripLeft_blank_append (hw : isBlank w = true) (t : Text) :
    stripLeft (w ++ t) = stripLeft t :=
  List.dropWhile_append_of_pos (List.all_eq_true.mp hw)

theorem stripRight_append_blank (hw : isBlank w = true) (t : Text) :
    stripRight (t ++ w) = stripRight t := by
  unfold stripRight dropEndWhile
  rw [List.reverse_append, List.dropWhile_append_of_pos]
  intro c hc
  exact List.all_eq_true.mp hw c (List.mem_reverse.mp hc)

theorem stripRight_append (ht : isBlank t = false) (s : Text) :
    stripRight (s ++ t) = s ++ stripRight t := by
  unfold stripRight dropEndWhile
  rw [List.reverse_append, List.dropWhile_append, if_neg, List.reverse_append,
    List.reverse_reverse]
  rw [List.isEmpty_iff, List.dropWhile_eq_nil_iff]
  intro hall
  rw [isBlank, List.all_eq_true.mpr fun c hc => hall c (List.mem_reverse.mpr hc)] at ht
  cases ht

theorem stripRight_eq_self_iff : stripRight t = t ↔ ∀ c, t.getLast? = some c → isSpace c = false := by
  refine List.rdropWhile_eq_self_iff.trans ⟨fun h c hc => ?_, fun h hne => ?_⟩
  · obtain ⟨hne, rfl⟩ := List.mem_getLast?_eq_getLast hc
    simpa using h hne
  · simpa using h _ (List.getLast?_eq_some_getLast hne)

/-- A text is what stripping leaves, and white space behind it. -/
theorem exists_eq_stripRight_append (t : Text) : ∃ w, isBlank w = true ∧ t = stripRight t ++ w := by
  refine ⟨t.rtakeWhile isSpace, ?_, List.rdropWhile_append_rtakeWhile.symm⟩
  exact List.all_eq_true.mpr fun c hc => List.mem_rtakeWhile_imp hc

/-! ## Indenting -/

/-- The first line is blank. -/
def startsBlank (t : Text) : Bool := isBlank (t.takeWhile fun c => !isLineBreak c)

/-- `indent`, character by character; `atStart` says that a line begins here. -/
def indentFrom (m : Text) (atStart : Bool) : Text → Text
  | [] => []
  | c :: r =>
    (if atStart && !startsBlank (c :: r) then m else []) ++ c :: indentFrom m (isLineBreak c) r

theorem startsBlank_cons_break (h : isLineBreak c = true) (t : Text) :
    startsBlank (c :: t) = true := by
  simp [startsBlank, h]

theorem startsBlank_cons (h : isLineBreak c = false) (t : Text) :
    startsBlank (c :: t) = (isSpace c && startsBlank t) := by
  simp [startsBlank, h]

theorem startsBlank_append_blank (hw : isBlank w = true) (t : Text) :
    startsBlank (t ++ w) = startsBlank t := by
  induction t with
  | nil =>
    have hsub := List.takeWhile_subset (l := w) fun c => !isLineBreak c
    exact List.all_eq_true.mpr fun c hc => List.all_eq_true.mp hw c (hsub hc)
  | cons c r ih =>
    rw [List.cons_append]
    cases hc : isLineBreak c with
    | true => rw [startsBlank_cons_break hc, startsBlank_cons_break hc]
    | false => rw [startsBlank_cons hc, startsBlank_cons hc, ih]

/-- One line with its boundary, indented. -/
def indentLine (m : Text) (l : Text × Text) : Text :=
  if isBlank (l.1 ++ l.2) then l.1 ++ l.2 else m ++ (l.1 ++ l.2)

/-- Lines with their boundaries, indented, except that the first may be the rest of a line. -/
def indentEnded (m : Text) (atStart : Bool) : List (Text × Text) → Text
  | [] => []
  | l :: more => (if atStart then indentLine m l else l.1 ++ l.2) ++ (more.map (indentLine m)).flatten

theorem indent_eq_indentEnded (m t : Text) : indent m t = indentEnded m true (endedLines t) := by
  unfold indent splitLinesKeep
  rw [List.map_map]
  cases endedLines t <;> rfl

/-- A line break ends a line of white space at most. -/
theorem indentLine_break (m : Text) {ending : Text} (h : isBlank ending = true) :
    indentLine m ([], ending) = ending := by
  rw [indentLine, List.nil_append, if_pos h]

theorem endedLines_head (t : Text) {line ending : Text} {more : List (Text × Text)}
    (h : endedLines t = (line, ending) :: more) :
    isBlank (line ++ ending) = startsBlank t := by
  fun_induction endedLines t generalizing line ending more with
  | case1 => cases h
  | case2 r ih =>
    obtain ⟨⟨rfl, rfl⟩, -⟩ : ([] = line ∧ ['\r', '\n'] = ending) ∧ _ := by simpa using h
    rw [startsBlank_cons_break (by decide)]
    decide
  | case3 c r _ hbreak ih =>
    obtain ⟨⟨rfl, rfl⟩, -⟩ : ([] = line ∧ [c] = ending) ∧ _ := by simpa using h
    rw [startsBlank_cons_break hbreak]
    simp [isSpace_of_isLineBreak hbreak]
  | case4 c r _ hbreak hnil ih =>
    obtain ⟨⟨rfl, rfl⟩, -⟩ : ([c] = line ∧ [] = ending) ∧ _ := by simpa using h
    obtain rfl : r = [] := by
      rw [← flatten_splitLinesKeep r, splitLinesKeep, hnil]
      rfl
    rw [startsBlank_cons (by simpa using hbreak)]
    rfl
  | case5 c r _ hbreak line' ending' more' heq ih =>
    obtain ⟨⟨rfl, rfl⟩, -⟩ : (c :: line' = line ∧ ending' = ending) ∧ _ := by simpa using h
    rw [startsBlank_cons (by simpa using hbreak), ← ih heq]
    rfl

/-- Indenting line by line and character by character is the same. -/
theorem indentEnded_endedLines (m : Text) (atStart : Bool) (t : Text) :
    indentEnded m atStart (endedLines t) = indentFrom m atStart t := by
  fun_induction endedLines t generalizing atStart with
  | case1 => rfl
  | case2 r ih =>
    have hline : indentLine m ([], ['\r', '\n']) = ['\r', '\n'] := indentLine_break m (by decide)
    have hrest : ((endedLines r).map (indentLine m)).flatten = indentFrom m true r := by
      rw [← ih true]
      cases endedLines r <;> rfl
    rw [indentEnded, hline, hrest]
    cases atStart <;> rfl
  | case3 c r _ hbreak ih =>
    have hline : indentLine m ([], [c]) = [c] :=
      indentLine_break m (by simp [isSpace_of_isLineBreak hbreak])
    have hrest : ((endedLines r).map (indentLine m)).flatten = indentFrom m true r := by
      rw [← ih true]
      cases endedLines r <;> rfl
    rw [indentEnded, hline, hrest, indentFrom, startsBlank_cons_break hbreak, hbreak]
    cases atStart <;> rfl
  | case4 c r _ hbreak hnil ih =>
    obtain rfl : r = [] := by
      rw [← flatten_splitLinesKeep r, splitLinesKeep, hnil]
      rfl
    rw [indentFrom, startsBlank_cons (by simpa using hbreak)]
    unfold indentEnded indentLine startsBlank
    cases atStart <;> cases hspace : isSpace c <;> simp [hspace, indentFrom]
  | case5 c r _ hbreak line ending more heq ih =>
    -- The character joins a line that goes on, which is not indented a second time.
    have hrest : line ++ ending ++ (more.map (indentLine m)).flatten = indentFrom m false r := by
      rw [← ih false, heq]
      rfl
    have hblank : isBlank (c :: line ++ ending) = startsBlank (c :: r) := by
      rw [startsBlank_cons (by simpa using hbreak), ← endedLines_head r heq]
      rfl
    rw [indentFrom, Bool.eq_false_iff.mpr hbreak, ← hrest, ← hblank]
    unfold indentEnded indentLine
    cases atStart <;> cases hb : isBlank (c :: line ++ ending) <;> simp_all

theorem indent_eq_indentFrom (m t : Text) : indent m t = indentFrom m true t := by
  rw [indent_eq_indentEnded, indentEnded_endedLines]

/-! ## Indenting and stripping change places -/

theorem indentFrom_blank (hw : isBlank w = true) : indentFrom m atStart w = w := by
  induction w generalizing atStart with
  | nil => rfl
  | cons c w ih =>
    obtain ⟨-, hw'⟩ : isSpace c = true ∧ isBlank w = true := by simpa using hw
    have hstart : startsBlank (c :: w) = true := startsBlank_append_blank hw []
    rw [indentFrom, hstart, ih hw']
    cases atStart <;> rfl

theorem indentFrom_append_blank (hw : isBlank w = true) (t : Text) :
    indentFrom m atStart (t ++ w) = indentFrom m atStart t ++ w := by
  induction t generalizing atStart with
  | nil => exact indentFrom_blank hw
  | cons c r ih =>
    have hstart : startsBlank (c :: r ++ w) = startsBlank (c :: r) := startsBlank_append_blank hw _
    rw [List.cons_append] at hstart ⊢
    rw [indentFrom, indentFrom, hstart, ih, List.append_assoc]
    rfl

theorem startsBlank_append_newline (s t : Text) : startsBlank (s ++ '\n' :: t) = startsBlank s := by
  induction s with
  | nil => rfl
  | cons c r ih =>
    rw [List.cons_append]
    cases hc : isLineBreak c with
    | true => rw [startsBlank_cons_break hc, startsBlank_cons_break hc]
    | false => rw [startsBlank_cons hc, startsBlank_cons hc, ih]

/-- The text behind a newline is indented by itself. -/
theorem indentFrom_append_newline (s t : Text) :
    indentFrom m atStart (s ++ '\n' :: t) = indentFrom m atStart s ++ '\n' :: indentFrom m true t := by
  induction s generalizing atStart with
  | nil => cases atStart <;> rfl
  | cons c r ih =>
    have hstart : startsBlank (c :: r ++ '\n' :: t) = startsBlank (c :: r) :=
      startsBlank_append_newline (c :: r) t
    rw [List.cons_append] at hstart ⊢
    rw [indentFrom, indentFrom, hstart, ih, List.append_assoc]
    rfl

theorem indentFrom_getLast? (t : Text) : (indentFrom m atStart t).getLast? = t.getLast? := by
  induction t generalizing atStart with
  | nil => rfl
  | cons c r ih =>
    rw [indentFrom, List.getLast?_append_cons, List.getLast?_cons, List.getLast?_cons, ih]

theorem stripRight_indentFrom (t : Text) :
    stripRight (indentFrom m atStart t) = indentFrom m atStart (stripRight t) := by
  obtain ⟨w, hw, ht⟩ := exists_eq_stripRight_append t
  have hstripped : stripRight (indentFrom m atStart (stripRight t)) =
      indentFrom m atStart (stripRight t) := by
    rw [stripRight_eq_self_iff, indentFrom_getLast?, ← stripRight_eq_self_iff]
    exact List.rdropWhile_idempotent isSpace t
  calc
    stripRight (indentFrom m atStart t)
      = stripRight (indentFrom m atStart (stripRight t ++ w)) := by rw [← ht]
    _ = stripRight (indentFrom m atStart (stripRight t)) := by
      rw [indentFrom_append_blank hw, stripRight_append_blank hw]
    _ = indentFrom m atStart (stripRight t) := hstripped

theorem stripLeft_indentFrom (hm : isBlank m = true) (t : Text) :
    stripLeft (indentFrom m atStart t) = indentFrom m false (stripLeft t) := by
  induction t generalizing atStart with
  | nil => rfl
  | cons c r ih =>
    have hmargin : isBlank (if atStart && !startsBlank (c :: r) then m else []) = true := by
      split <;> simp [hm]
    rw [indentFrom, stripLeft_blank_append hmargin]
    unfold stripLeft
    cases hc : isSpace c with
    | true => rw [List.dropWhile_cons_of_pos hc, List.dropWhile_cons_of_pos hc]; exact ih
    | false =>
      rw [List.dropWhile_cons_of_neg (by simp [hc]), List.dropWhile_cons_of_neg (by simp [hc]),
        indentFrom, isLineBreak_eq_false hc]
      rfl

theorem startsBlank_spaces_append (n : Nat) (t : Text) :
    startsBlank (spaces n ++ t) = startsBlank t := by
  induction n with
  | zero => rfl
  | succ n ih => exact (startsBlank_cons (by decide) _).trans ih

theorem startsBlank_indentFrom (n : Nat) (t : Text) :
    startsBlank (indentFrom (spaces n) atStart t) = startsBlank t := by
  induction t generalizing atStart with
  | nil => rfl
  | cons c r ih =>
    have hmargin (u : Text) : startsBlank
        ((if atStart && !startsBlank (c :: r) then spaces n else []) ++ u) = startsBlank u := by
      split
      · exact startsBlank_spaces_append n u
      · rfl
    rw [indentFrom, hmargin]
    cases hc : isLineBreak c with
    | true => rw [startsBlank_cons_break hc, startsBlank_cons_break hc]
    | false => rw [startsBlank_cons hc, startsBlank_cons hc, ih]

/-- The rest of a line stays as it is. -/
theorem indentFrom_rest (ht : ∀ c ∈ t, isLineBreak c = false) : indentFrom m false t = t := by
  induction t with
  | nil => rfl
  | cons c r ih =>
    rw [indentFrom, ht c List.mem_cons_self, ih fun c' hc' => ht c' (List.mem_cons_of_mem _ hc')]
    rfl

/-- A single line gets the margin in front of it, or nothing. -/
theorem indentFrom_line (ht : ∀ c ∈ t, isLineBreak c = false) :
    ∃ w, (w = m ∨ w = []) ∧ indentFrom m true t = w ++ t := by
  cases t with
  | nil => exact ⟨[], .inr rfl, rfl⟩
  | cons c r =>
    rw [indentFrom, ht c List.mem_cons_self,
      indentFrom_rest fun c' hc' => ht c' (List.mem_cons_of_mem _ hc')]
    refine ⟨_, ?_, rfl⟩
    split
    · exact .inl rfl
    · exact .inr rfl

/-- A text can be told from the indented one. -/
theorem indentFrom_injective {n : Nat}
    (h : indentFrom (spaces n) atStart t = indentFrom (spaces n) atStart t') : t = t' := by
  induction t generalizing atStart t' with
  | nil =>
    cases t' with
    | nil => rfl
    | cons c' r' => simp [indentFrom] at h
  | cons c r ih =>
    cases t' with
    | nil => simp [indentFrom] at h
    | cons c' r' =>
      -- Whether the first line is blank shows in the result, so both have a margin or neither.
      have hblank : startsBlank (c :: r) = startsBlank (c' :: r') := by
        rw [← startsBlank_indentFrom n (c :: r), h, startsBlank_indentFrom]
      rw [indentFrom, indentFrom, hblank, List.append_cancel_left_eq, List.cons.injEq] at h
      obtain ⟨rfl, hrest⟩ := h
      rw [ih hrest]

end DocTidy.Text
