import DocTidy.IndentBlock
import DocTidy.Proofs.Run
import DocTidy.Proofs.Text.Indent

/-!
# Putting indented blocks together again

The indentation of a block is cut off its lines, so putting it back should give the lines that the blocks
came from.  It does, but for one case.  A line that is indented less than the block above it, and is not
at the margin, opens a block with its indentation still in front.  So the lines come back exactly if no
line is indented less than the first indented line behind the last one at the margin.
-/

namespace DocTidy.IndentBlock

open Text

variable {line t w : Text} {ls ks fs gs : List Text} {level : Nat}

/-! ## Lines and their indentation -/

/-- How deeply a line is indented, unless it is blank. -/
def depth? (line : Text) : Option Nat :=
  if isBlank line then none else some (line.takeWhile isSpace).length

/-- The line with spaces for its indentation.  Blank lines are all alike. -/
def spaced (line : Text) : Text :=
  if isBlank line then [] else spaces (line.takeWhile isSpace).length ++ stripLeft line

/-- The line with `indent` spaces in front, unless it is blank. -/
def reindent (indent : Nat) (line : Text) : Text :=
  if isBlank line then line else spaces indent ++ line

/-- The lines of a block with its indentation put back. -/
def restored (b : IndentBlock) : List Text := b.lines.map (reindent b.indent)

theorem depth?_eq_some_iff :
    depth? line = some level ↔ isBlank line = false ∧ (line.takeWhile isSpace).length = level := by
  unfold depth?
  cases isBlank line <;> simp

theorem isBlank_of_depth? (h : depth? line = none) : isBlank line = true := by
  unfold depth? at h
  cases hblank : isBlank line with
  | true => rfl
  | false =>
    rw [hblank] at h
    cases h

theorem length_takeWhile_eq_iff :
    (line.takeWhile isSpace).length = line.length ↔ isBlank line = true := by
  rw [isBlank, List.all_eq_true, ← List.takeWhile_eq_self_iff]
  exact ⟨(List.takeWhile_prefix isSpace).eq_of_length, congrArg List.length⟩

theorem depth?_of_indentOf {o : Option Nat} (h : indentOf line = .ok o) : depth? line = o := by
  unfold indentOf at h
  unfold depth?
  simp only [length_takeWhile_eq_iff] at h
  cases hblank : isBlank line with
  | true =>
    rw [if_pos hblank] at h
    exact Except.ok.inj h
  | false =>
    rw [hblank, if_neg Bool.false_ne_true] at h
    split at h
    · cases h
    · exact Except.ok.inj h

theorem spaced_of_isBlank (h : isBlank line = true) : spaced line = [] := if_pos h

theorem spaced_append (hw : isBlank w = true) (ht : isBlank t = false) :
    spaced (w ++ t) = spaces w.length ++ spaced t := by
  have hblank : isBlank (w ++ t) = false := by rw [isBlank_append, hw, ht, Bool.true_and]
  have hindent : (w ++ t).takeWhile isSpace = w ++ t.takeWhile isSpace :=
    List.takeWhile_append_of_pos (List.all_eq_true.mp hw)
  have hspaces : spaces (w.length + (t.takeWhile isSpace).length) =
      spaces w.length ++ spaces (t.takeWhile isSpace).length := List.replicate_add ..
  rw [spaced, spaced, hblank, ht, if_neg Bool.false_ne_true, if_neg Bool.false_ne_true, hindent,
    List.length_append, hspaces, stripLeft_blank_append hw, List.append_assoc]

/-- An indentation that is cut off and put back as spaces. -/
theorem spaced_reindent_drop (h : depth? line = some level) {n : Nat} (hn : n ≤ level) :
    spaced (reindent n (line.drop n)) = spaced line := by
  obtain ⟨hline, rfl⟩ := depth?_eq_some_iff.mp h
  have hlength : (line.take n).length = n :=
    List.length_take_of_le (hn.trans (List.takeWhile_prefix isSpace).length_le)
  have hfront : isBlank (line.take n) = true := by
    have hindent : line.take n <+: line.takeWhile isSpace := List.prefix_of_prefix_length_le
      (List.take_prefix n line) (List.takeWhile_prefix isSpace) (hlength.trans_le hn)
    rw [isBlank, List.all_eq_true]
    exact fun c hc => List.mem_takeWhile_imp (hindent.mem hc)
  have hback : isBlank (line.drop n) = false := by
    rw [← List.take_append_drop n line, isBlank_append, hfront, Bool.true_and] at hline
    exact hline
  have hwidth : (spaces n).length = n := List.length_replicate
  calc
    spaced (reindent n (line.drop n)) = spaced (spaces n ++ line.drop n) := by
      rw [reindent, hback, if_neg Bool.false_ne_true]
    _ = spaces n ++ spaced (line.drop n) := by
      rw [spaced_append (isBlank_spaces n) hback, hwidth]
    _ = spaced (line.take n ++ line.drop n) := by rw [spaced_append hfront hback, hlength]
    _ = spaced line := by rw [List.take_append_drop]

/-- A line that is added to a block, cut as deeply as the block is indented. -/
theorem map_spaced_restored (h : depth? line = some level) (b : IndentBlock) (hb : b.indent ≤ level) :
    (restored { b with lines := b.lines ++ [line.drop b.indent] }).map spaced =
      (b.restored ++ [line]).map spaced := by
  unfold restored
  dsimp only
  rw [List.map_append, List.map_append, List.map_append, List.map_singleton, List.map_singleton,
    List.map_singleton, spaced_reindent_drop h hb]

/-! ## The same lines -/

/-- The same lines, in the same order.  An indentation counts by its width, blank lines are all alike, and
behind the last line there are as many blank ones as need be. -/
def SameLines (ls ks : List Text) : Prop :=
  ∀ i, (ls.map spaced).getD i [] = (ks.map spaced).getD i []

theorem sameLines_congr (hls : ls.map spaced = fs.map spaced) (hks : ks.map spaced = gs.map spaced) :
    SameLines ls ks ↔ SameLines fs gs := by
  rw [SameLines, SameLines, hls, hks]

theorem sameLines_cons {l k : Text} :
    SameLines (l :: ls) (k :: ks) ↔ spaced l = spaced k ∧ SameLines ls ks := by
  constructor
  · intro h
    exact ⟨h 0, fun i => h (i + 1)⟩
  · rintro ⟨hfirst, hrest⟩ i
    cases i with
    | zero => exact hfirst
    | succ i => exact hrest i

theorem sameLines_append_left (fs : List Text) :
    SameLines (fs ++ ls) (fs ++ ks) ↔ SameLines ls ks := by
  induction fs with
  | nil => rfl
  | cons f fs ih =>
    rw [List.cons_append, List.cons_append, sameLines_cons, ih]
    exact and_iff_right rfl

theorem sameLines_nil_replicate (n : Nat) : SameLines [] (List.replicate n []) := by
  intro i
  rw [List.map_replicate, List.getD, List.getD, List.getElem?_replicate]
  split <;> rfl

/-! ## One line -/

/-- The indentation of the block that a line is put into, where the last one is indented by `depth`.  None
is right for a line that is indented less without being at the margin. -/
def nextDepth (depth level : Nat) : Option Nat :=
  if level = 0 then some 0
  -- The first indented line behind one at the margin says how deeply its block is indented.
  else if depth = 0 then some level
  else if depth ≤ level then some depth
  else none

/-- The block with the blank lines that were met since its last line. -/
def filled (begun : IndentBlock) (blanks : Nat) : IndentBlock :=
  { begun with lines := begun.lines ++ List.replicate blanks [] }

theorem filled_zero (begun : IndentBlock) : filled begun 0 = begun := by
  rw [filled, List.replicate_zero, List.append_nil]

theorem restored_filled (begun : IndentBlock) (blanks : Nat) :
    (filled begun blanks).restored = begun.restored ++ List.replicate blanks [] := by
  unfold restored filled
  rw [List.map_append, List.map_replicate]
  rfl

/-- The block with a line more, which is cut as deeply as the block is indented. -/
def extended (begun : IndentBlock) (blanks : Nat) (line : Text) : IndentBlock :=
  { filled begun blanks with lines := (filled begun blanks).lines ++ [line.drop begun.indent] }

/-- **What a line does.**  It goes on with the block or opens the next one, and is restored with it; or it
is indented too little, and opens a block uncut. -/
theorem gather_cases (begun : IndentBlock) (blanks : Nat) (h : depth? line = some level)
    (rest : List (Option Nat × Text)) :
    (∃ closed next, nextDepth begun.indent level = some next.indent ∧
      gather begun blanks ((some level, line) :: rest) = closed ++ gather next 0 rest ∧
      (closed.flatMap restored ++ next.restored).map spaced =
        ((filled begun blanks).restored ++ [line]).map spaced) ∨
    (nextDepth begun.indent level = none ∧ 0 < level ∧
      gather begun blanks ((some level, line) :: rest) =
        [filled begun blanks] ++ gather ⟨level, [line]⟩ 0 rest) := by
  have hopens : ([filled begun blanks].flatMap restored ++
      restored ⟨level, [line.drop level]⟩).map spaced =
        ((filled begun blanks).restored ++ [line]).map spaced := by
    have hline := map_spaced_restored h ⟨level, []⟩ (Nat.le_refl level)
    rw [List.flatMap_singleton, List.map_append, List.map_append]
    exact congrArg _ hline
  have hgoes_on (hindent : begun.indent ≤ level) :
      (extended begun blanks line).restored.map spaced =
        ((filled begun blanks).restored ++ [line]).map spaced :=
    map_spaced_restored h (filled begun blanks) hindent
  rw [gather, ← filled, ← extended, nextDepth]
  obtain rfl | hlevel := Nat.eq_zero_or_pos level
  · -- A line at the margin has nothing to cut.  It opens a block behind blank lines and behind an
    -- indented block, and goes on with a block at the margin.
    refine .inl ?_
    simp only [Nat.lt_irrefl, and_false, and_true, ↓reduceIte]
    by_cases hblanks : 0 < blanks
    · rw [if_pos hblanks]
      exact ⟨_, _, rfl, rfl, hopens⟩
    · rw [if_neg hblanks]
      by_cases hindent : begun.indent ≤ 0
      · rw [if_pos hindent]
        exact ⟨[], extended begun blanks line, congrArg some (Nat.le_zero.mp hindent).symm, rfl,
          hgoes_on hindent⟩
      · rw [if_neg hindent]
        exact ⟨_, _, rfl, rfl, hopens⟩
  · -- An indented line opens a block behind one at the margin.  Otherwise it goes on with the block, or
    -- it is the line that is left uncut.
    have hne : level ≠ 0 := Nat.ne_of_gt hlevel
    simp only [hne, hlevel, and_false, and_true, ↓reduceIte]
    by_cases hmargin : begun.indent = 0
    · rw [if_pos hmargin, if_pos hmargin]
      exact .inl ⟨_, _, rfl, rfl, hopens⟩
    · rw [if_neg hmargin, if_neg hmargin]
      by_cases hindent : begun.indent ≤ level
      · rw [if_pos hindent, if_pos hindent]
        exact .inl ⟨[], extended begun blanks line, rfl, rfl, hgoes_on hindent⟩
      · rw [if_neg hindent, if_neg hindent]
        exact .inr ⟨rfl, trivial, rfl⟩

/-! ## All lines -/

/-- Each line is indented at least as deeply as the block that it is put into. -/
def Steady (depth : Nat) : List Text → Prop
  | [] => True
  | line :: ls =>
    match depth? line with
    | none => Steady depth ls
    | some level =>
      match nextDepth depth level with
      | none => False
      | some next => Steady next ls

/-- The lines with their indentations. -/
def levelled (ls : List Text) : List (Option Nat × Text) := ls.map fun l => (depth? l, l)

/-- The lines of the block that is begun come first. -/
theorem exists_gather_eq (begun : IndentBlock) (blanks : Nat) (items : List (Option Nat × Text)) :
    ∃ more, (gather begun blanks items).flatMap restored = begun.restored ++ more := by
  have hfilled (begun : IndentBlock) (blanks : Nat) (more : List Text) :
      ∃ more', (filled begun blanks).restored ++ more = begun.restored ++ more' :=
    ⟨List.replicate blanks [] ++ more, by rw [restored_filled, List.append_assoc]⟩
  induction items generalizing begun blanks with
  | nil => exact ⟨[], rfl⟩
  | cons item items ih =>
    obtain ⟨level?, line⟩ := item
    cases level? with
    | none => exact ih begun (blanks + 1)
    | some level =>
      rw [gather, ← filled, ← extended]
      split
      · exact hfilled begun blanks _
      · split
        · exact hfilled begun blanks _
        · split
          · obtain ⟨more, hmore⟩ := ih (extended begun blanks line) 0
            rw [hmore, extended, restored, List.map_append, List.append_assoc]
            exact hfilled begun blanks _
          · exact hfilled begun blanks _

/-- A line that opens a block uncut gets its indentation twice. -/
theorem not_sameLines_uncut (h : depth? line = some level) (hlevel : 0 < level)
    (items : List (Option Nat × Text)) :
    ¬SameLines ((gather ⟨level, [line]⟩ 0 items).flatMap restored) (line :: ls) := by
  obtain ⟨hline, -⟩ := depth?_eq_some_iff.mp h
  obtain ⟨more, hmore⟩ := exists_gather_eq ⟨level, [line]⟩ 0 items
  have hwidth : (spaces level).length = level := List.length_replicate
  rw [hmore]
  intro hsame
  have hfirst : spaced (reindent level line) = spaced line := (sameLines_cons.mp hsame).1
  rw [reindent, hline, if_neg Bool.false_ne_true, spaced_append (isBlank_spaces level) hline,
    hwidth] at hfirst
  have hlength := congrArg List.length hfirst
  rw [List.length_append, hwidth] at hlength
  omega

/-- **When the blocks restore the lines.** -/
theorem sameLines_gather_iff (begun : IndentBlock) (blanks : Nat) (ls : List Text) :
    SameLines ((gather begun blanks (levelled ls)).flatMap restored)
      ((filled begun blanks).restored ++ ls) ↔ Steady begun.indent ls := by
  induction ls generalizing begun blanks with
  | nil =>
    have hblanks : SameLines (begun.restored ++ []) (begun.restored ++ List.replicate blanks []) :=
      (sameLines_append_left _).mpr (sameLines_nil_replicate blanks)
    rw [restored_filled, List.append_nil]
    exact iff_of_true hblanks trivial
  | cons line ls ih =>
    rw [levelled, List.map_cons, ← levelled, Steady]
    cases hline : depth? line with
    | none =>
      -- One more blank line goes with the block, if another line follows.
      have hblank : spaced line = spaced [] := spaced_of_isBlank (isBlank_of_depth? hline)
      rw [gather, ← ih]
      refine sameLines_congr rfl ?_
      rw [restored_filled, restored_filled, List.replicate_succ']
      simp [hblank]
    | some level =>
      dsimp only
      obtain ⟨closed, next, hnext, hgather, hlines⟩ | ⟨hnext, hlevel, hgather⟩ :=
        gather_cases begun blanks hline (levelled ls)
      · have hrestored : ((filled begun blanks).restored ++ line :: ls).map spaced =
            (closed.flatMap restored ++ ((filled next 0).restored ++ ls)).map spaced := by
          rw [← List.singleton_append, ← List.append_assoc, List.map_append, ← hlines,
            ← List.map_append, List.append_assoc, filled_zero]
        -- What is closed stands on both sides, and the rest is a matter of the next block.
        rw [hnext, hgather, List.flatMap_append, sameLines_congr rfl hrestored,
          sameLines_append_left, ih]
      · rw [hnext, hgather, List.flatMap_append, List.flatMap_singleton, sameLines_append_left]
        exact iff_of_false (not_sameLines_uncut hline hlevel _) not_false

/-! ## Runs of indented lines -/

def isAtMargin (line : Text) : Bool := depth? line == some 0

/-- None of the indentations is less than the first one. -/
def isLed : List Nat → Bool
  | [] => true
  | first :: others => others.all fun depth => first ≤ depth

/-- No line between two lines at the margin is indented less than the first indented line there. -/
def ShallowestFirst (ls : List Text) : Prop :=
  ∀ run ∈ ls.splitOnP isAtMargin, isLed (run.filterMap depth?) = true

instance (ls : List Text) : Decidable (ShallowestFirst ls) :=
  inferInstanceAs (Decidable (∀ run ∈ ls.splitOnP isAtMargin, isLed (run.filterMap depth?) = true))

/-- Lines stay steady from the indentation of a block on: up to the margin none is indented less, and the
runs behind that are led by their first lines. -/
theorem steady_iff (depth : Nat) {run : List Text} {runs : List (List Text)}
    (h : ls.splitOnP isAtMargin = run :: runs) :
    Steady depth ls ↔
      isLed (if depth = 0 then run.filterMap depth? else depth :: run.filterMap depth?) = true ∧
        ∀ run ∈ runs, isLed (run.filterMap depth?) = true := by
  induction ls generalizing depth run runs with
  | nil =>
    obtain ⟨rfl, rfl⟩ := List.cons.inj h
    refine iff_of_true trivial ⟨?_, by simp⟩
    split <;> rfl
  | cons line ls ih =>
    obtain ⟨next, later, hnext⟩ := List.exists_cons_of_ne_nil (List.splitOnP_ne_nil isAtMargin ls)
    rw [List.splitOnP_cons_eq_if_modifyHead, hnext] at h
    rw [Steady]
    cases hline : depth? line with
    | none =>
      rw [isAtMargin, hline] at h
      obtain ⟨rfl, rfl⟩ := List.cons.inj h
      rw [List.filterMap_cons_none hline]
      exact ih depth hnext
    | some level =>
      dsimp only
      cases level with
      | zero =>
        -- The run ends here, and a new one begins behind the line.
        rw [isAtMargin, hline] at h
        obtain ⟨rfl, rfl⟩ := List.cons.inj h
        have hfirst : isLed (if depth = 0 then [] else [depth]) = true := by split <;> rfl
        rw [List.forall_mem_cons]
        exact (ih 0 hnext).trans (and_iff_right hfirst).symm
      | succ level =>
        rw [isAtMargin, hline] at h
        obtain ⟨rfl, rfl⟩ := List.cons.inj h
        rw [List.filterMap_cons_some hline, nextDepth, if_neg (Nat.succ_ne_zero level)]
        by_cases hdepth : depth = 0
        · rw [if_pos hdepth, if_pos hdepth]
          exact ih (level + 1) hnext
        · have hrest := ih depth hnext
          have hled (ns : List Nat) : isLed (depth :: (level + 1) :: ns) =
              (decide (depth ≤ level + 1) && isLed (depth :: ns)) := rfl
          rw [if_neg hdepth] at hrest
          rw [if_neg hdepth, if_neg hdepth, hled]
          by_cases hle : depth ≤ level + 1
          · rw [if_pos hle, decide_eq_true hle, Bool.true_and]
            exact hrest
          · rw [if_neg hle, decide_eq_false hle, Bool.false_and]
            exact iff_of_false not_false fun hboth => Bool.false_ne_true hboth.1

theorem shallowestFirst_iff_steady : ShallowestFirst ls ↔ Steady 0 ls := by
  obtain ⟨run, runs, h⟩ := List.exists_cons_of_ne_nil (List.splitOnP_ne_nil isAtMargin ls)
  rw [steady_iff 0 h, ShallowestFirst, h, List.forall_mem_cons]
  rfl

/-! ## Blocks of lines -/

theorem zip_indents {indents : List (Option Nat)} (h : indentsOf ls = .ok indents) :
    indents.zip ls = levelled ls := by
  rw [indentsOf, Run.except_mapM_eq_ok] at h
  induction h with
  | nil => rfl
  | cons hline _ ih => rw [List.zip_cons_cons, ih, ← depth?_of_indentOf hline, levelled, levelled,
      List.map_cons]

theorem ofLines_eq_ok {blocks : List IndentBlock} (h : ofLines ls = .ok blocks) :
    ∃ line rest, ls = line :: rest ∧ (depth? line).getD 0 = 0 ∧
      blocks = gather ⟨0, [line]⟩ 0 (levelled rest) := by
  obtain ⟨indents, hindents, h⟩ := Run.except_bind_eq_ok.mp h
  rw [zip_indents hindents] at h
  cases ls with
  | nil => cases h
  | cons line rest =>
    rw [levelled, List.map_cons, ← levelled] at h
    dsimp only at h
    by_cases hfirst : (depth? line).getD 0 = 0
    · rw [if_pos hfirst] at h
      exact ⟨line, rest, rfl, hfirst, (Except.ok.inj h).symm⟩
    · rw [if_neg hfirst] at h
      cases h

/-- **When indented blocks can be put together again.**  With the indentations put back, the lines of the
blocks are the lines that the blocks were made of, exactly if no line is indented less than the first
indented line behind the last one at the margin. -/
theorem ofLines_restores_iff {blocks : List IndentBlock} (h : ofLines ls = .ok blocks) :
    SameLines (blocks.flatMap restored) ls ↔ ShallowestFirst ls := by
  obtain ⟨line, rest, rfl, hfirst, rfl⟩ := ofLines_eq_ok h
  have hsteady : Steady 0 (line :: rest) ↔ Steady 0 rest := by
    rw [Steady]
    cases hdepth : depth? line with
    | none => rfl
    | some level =>
      rw [hdepth] at hfirst
      obtain rfl : level = 0 := hfirst
      rfl
  have hline : restored ⟨0, [line]⟩ = [line] := by
    change [if isBlank line then line else line] = [line]
    rw [ite_self]
  rw [shallowestFirst_iff_steady, hsteady, ← sameLines_gather_iff ⟨0, [line]⟩ 0 rest, filled_zero,
    hline, List.singleton_append]

/-- Indented lines with a blank line between them, lines at the margin, and a blank line at the end. -/
def nestedLines : List Text := ["a", "  b", "   c", "", "  d", "e", "", "f", "    g", ""]

def nestedBlocks : List IndentBlock :=
  [⟨0, ["a"]⟩, ⟨2, ["b", " c", [], "d"]⟩, ⟨0, ["e", []]⟩, ⟨0, ["f"]⟩, ⟨4, ["g"]⟩]

theorem nestedLines_restored :
    ofLines nestedLines = .ok nestedBlocks ∧ ShallowestFirst nestedLines ∧
      SameLines (nestedBlocks.flatMap restored) nestedLines := by
  have hblocks : ofLines nestedLines = .ok nestedBlocks := Run.eq_ok_of_toOption (by decide)
  have hfirst : ShallowestFirst nestedLines := by decide
  exact ⟨hblocks, hfirst, (ofLines_restores_iff hblocks).mpr hfirst⟩

/-- A line that is less indented than the one above is restored with twice its indentation. -/
theorem dedented_line_not_restored :
    ofLines ["a", "    b", "  c"] = .ok [⟨0, ["a"]⟩, ⟨4, ["b"]⟩, ⟨2, ["  c"]⟩] ∧
      ¬SameLines ([⟨0, ["a"]⟩, ⟨4, ["b"]⟩, ⟨2, ["  c"]⟩].flatMap restored) ["a", "    b", "  c"] :=
  ⟨Run.eq_ok_of_toOption (by decide), fun h => absurd (h 2) (by decide)⟩

end DocTidy.IndentBlock
