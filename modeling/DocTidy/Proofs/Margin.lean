import DocTidy.Proofs.Text.Margin
import DocTidy.Renewal

/-!
# Docstrings without their margin

A dedented docstring has no margin left to lose, and how far its lines stood to the right cannot be told
from it: `dedentDocstring_canonical`.  The two ways to dedent a docstring differ in the blank lines that
they leave at its end, and in nothing else: `dedenters_agree`.
-/

namespace DocTidy

open Text

variable {l m t : Text} {ls ks : List Text}

namespace Text

/-! ## Laws of dedenting -/

/-- A dedented line that is not empty holds more than a margin. -/
theorem emptyIfMargin_of_mem_dedentLines (hl : l ∈ dedentLines ls) : emptyIfMargin l = l := by
  obtain ⟨k, hk, rfl⟩ := List.mem_map.mp hl
  by_cases hnil : k = []
  · rw [hnil, List.drop_nil]
    rfl
  · obtain ⟨line, -, rfl⟩ := List.mem_map.mp hk
    refine if_neg ?_
    rw [all_isMargin_drop (length_sharedMargin_le hk hnil), ← emptyIfMargin_eq_nil_iff,
      emptyIfMargin_emptyIfMargin]
    exact hnil

theorem dedentLines_dedentLines (ls : List Text) : dedentLines (dedentLines ls) = dedentLines ls := by
  have hcleared : (dedentLines ls).map emptyIfMargin = dedentLines ls :=
    (List.map_congr_left fun _ hl => emptyIfMargin_of_mem_dedentLines hl).trans (List.map_id _)
  rw [dedentLines_of_cleared hcleared, sharedMargin_dedentLines]
  exact List.map_id _

/-- Empty lines at the end have no say in the margin. -/
theorem dedentLines_append_empty (hks : ∀ k ∈ ks, k = []) (ls : List Text) :
    dedentLines (ls ++ ks) = dedentLines ls ++ ks := by
  have hkept {f : Text → Text} (hf : f [] = []) : ks.map f = ks :=
    (List.map_congr_left fun k hk => by rw [hks k hk, hf]; rfl).trans (List.map_id ks)
  have hshared : sharedMargin (ls.map emptyIfMargin ++ ks) = sharedMargin (ls.map emptyIfMargin) := by
    rw [sharedMargin_eq, margins_append, margins_eq_nil hks, List.append_nil, sharedMargin_eq]
  unfold dedentLines
  dsimp only
  rw [List.map_append, hkept (f := emptyIfMargin) rfl, hshared, List.map_append, hkept List.drop_nil]

/-- A line with a margin, unless it is empty. -/
def withMargin (m l : Text) : Text := if l = [] then [] else m ++ l

theorem withMargin_eq_nil_iff : withMargin m l = [] ↔ l = [] := by
  unfold withMargin
  split
  · rename_i hnil
    exact iff_of_true rfl hnil
  · rename_i hne
    exact iff_of_false (fun h => hne (List.append_eq_nil_iff.mp h).2) hne

theorem emptyIfMargin_append (hm : m.all isMargin = true) (l : Text) :
    emptyIfMargin (m ++ l) = withMargin m (emptyIfMargin l) := by
  by_cases hall : l.all isMargin = true
  · rw [emptyIfMargin_eq_nil_iff.mpr hall, emptyIfMargin_eq_nil_iff.mpr]
    · rfl
    · rw [List.all_append, hm, hall]
      rfl
  · have hne : l ≠ [] := by
      rintro rfl
      exact hall rfl
    have hboth : ¬ (m ++ l).all isMargin = true := by
      rw [List.all_append, hm, Bool.true_and]
      exact hall
    rw [emptyIfMargin, if_neg hboth, emptyIfMargin, if_neg hall, withMargin, if_neg hne]

theorem sharedMargin_map_withMargin (hm : m.all isMargin = true) (hls : ∃ l ∈ ls, l ≠ []) :
    sharedMargin (ls.map (withMargin m)) = m ++ sharedMargin ls := by
  rw [sharedMargin_eq, margins_map (g := (m ++ ·)) fun l _ => withMargin_eq_nil_iff]
  · refine commonMargin_map_append m ?_
    obtain ⟨l, hl, hne⟩ := hls
    exact List.ne_nil_of_mem (List.mem_map_of_mem (List.mem_filter.mpr ⟨hl, by simpa using hne⟩))
  · intro l _ hne
    rw [withMargin, if_neg hne, List.takeWhile_append_of_pos (List.all_eq_true.mp hm)]

/-- **A margin in front of all lines goes** when they are dedented. -/
theorem dedentLines_map_append (hm : m.all isMargin = true) (ls : List Text) :
    dedentLines (ls.map (m ++ ·)) = dedentLines ls := by
  have hcleared : (ls.map (m ++ ·)).map emptyIfMargin = (ls.map emptyIfMargin).map (withMargin m) := by
    rw [List.map_map, List.map_map]
    exact List.map_congr_left fun l _ => emptyIfMargin_append hm l
  unfold dedentLines
  dsimp only
  rw [hcleared, List.map_map]
  generalize ls.map emptyIfMargin = ks
  refine List.map_congr_left fun k hk => ?_
  show (withMargin m k).drop _ = k.drop _
  by_cases hnil : k = []
  · rw [withMargin_eq_nil_iff.mpr hnil, hnil, List.drop_nil, List.drop_nil]
  · rw [sharedMargin_map_withMargin hm ⟨k, hk, hnil⟩, withMargin, if_neg hnil, List.length_append,
      List.drop_length_add_append]

/-- A single line loses all of its margin. -/
theorem dedent_eq_dropWhile (hl : '\n' ∉ l) : dedent l = l.dropWhile isMargin := by
  have hline : [dedent l] = [(emptyIfMargin l).drop (sharedMargin [emptyIfMargin l]).length] :=
    (dedentLines_singleton hl).symm
  rw [List.singleton_inj.mp hline]
  by_cases hall : l.all isMargin = true
  · rw [emptyIfMargin_eq_nil_iff.mpr hall, List.drop_nil, eq_comm, List.dropWhile_eq_nil_iff]
    exact List.all_eq_true.mp hall
  · have hne : l.isEmpty = false := by
      cases l with
      | nil => exact absurd rfl hall
      | cons c r => rfl
    have hshared : sharedMargin [l] = l.takeWhile isMargin := by simp [sharedMargin, hne, commonMargin]
    rw [emptyIfMargin, if_neg hall, hshared]
    nth_rewrite 2 [← List.takeWhile_append_dropWhile (p := isMargin) (l := l)]
    exact List.drop_left

end Text

/-! ## The lines of a dedented docstring -/

theorem exists_lines (ht : '\n' ∈ t) : ∃ l ls, t.splitOn '\n' = l :: ls ∧ ls ≠ [] := by
  obtain ⟨l, ls, hlines⟩ := List.exists_cons_of_ne_nil (List.splitOn_ne_nil '\n' t)
  refine ⟨l, ls, hlines, ?_⟩
  rintro rfl
  have htext : ['\n'].intercalate (t.splitOn '\n') = t := List.intercalate_splitOn '\n'
  rw [hlines, List.intercalate_singleton] at htext
  exact not_mem_of_mem_splitOn t l (hlines ▸ List.mem_cons_self) (htext ▸ ht)

/-- Newlines that separate no two lines can only be one, at the end. -/
theorem eq_of_length_splitLines_lt (hshort : (splitLines t).length < 2)
    (hlines : t.splitOn '\n' = l :: ls) (hls : ls ≠ []) : ls = [[]] := by
  have hfree : ∀ k ∈ ls, '\n' ∉ k := fun k hk =>
    not_mem_of_mem_splitOn t k (hlines ▸ List.mem_cons_of_mem l hk)
  have htext : l ++ '\n' :: unlines ls = t := by
    have hjoined : ['\n'].intercalate (t.splitOn '\n') = t := List.intercalate_splitOn '\n'
    rw [hlines, List.intercalate_cons_of_ne_nil hls, List.append_assoc] at hjoined
    exact hjoined
  have hfirst : 0 < (endedLines (l ++ ['\n'])).length := by
    rw [List.length_pos_iff, Ne, endedLines_eq_nil_iff]
    simp
  rw [← htext, splitLines, endedLines_append_newline, List.length_map, List.length_append] at hshort
  have hrest : endedLines (unlines ls) = [] := List.eq_nil_of_length_eq_zero (by omega)
  rw [← List.splitOn_intercalate '\n' hfree hls]
  exact congrArg (List.splitOn '\n') (endedLines_eq_nil_iff.mp hrest)

/-- Where there are lines below the first, they are dedented together. -/
theorem dedentDocstring_eq (hlines : t.splitOn '\n' = l :: ls) (hls : ls ≠ []) :
    dedentDocstring t = unlines (dedent l :: dedentLines ls) := by
  have hl : '\n' ∉ l := not_mem_of_mem_splitOn t l (hlines ▸ List.mem_cons_self)
  unfold dedentDocstring
  rw [hlines]
  split
  · rename_i hshort
    -- The only line below is empty, and does not take part in dedenting the first one.
    obtain rfl := eq_of_length_splitLines_lt hshort hlines hls
    have hboth : dedentLines ([l] ++ [[]]) = [dedent l] ++ [[]] := by
      rw [dedentLines_append_empty (by simp), dedentLines_singleton hl]
    rw [dedent, hlines]
    exact congrArg unlines hboth
  · cases ls with
    | nil => exact absurd rfl hls
    | cons k ks => rfl

theorem dedentDocstring_line (ht : '\n' ∉ t) :
    dedentDocstring t = if (splitLines t).length < 2 then dedent t else unlines [dedent t, []] := by
  unfold dedentDocstring
  rw [List.splitOn_eq_singleton ht]
  rfl

example : dedentDocstring "  a\r  b" = ("a\r  b\n" : Text) := by decide

theorem not_mem_dedented (hlines : t.splitOn '\n' = l :: ls) :
    ∀ k ∈ dedent l :: dedentLines ls, '\n' ∉ k := by
  have hfree := hlines ▸ not_mem_of_mem_splitOn (c := '\n') t
  rw [List.forall_mem_cons] at hfree ⊢
  exact ⟨newline_not_mem_dedent hfree.1, not_mem_of_mem_dedentLines hfree.2⟩

theorem splitOn_dedentDocstring (hlines : t.splitOn '\n' = l :: ls) (hls : ls ≠ []) :
    (dedentDocstring t).splitOn '\n' = dedent l :: dedentLines ls := by
  rw [dedentDocstring_eq hlines hls]
  exact List.splitOn_intercalate '\n' (not_mem_dedented hlines) (List.cons_ne_nil _ _)

/-- Behind a margin there are no further line boundaries to find. -/
theorem length_splitLines_dropWhile_le (t : Text) :
    (splitLines (t.dropWhile isMargin)).length ≤ (splitLines t).length := by
  have hmargin : IsUnbroken (t.takeWhile isMargin) := by
    intro c hc
    have hc := List.mem_takeWhile_imp hc
    unfold isMargin at hc
    simp only [Bool.or_eq_true, beq_iff_eq] at hc
    obtain rfl | rfl := hc <;> decide
  cases hlines : splitLines (t.dropWhile isMargin) with
  | nil => exact Nat.zero_le _
  | cons l ls =>
    conv_rhs => rw [← List.takeWhile_append_dropWhile (p := isMargin) (l := t),
      splitLines_unbroken_append hmargin hlines]
    exact Nat.le_refl _

/-! ## The canonical form -/

theorem dedent_dedent_line (hl : '\n' ∉ l) : dedent (dedent l) = dedent l := by
  rw [dedent_eq_dropWhile (newline_not_mem_dedent hl), dedent_eq_dropWhile hl, List.dropWhile_idempotent]

theorem dedentDocstring_dedentDocstring (t : Text) :
    dedentDocstring (dedentDocstring t) = dedentDocstring t := by
  by_cases ht : '\n' ∈ t
  · obtain ⟨l, ls, hlines, hls⟩ := exists_lines ht
    have hl : '\n' ∉ l := not_mem_of_mem_splitOn t l (hlines ▸ List.mem_cons_self)
    rw [dedentDocstring_eq (splitOn_dedentDocstring hlines hls) (dedentLines_ne_nil hls),
      dedent_dedent_line hl, dedentLines_dedentLines, ← dedentDocstring_eq hlines hls]
  · have hfree := newline_not_mem_dedent ht
    rw [dedentDocstring_line ht]
    split
    · rename_i hshort
      have hlength := length_splitLines_dropWhile_le t
      rw [← dedent_eq_dropWhile ht] at hlength
      rw [dedentDocstring_line hfree, if_pos (by omega), dedent_dedent_line ht]
    · -- Other line boundaries have brought a newline in, which is not brought in again.
      have hlines : (unlines [dedent t, []]).splitOn '\n' = [dedent t, []] :=
        List.splitOn_intercalate '\n' (by simpa using hfree) (by simp)
      rw [dedentDocstring_eq hlines (by simp), dedent_dedent_line ht]
      rfl

/-- The lines of a text below the first, each with a margin in front. -/
def indentBelow (m t : Text) : Text :=
  match t.splitOn '\n' with
  | [] => []
  | first :: rest => unlines (first :: rest.map (m ++ ·))

theorem splitOn_indentBelow (hm : '\n' ∉ m) (hlines : t.splitOn '\n' = l :: ls) :
    (indentBelow m t).splitOn '\n' = l :: ls.map (m ++ ·) := by
  have hfree := hlines ▸ not_mem_of_mem_splitOn (c := '\n') t
  unfold indentBelow
  rw [hlines]
  refine List.splitOn_intercalate '\n' ?_ (List.cons_ne_nil _ _)
  rw [List.forall_mem_cons] at hfree ⊢
  refine ⟨hfree.1, fun k hk => ?_⟩
  obtain ⟨line, hline, rfl⟩ := List.mem_map.mp hk
  rw [List.mem_append, not_or]
  exact ⟨hm, hfree.2 line hline⟩

/-- How far the lines below the first are indented does not matter. -/
theorem dedentDocstring_indentBelow (hm : m.all isMargin = true) (t : Text) :
    dedentDocstring (indentBelow m t) = dedentDocstring t := by
  by_cases ht : '\n' ∈ t
  · obtain ⟨l, ls, hlines, hls⟩ := exists_lines ht
    have hnewline : '\n' ∉ m := fun hmem => absurd (List.all_eq_true.mp hm '\n' hmem) (by decide)
    rw [dedentDocstring_eq (splitOn_indentBelow hnewline hlines) (by simpa using hls),
      dedentLines_map_append hm, ← dedentDocstring_eq hlines hls]
  · rw [indentBelow, List.splitOn_eq_singleton ht]
    exact congrArg dedentDocstring (List.intercalate_singleton ..)

/-- **Dedented docstrings are canonical.**  Dedenting one again changes nothing, and its lines are those
of the docstring apart from white space.  It is the same for every indentation of the lines below the
first, and so is what is read from it. -/
theorem dedentDocstring_canonical (t : Text) :
    dedentDocstring (dedentDocstring t) = dedentDocstring t ∧
      strippedLines (dedentDocstring t) = strippedLines t ∧
      ∀ k, dedentDocstring (indentBelow (spaces k) t) = dedentDocstring t ∧
        ∀ (r : Renewal) (subject : Subject),
          r.readDocstring subject (indentBelow (spaces k) t) = r.readDocstring subject t := by
  refine ⟨dedentDocstring_dedentDocstring t, strippedLines_dedentDocstring t, fun k => ?_⟩
  have hspaces : (spaces k).all isMargin = true := by
    rw [List.all_eq_true]
    intro c hc
    rw [List.eq_of_mem_replicate hc]
    rfl
  have hsame := dedentDocstring_indentBelow hspaces t
  refine ⟨hsame, fun r subject => ?_⟩
  unfold Renewal.readDocstring
  rw [hsame]

/-! ## Two ways to dedent -/

/-- Lines without the blank ones at their end. -/
def dropBlankEnd (ls : List Text) : List Text := ls.rdropWhile isBlank

theorem dropBlankEnd_append_empty (hks : ∀ k ∈ ks, k = []) (ls : List Text) :
    dropBlankEnd (ls ++ ks) = dropBlankEnd ls := by
  unfold dropBlankEnd List.rdropWhile
  rw [List.reverse_append, List.dropWhile_append_of_pos]
  intro k hk
  rw [hks k (List.mem_reverse.mp hk)]
  rfl

/-- Of lines that are joined and cut again, only empty ones at the end can be missing. -/
theorem exists_splitLines_unlines (hls : ∀ l ∈ ls, IsUnbroken l) :
    ∃ ks, (∀ k ∈ ks, k = []) ∧ splitLines (unlines ls) ++ ks = ls := by
  rw [splitLines_unlines hls]
  split
  · rename_i hlast
    obtain ⟨front, rfl⟩ := List.getLast?_eq_some_iff.mp hlast
    exact ⟨[[]], by simp, by rw [List.dropLast_concat]⟩
  · exact ⟨[], by simp, List.append_nil ls⟩

theorem dropBlankEnd_splitLines_unlines (hls : ∀ l ∈ ls, IsUnbroken l) :
    dropBlankEnd (splitLines (unlines ls)) = dropBlankEnd ls := by
  obtain ⟨ks, hks, hlines⟩ := exists_splitLines_unlines hls
  conv_rhs => rw [← hlines, dropBlankEnd_append_empty hks]

theorem isUnbroken_of_mem_dedentLines (hls : ∀ l ∈ ls, IsUnbroken l) :
    ∀ l ∈ dedentLines ls, IsUnbroken l := by
  intro l hl c hc
  by_contra hbreak
  exact not_mem_of_mem_dedentLines (fun k hk hmem => hbreak (hls k hk c hmem)) l hl hc

theorem exists_splitLines_dedent (hls : ∀ l ∈ ls, IsUnbroken l) :
    ∃ ks, (∀ k ∈ ks, k = []) ∧ splitLines (dedent (unlines ls)) ++ ks = dedentLines ls := by
  by_cases hnil : ls = []
  · subst hnil
    exact ⟨[], by simp, rfl⟩
  · have hfree : ∀ l ∈ ls, '\n' ∉ l := fun l hl hmem => absurd (hls l hl '\n' hmem) (by decide)
    have hsplit : (unlines ls).splitOn '\n' = ls := List.splitOn_intercalate '\n' hfree hnil
    rw [dedent, hsplit]
    exact exists_splitLines_unlines (isUnbroken_of_mem_dedentLines hls)

/-- Where newlines are the only line boundaries, a docstring of one line is no exception. -/
theorem dedentDocstring_eq_of_onlyNewlines (ht : OnlyNewlines t) (hlines : t.splitOn '\n' = l :: ls) :
    dedentDocstring t = unlines (dedent l :: dedentLines ls) := by
  by_cases hls : ls = []
  · subst hls
    have htext : ['\n'].intercalate (t.splitOn '\n') = t := List.intercalate_splitOn '\n'
    rw [hlines, List.intercalate_singleton] at htext
    subst htext
    have hnewline : '\n' ∉ l := not_mem_of_mem_splitOn l l (hlines ▸ List.mem_cons_self)
    have hshort : (splitLines l).length < 2 := by
      rw [ht.splitLines_eq, hlines]
      split <;> simp
    rw [dedentDocstring_line hnewline, if_pos hshort]
    exact (List.intercalate_singleton ..).symm
  · exact dedentDocstring_eq hlines hls

/-- The first way leaves the lines that the second way leaves, and maybe empty ones behind them. -/
theorem exists_dedented {s : Text} (hne : s ≠ []) (hs : OnlyNewlines s) :
    ∃ ls ks, (∀ l ∈ ls, IsUnbroken l) ∧ (∀ k ∈ ks, k = []) ∧
      dedentAfterFirst s = .ok (unlines ls) ∧ dedentDocstring s = unlines (ls ++ ks) := by
  have hunbroken : ∀ l ∈ s.splitOn '\n', IsUnbroken l := fun l hl =>
    (hs.mono fun c hc => mem_of_mem_splitOn s l hl hc).isUnbroken (not_mem_of_mem_splitOn s l hl)
  obtain ⟨first, rest, hsplit⟩ : ∃ first rest, splitLines s = first :: rest := by
    refine List.exists_cons_of_ne_nil fun hnil => hne (endedLines_eq_nil_iff.mp ?_)
    exact List.map_eq_nil_iff.mp hnil
  -- Empty lines at the end are left out twice, before dedenting and after it.
  obtain ⟨ks, hks, hlines⟩ := exists_splitLines_unlines hunbroken
  have hjoined : unlines (s.splitOn '\n') = s := List.intercalate_splitOn '\n'
  rw [hjoined, hsplit, List.cons_append] at hlines
  rw [← hlines, List.forall_mem_cons, List.forall_mem_append] at hunbroken
  obtain ⟨hfirst, hrest, -⟩ := hunbroken
  obtain ⟨ks', hks', hdedented⟩ := exists_splitLines_dedent hrest
  refine ⟨dedent first :: splitLines (dedent (unlines rest)), ks' ++ ks, ?_,
    List.forall_mem_append.mpr ⟨hks', hks⟩, ?_, ?_⟩
  · have hnewline : '\n' ∉ first := fun hmem => absurd (hfirst '\n' hmem) (by decide)
    have hsingle : ∀ l ∈ [first], IsUnbroken l := by simpa using hfirst
    refine List.forall_mem_cons.mpr ⟨?_, isUnbroken_of_mem_splitLines _⟩
    exact isUnbroken_of_mem_dedentLines hsingle _ (dedentLines_singleton hnewline ▸ List.mem_cons_self)
  · rw [dedentAfterFirst, hsplit]
  · rw [dedentDocstring_eq_of_onlyNewlines hs hlines.symm, dedentLines_append_empty hks, ← hdedented,
      List.append_assoc, List.cons_append]

/-- **The two ways to dedent a docstring agree**, where newlines are its only line boundaries: they leave
the same lines, apart from blank ones at the end. -/
theorem dedenters_agree {s : Text} (hne : s ≠ []) (hs : OnlyNewlines s) :
    ∃ t, dedentAfterFirst s = .ok t ∧
      dropBlankEnd (splitLines (dedentDocstring s)) = dropBlankEnd (splitLines t) := by
  obtain ⟨ls, ks, hls, hks, hafter, hdocstring⟩ := exists_dedented hne hs
  have hboth : ∀ l ∈ ls ++ ks, IsUnbroken l := by
    refine List.forall_mem_append.mpr ⟨hls, fun k hk => ?_⟩
    rw [hks k hk]
    simp [IsUnbroken]
  refine ⟨unlines ls, hafter, ?_⟩
  rw [hdocstring, dropBlankEnd_splitLines_unlines hboth, dropBlankEnd_append_empty hks,
    dropBlankEnd_splitLines_unlines hls]

/-- A docstring whose first line, body and end have different margins. -/
def ragged : Text := "  A\n\n    b\n      c\n   \n"

theorem ragged_dedenters_agree :
    ragged ≠ [] ∧ OnlyNewlines ragged ∧ ∃ t, dedentAfterFirst ragged = .ok t ∧
      dropBlankEnd (splitLines (dedentDocstring ragged)) = dropBlankEnd (splitLines t) := by
  have hne : ragged ≠ [] := by decide
  have hnewlines : OnlyNewlines ragged := by decide
  exact ⟨hne, hnewlines, dedenters_agree hne hnewlines⟩

end DocTidy
