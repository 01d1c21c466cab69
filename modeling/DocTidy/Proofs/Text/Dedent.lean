import DocTidy.Margin
import DocTidy.Proofs.Text.Paragraphs

/-!
# Dedenting

Dedenting takes white space from the start of lines and nothing else: stripped lines stay as they
are, and so do the paragraphs of stripped lines.
-/

namespace DocTidy.Text

variable {l t : Text} {ls : List Text}

theorem isSpace_of_isMargin {c : Char} (h : isMargin c = true) : isSpace c = true := by
  unfold isMargin at h
  simp only [Bool.or_eq_true, beq_iff_eq] at h
  obtain rfl | rfl := h <;> decide

theorem isBlank_of_all_isMargin (h : t.all isMargin = true) : isBlank t = true :=
  List.all_eq_true.mpr fun c hc => isSpace_of_isMargin (List.all_eq_true.mp h c hc)

theorem length_commonStart_le (s t : Text) :
    (commonStart s t).length ≤ s.length ∧ (commonStart s t).length ≤ t.length := by
  induction s generalizing t with
  | nil => simp [commonStart]
  | cons a s ih =>
    cases t with
    | nil => simp [commonStart]
    | cons b t =>
      rw [commonStart]
      split
      · have := ih t
        simp only [List.length_cons]
        omega
      · simp

theorem length_commonMargin_le {m : Text} {ms : List Text} (hm : m ∈ ms) :
    (commonMargin ms).length ≤ m.length := by
  fun_induction commonMargin ms with
  | case1 => cases hm
  | case2 m' =>
    obtain rfl := List.mem_singleton.mp hm
    exact Nat.le_refl _
  | case3 m' ms hne ih =>
    have hstart := length_commonStart_le m' (commonMargin ms)
    obtain rfl | hm := List.mem_cons.mp hm
    · exact hstart.1
    · exact hstart.2.trans (ih hm)

/-- The shared margin is part of the margin of every line that is not empty. -/
theorem length_sharedMargin_le (hl : l ∈ ls) (hne : l ≠ []) :
    (sharedMargin ls).length ≤ (l.takeWhile isMargin).length := by
  apply length_commonMargin_le
  refine List.mem_map_of_mem (List.mem_filter.mpr ⟨hl, ?_⟩)
  simpa using hne

theorem strip_emptyIfMargin (l : Text) : strip (emptyIfMargin l) = strip l := by
  unfold emptyIfMargin
  split
  · rename_i hall
    have hblank := isBlank_of_all_isMargin hall
    have := strip_append_blank hblank []
    exact this.symm
  · rfl

theorem all_isMargin_take {n : Nat} (hn : n ≤ (l.takeWhile isMargin).length) :
    (l.take n).all isMargin = true := by
  have htake : l.take n = (l.takeWhile isMargin).take n := by
    conv_lhs => rw [← List.takeWhile_append_dropWhile (p := isMargin) (l := l)]
    exact List.take_append_of_le_length hn
  rw [htake]
  refine List.all_eq_true.mpr fun c hc => ?_
  exact List.all_eq_true.mp List.all_takeWhile c (List.mem_of_mem_take hc)

theorem strip_drop {n : Nat} (hn : n ≤ (l.takeWhile isMargin).length) :
    strip (l.drop n) = strip l := by
  have hfront : isBlank (l.take n) = true := isBlank_of_all_isMargin (all_isMargin_take hn)
  conv_rhs => rw [← List.take_append_drop n l, strip_blank_append hfront]

theorem map_isBlank_of_map_strip {ls ks : List Text} (h : ls.map strip = ks.map strip) :
    ls.map isBlank = ks.map isBlank := by
  have hstrip : isBlank ∘ strip = isBlank := funext isBlank_strip
  rw [← hstrip, ← List.map_map, ← List.map_map, h]

/-- **Dedenting leaves stripped lines as they are.** -/
theorem map_strip_dedentLines (ls : List Text) : (dedentLines ls).map strip = ls.map strip := by
  unfold dedentLines
  simp only [List.map_map]
  refine List.map_congr_left fun l hl => ?_
  have hmem : emptyIfMargin l ∈ ls.map emptyIfMargin := List.mem_map_of_mem hl
  change strip ((emptyIfMargin l).drop _) = strip l
  by_cases hne : emptyIfMargin l = []
  · rw [hne, List.drop_nil, ← hne, strip_emptyIfMargin]
  · rw [strip_drop (length_sharedMargin_le hmem hne), strip_emptyIfMargin]

theorem not_mem_of_mem_dedentLines {c : Char} (hls : ∀ l ∈ ls, c ∉ l) :
    ∀ l ∈ dedentLines ls, c ∉ l := by
  intro l hl hc
  unfold dedentLines at hl
  simp only [List.map_map] at hl
  obtain ⟨k, hk, rfl⟩ := List.mem_map.mp hl
  refine hls k hk ?_
  have hmem : c ∈ emptyIfMargin k := List.mem_of_mem_drop hc
  unfold emptyIfMargin at hmem
  split at hmem
  · cases hmem
  · exact hmem

theorem not_mem_of_mem_splitOn {c : Char} (t : Text) : ∀ l ∈ t.splitOn c, c ∉ l := by
  induction t with
  | nil => simp
  | cons a r ih =>
    rw [List.splitOn_cons_eq_if_modifyHead]
    split
    · simpa using ih
    · rename_i ha
      obtain ⟨k, ks, hk⟩ := List.exists_cons_of_ne_nil (List.splitOn_ne_nil c r)
      rw [hk] at ih ⊢
      rw [List.modifyHead_cons]
      intro l hl
      obtain rfl | hl := List.mem_cons.mp hl
      · have hca : c ≠ a := fun h => ha (by rw [h]; exact beq_self_eq_true a)
        exact List.not_mem_cons_of_ne_of_not_mem hca (ih k List.mem_cons_self)
      · exact ih l (List.mem_cons_of_mem _ hl)

theorem mem_of_mem_splitOn {c d : Char} (t : Text) : ∀ l ∈ t.splitOn c, d ∈ l → d ∈ t := by
  induction t with
  | nil => simp
  | cons a r ih =>
    rw [List.splitOn_cons_eq_if_modifyHead]
    obtain ⟨k, ks, hk⟩ := List.exists_cons_of_ne_nil (List.splitOn_ne_nil c r)
    rw [hk] at ih ⊢
    rw [List.modifyHead_cons]
    -- The first character joins the first piece or is left out.
    split
    · intro l hl hd
      obtain rfl | hl := List.mem_cons.mp hl
      · cases hd
      · exact List.mem_cons_of_mem _ (ih l hl hd)
    · intro l hl hd
      obtain rfl | hl := List.mem_cons.mp hl
      · obtain rfl | hd := List.mem_cons.mp hd
        · exact List.mem_cons_self
        · exact List.mem_cons_of_mem _ (ih k List.mem_cons_self hd)
      · exact List.mem_cons_of_mem _ (ih l (List.mem_cons_of_mem _ hl) hd)

theorem dedentLines_ne_nil (hls : ls ≠ []) : dedentLines ls ≠ [] := by
  unfold dedentLines
  simpa using hls

theorem splitOn_dedent (t : Text) :
    (dedent t).splitOn '\n' = dedentLines (t.splitOn '\n') := by
  unfold dedent unlines
  exact List.splitOn_intercalate '\n'
    (not_mem_of_mem_dedentLines (not_mem_of_mem_splitOn t))
    (dedentLines_ne_nil (List.splitOn_ne_nil '\n' t))

/-- A single line is dedented to a single line. -/
theorem dedentLines_singleton (hl : '\n' ∉ l) : dedentLines [l] = [dedent l] := by
  obtain ⟨k, hk⟩ : ∃ k, dedentLines [l] = [k] := ⟨_, rfl⟩
  rw [hk, dedent, List.splitOn_eq_singleton hl, hk, unlines, List.intercalate_singleton]

theorem newline_not_mem_dedent (hl : '\n' ∉ l) : '\n' ∉ dedent l := by
  have hline : ∀ k ∈ [l], '\n' ∉ k := by simpa using hl
  exact not_mem_of_mem_dedentLines hline _ (dedentLines_singleton hl ▸ List.mem_cons_self)

theorem strip_dedent (hl : '\n' ∉ l) : strip (dedent l) = strip l := by
  have hmap := map_strip_dedentLines [l]
  rw [dedentLines_singleton hl] at hmap
  exact List.singleton_inj.mp hmap

theorem trimBlankLines_dedentBody (l : Text) (ls : List Text) :
    trimBlankLines (strip l :: (dedentBody ls).map strip) = trimBlankLines (strip l :: ls.map strip) := by
  cases ls with
  | nil => exact trimBlankLines_append_blank rfl [strip l]
  | cons k ks => rw [dedentBody, map_strip_dedentLines]

theorem not_mem_of_mem_dedentBody {c : Char} (hls : ∀ l ∈ ls, c ∉ l) :
    ∀ l ∈ dedentBody ls, c ∉ l := by
  cases ls with
  | nil => simp [dedentBody]
  | cons k ks => exact not_mem_of_mem_dedentLines hls

theorem not_mem_dedent {c : Char} (hc : c ≠ '\n') (ht : c ∉ t) : c ∉ dedent t :=
  not_mem_intercalate (fun hmem => hc (List.mem_singleton.mp hmem))
    (not_mem_of_mem_dedentLines fun l hl hmem => ht (mem_of_mem_splitOn t l hl hmem))

theorem not_mem_dedentDocstring {c : Char} (hc : c ≠ '\n') (ht : c ∉ t) : c ∉ dedentDocstring t := by
  have hlines : ∀ l ∈ t.splitOn '\n', c ∉ l := fun l hl hmem => ht (mem_of_mem_splitOn t l hl hmem)
  unfold dedentDocstring
  split
  · exact not_mem_dedent hc ht
  · split
    · exact List.not_mem_nil
    · rename_i first rest hsplit
      rw [hsplit, List.forall_mem_cons] at hlines
      refine not_mem_intercalate (fun hmem => hc (List.mem_singleton.mp hmem)) ?_
      rw [List.forall_mem_cons]
      exact ⟨not_mem_dedent hc hlines.1, not_mem_of_mem_dedentBody hlines.2⟩

/-- The lines of a docstring are those of the dedented one, apart from white space. -/
theorem strippedLines_dedentDocstring (t : Text) : strippedLines (dedentDocstring t) = strippedLines t := by
  unfold dedentDocstring
  split
  · unfold strippedLines
    rw [splitOn_dedent, map_strip_dedentLines]
  · split
    · rename_i hnil
      exact absurd hnil (List.splitOn_ne_nil '\n' t)
    · -- The first line is dedented apart from the others.
      rename_i first rest hlines
      have hfree := hlines ▸ not_mem_of_mem_splitOn (c := '\n') t
      rw [List.forall_mem_cons] at hfree
      have hlinesFree : ∀ l ∈ dedent first :: dedentBody rest, '\n' ∉ l := by
        rw [List.forall_mem_cons]
        exact ⟨newline_not_mem_dedent hfree.1, not_mem_of_mem_dedentBody hfree.2⟩
      unfold strippedLines unlines
      rw [List.splitOn_intercalate '\n' hlinesFree (List.cons_ne_nil _ _), hlines, List.map_cons,
        strip_dedent hfree.1, trimBlankLines_dedentBody, List.map_cons]

/-- The paragraphs of a docstring are those of the dedented one. -/
theorem strippedParagraphs_dedentDocstring (t : Text) :
    strippedParagraphs (dedentDocstring t) = strippedParagraphs t :=
  strippedParagraphs_congr (strippedLines_dedentDocstring t)

end DocTidy.Text
