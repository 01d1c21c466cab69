import DocTidy.Proofs.Text.Dedent
import DocTidy.Proofs.Text.Lines

/-!
# Margins that come and go

Dedented lines share no margin.  So if all of them get one, then dedenting takes just that one away
again (`dedentLines_indented`).  Lines are printed with a newline behind each, and are cut into the same
lines again.
-/

namespace DocTidy.Text

variable {l m s t : Text} {ls ks : List Text} {c : Char}

/-! ## Stripped texts -/

theorem exists_strip (t : Text) : ∃ front back,
    isBlank front = true ∧ isBlank back = true ∧ t = front ++ strip t ++ back := by
  obtain ⟨back, hback, hstrip⟩ := exists_eq_stripRight_append (stripLeft t)
  refine ⟨t.takeWhile isSpace, back, ?_, hback, ?_⟩
  · exact List.all_eq_true.mpr fun c hc => List.mem_takeWhile_imp hc
  · rw [List.append_assoc]
    show t = t.takeWhile isSpace ++ (stripRight (stripLeft t) ++ back)
    rw [← hstrip]
    exact List.takeWhile_append_dropWhile.symm

theorem length_strip_le (t : Text) : (strip t).length ≤ t.length := by
  obtain ⟨front, back, -, -, ht⟩ := exists_strip t
  conv_rhs => rw [ht]
  simp only [List.length_append]
  omega

/-- Neither end of a stripped text is blank. -/
theorem isBlank_of_strip_append (h : strip (s ++ t) = s ++ t) :
    (s ≠ [] → isBlank s = false) ∧ (t ≠ [] → isBlank t = false) := by
  have hlength := congrArg List.length h
  rw [List.length_append] at hlength
  constructor
  · intro hne
    rw [← Bool.not_eq_true]
    intro hblank
    rw [strip_blank_append hblank] at hlength
    have := length_strip_le t
    have := List.length_pos_of_ne_nil hne
    omega
  · intro hne
    rw [← Bool.not_eq_true]
    intro hblank
    rw [strip_append_blank hblank] at hlength
    have := length_strip_le s
    have := List.length_pos_of_ne_nil hne
    omega

theorem strip_ne_nil (h : isBlank t = false) : strip t ≠ [] := by
  intro hnil
  rw [← isBlank_strip, hnil] at h
  cases h

theorem stripLeft_of_strip (h : strip t = t) : stripLeft t = t := by
  cases t with
  | nil => rfl
  | cons c r =>
    refine List.dropWhile_cons_of_neg ?_
    rw [isSpace_of_strip_eq_cons h]
    exact Bool.false_ne_true

theorem stripRight_of_strip (h : strip t = t) : stripRight t = t := by
  have hagain : stripRight (strip t) = strip t := List.rdropWhile_idempotent isSpace (stripLeft t)
  rwa [h] at hagain

/-- What stands between stripped texts does not matter. -/
theorem strip_append_of_strip (hs : strip s = s) (hs' : s ≠ []) (ht : strip t = t) (ht' : t ≠ [])
    (m : Text) : strip (s ++ m ++ t) = s ++ m ++ t := by
  have hinked {u : Text} (hu : strip u = u) (hu' : u ≠ []) : isBlank u = false := by
    rw [← List.append_nil u] at hu
    exact (isBlank_of_strip_append hu).1 hu'
  rw [List.append_assoc, strip, stripLeft_append (hinked hs hs'), stripLeft_of_strip hs,
    ← List.append_assoc, stripRight_append (hinked ht ht'), stripRight_of_strip ht]

/-! ## The shared margin -/

theorem commonStart_append (m s t : Text) : commonStart (m ++ s) (m ++ t) = m ++ commonStart s t := by
  induction m with
  | nil => rfl
  | cons c m ih => rw [List.cons_append, List.cons_append, commonStart, if_pos rfl, ih, List.cons_append]

theorem commonStart_isPrefix (s t : Text) : commonStart s t <+: s ∧ commonStart s t <+: t := by
  fun_induction commonStart s t with
  | case1 a s t ih => exact ⟨List.cons_prefix_cons.mpr ⟨rfl, ih.1⟩, List.cons_prefix_cons.mpr ⟨rfl, ih.2⟩⟩
  | case2 => exact ⟨List.nil_prefix, List.nil_prefix⟩
  | case3 => exact ⟨List.nil_prefix, List.nil_prefix⟩

theorem commonMargin_map_append (m : Text) {ms : List Text} (hms : ms ≠ []) :
    commonMargin (ms.map (m ++ ·)) = m ++ commonMargin ms := by
  fun_induction commonMargin ms with
  | case1 => exact absurd rfl hms
  | case2 k => rfl
  | case3 k ks hks ih =>
    have hne : ks.map (m ++ ·) ≠ [] := by simpa using hks
    rw [List.map_cons, commonMargin.eq_3 _ _ hne, ih hks, commonStart_append]

theorem commonMargin_isPrefix {ms : List Text} (hm : m ∈ ms) : commonMargin ms <+: m := by
  fun_induction commonMargin ms with
  | case1 => cases hm
  | case2 k =>
    obtain rfl := List.mem_singleton.mp hm
    exact List.prefix_rfl
  | case3 k ks hks ih =>
    have hstart := commonStart_isPrefix k (commonMargin ks)
    rcases List.mem_cons.mp hm with rfl | hm
    · exact hstart.1
    · exact hstart.2.trans (ih hm)

/-- Without the margin that they share, margins share none. -/
theorem commonMargin_map_drop (ms : List Text) :
    commonMargin (ms.map (·.drop (commonMargin ms).length)) = [] := by
  by_cases hms : ms = []
  · rw [hms]
    rfl
  · have hback : (ms.map (·.drop (commonMargin ms).length)).map (commonMargin ms ++ ·) = ms := by
      rw [List.map_map]
      refine (List.map_congr_left fun m hm => ?_).trans (List.map_id ms)
      obtain ⟨r, hr⟩ := commonMargin_isPrefix hm
      show commonMargin ms ++ m.drop (commonMargin ms).length = m
      rw [← hr, List.drop_left]
    have hne : ms.map (·.drop (commonMargin ms).length) ≠ [] := by simpa using hms
    have hmargin := commonMargin_map_append (commonMargin ms) hne
    rw [hback] at hmargin
    exact List.append_right_eq_self.mp hmargin.symm

/-- The margins of the lines that are not empty. -/
def margins (ls : List Text) : List Text :=
  (ls.filter fun l => !l.isEmpty).map fun l => l.takeWhile isMargin

theorem sharedMargin_eq (ls : List Text) : sharedMargin ls = commonMargin (margins ls) := rfl

theorem margins_append (ls ks : List Text) : margins (ls ++ ks) = margins ls ++ margins ks := by
  unfold margins
  rw [List.filter_append, List.map_append]

theorem margins_eq_nil (h : ∀ l ∈ ls, l = []) : margins ls = [] := by
  unfold margins
  rw [List.filter_eq_nil_iff.mpr, List.map_nil]
  intro l hl
  simp [h l hl]

/-- A change of lines that empties none and acts on their margins. -/
theorem margins_map {f g : Text → Text} (hempty : ∀ l ∈ ls, f l = [] ↔ l = [])
    (hmargin : ∀ l ∈ ls, l ≠ [] → (f l).takeWhile isMargin = g (l.takeWhile isMargin)) :
    margins (ls.map f) = (margins ls).map g := by
  unfold margins
  have hfilter : ls.filter ((fun l => !l.isEmpty) ∘ f) = ls.filter fun l => !l.isEmpty := by
    refine List.filter_congr fun l hl => ?_
    show (!(f l).isEmpty) = !l.isEmpty
    rw [Bool.eq_iff_iff]
    simp [hempty l hl]
  rw [List.filter_map, hfilter, List.map_map, List.map_map]
  refine List.map_congr_left fun l hl => ?_
  obtain ⟨hmem, hne⟩ := List.mem_filter.mp hl
  exact hmargin l hmem (by simpa using hne)

theorem takeWhile_drop {n : Nat} (hn : n ≤ (l.takeWhile isMargin).length) :
    (l.drop n).takeWhile isMargin = (l.takeWhile isMargin).drop n := by
  conv_lhs => rw [← List.takeWhile_append_dropWhile (p := isMargin) (l := l)]
  rw [List.drop_append_of_le_length hn, List.takeWhile_append_of_pos]
  · have hstop : (l.dropWhile isMargin).takeWhile isMargin = [] := by
      rw [List.takeWhile_eq_nil_iff]
      exact fun _ => by simpa using List.dropWhile_get_zero_not isMargin l _
    rw [hstop, List.append_nil]
  · intro c hc
    exact List.mem_takeWhile_imp (List.mem_of_mem_drop hc)

theorem all_isMargin_drop {n : Nat} (hn : n ≤ (l.takeWhile isMargin).length) :
    (l.drop n).all isMargin = l.all isMargin := by
  conv_rhs => rw [← List.take_append_drop n l, List.all_append, all_isMargin_take hn, Bool.true_and]

theorem emptyIfMargin_eq_nil_iff : emptyIfMargin l = [] ↔ l.all isMargin = true := by
  unfold emptyIfMargin
  split
  · rename_i hall
    exact iff_of_true rfl hall
  · rename_i hall
    refine iff_of_false ?_ hall
    rintro rfl
    exact hall rfl

theorem emptyIfMargin_emptyIfMargin (l : Text) : emptyIfMargin (emptyIfMargin l) = emptyIfMargin l := by
  by_cases hall : l.all isMargin = true
  · rw [emptyIfMargin_eq_nil_iff.mpr hall]
    rfl
  · have hsame : emptyIfMargin l = l := if_neg hall
    rw [hsame, hsame]

/-- Part of its margin is never all of a line, unless the line is empty. -/
theorem drop_eq_nil_iff_of_cleared {n : Nat} (hl : emptyIfMargin l = l)
    (hn : l ≠ [] → n ≤ (l.takeWhile isMargin).length) : l.drop n = [] ↔ l = [] := by
  refine ⟨fun hdrop => ?_, fun hnil => by rw [hnil, List.drop_nil]⟩
  by_contra hne
  have hall := all_isMargin_drop (hn hne)
  rw [hdrop] at hall
  exact hne (hl.symm.trans (emptyIfMargin_eq_nil_iff.mpr hall.symm))

/-- **Dedented lines share no margin.** -/
theorem sharedMargin_dedentLines (ls : List Text) : sharedMargin (dedentLines ls) = [] := by
  unfold dedentLines
  generalize hks : ls.map emptyIfMargin = ks
  have hle (l : Text) (hl : l ∈ ks) (hne : l ≠ []) := length_sharedMargin_le hl hne
  rw [sharedMargin_eq, margins_map (g := (·.drop (sharedMargin ks).length)) _
    fun l hl hne => takeWhile_drop (hle l hl hne)]
  · exact commonMargin_map_drop (margins ks)
  · intro l hl
    obtain ⟨k, -, rfl⟩ := List.mem_map.mp (hks ▸ hl)
    exact drop_eq_nil_iff_of_cleared (emptyIfMargin_emptyIfMargin k) (hle _ hl)

/-! ## Lines whose white space is spaces -/

/-- The space is the only white space of the text. -/
def OnlySpaces (t : Text) : Prop := ∀ c ∈ t, isSpace c = true → c = ' '

instance (t : Text) : Decidable (OnlySpaces t) :=
  List.decidableBAll (fun c => isSpace c = true → c = ' ') t

theorem OnlySpaces.mono (ht : OnlySpaces t) (hs : s ⊆ t) : OnlySpaces s := fun c hc => ht c (hs hc)

theorem OnlySpaces.append (hs : OnlySpaces s) (ht : OnlySpaces t) : OnlySpaces (s ++ t) :=
  List.forall_mem_append.mpr ⟨hs, ht⟩

theorem OnlySpaces.strip (h : OnlySpaces t) : OnlySpaces (strip t) := by
  obtain ⟨front, back, -, -, ht⟩ := exists_strip t
  refine h.mono fun c hc => ?_
  rw [ht]
  simp [hc]

theorem OnlySpaces.isUnbroken (ht : OnlySpaces t) : IsUnbroken t := by
  intro c hc
  rw [← Bool.not_eq_true]
  intro hbreak
  rw [ht c hc (isSpace_of_isLineBreak hbreak)] at hbreak
  exact absurd hbreak (by decide)

theorem OnlySpaces.all_isMargin (ht : OnlySpaces t) (hblank : isBlank t = true) :
    t.all isMargin = true := by
  refine List.all_eq_true.mpr fun c hc => ?_
  rw [ht c hc (List.all_eq_true.mp hblank c hc)]
  decide

/-! ## Texts whose line boundaries are newlines -/

/-- The newline is the only line boundary of the text. -/
def OnlyNewlines (t : Text) : Prop := ∀ c ∈ t, isLineBreak c = true → c = '\n'

instance (t : Text) : Decidable (OnlyNewlines t) :=
  List.decidableBAll (fun c => isLineBreak c = true → c = '\n') t

theorem OnlyNewlines.mono (ht : OnlyNewlines t) (hs : s ⊆ t) : OnlyNewlines s := fun c hc => ht c (hs hc)

theorem OnlyNewlines.append (hs : OnlyNewlines s) (ht : OnlyNewlines t) : OnlyNewlines (s ++ t) :=
  List.forall_mem_append.mpr ⟨hs, ht⟩

theorem IsUnbroken.onlyNewlines (ht : IsUnbroken t) : OnlyNewlines t := by
  intro c hc hbreak
  rw [ht c hc] at hbreak
  cases hbreak

theorem OnlyNewlines.isUnbroken (ht : OnlyNewlines t) (hnewline : '\n' ∉ t) : IsUnbroken t := by
  intro c hc
  rw [← Bool.not_eq_true]
  intro hbreak
  rw [ht c hc hbreak] at hc
  exact hnewline hc

/-- Cut at its newlines, such a text has the same lines, but for an empty one at the end. -/
theorem OnlyNewlines.splitLines_eq (ht : OnlyNewlines t) : splitLines t =
    if (t.splitOn '\n').getLast? = some [] then (t.splitOn '\n').dropLast else t.splitOn '\n' := by
  have hlines : ∀ l ∈ t.splitOn '\n', IsUnbroken l := fun l hl =>
    (ht.mono fun c hc => mem_of_mem_splitOn t l hl hc).isUnbroken (not_mem_of_mem_splitOn t l hl)
  rw [← splitLines_unlines hlines]
  exact congrArg splitLines (List.intercalate_splitOn '\n').symm

theorem OnlyNewlines.trimBlankLines_splitLines (ht : OnlyNewlines t) :
    trimBlankLines ((splitLines t).map strip) = strippedLines t := by
  rw [ht.splitLines_eq, strippedLines]
  split
  · rename_i hlast
    obtain ⟨ls, hls⟩ := List.getLast?_eq_some_iff.mp hlast
    rw [hls, List.dropLast_concat, List.map_append]
    exact (trimBlankLines_append_blank rfl _).symm
  · rfl

theorem OnlyNewlines.paragraphs_splitLines (ht : OnlyNewlines t) :
    paragraphs ((splitLines t).map strip) = strippedParagraphs t := by
  rw [← paragraphs_trimBlankLines, ht.trimBlankLines_splitLines, paragraphs_strippedLines]

/-! ## Lines that are empty if they are blank -/

/-- The blank lines among the lines are empty. -/
def IsCleared (ls : List Text) : Prop := ∀ l ∈ ls, isBlank l = true → l = []

instance (ls : List Text) : Decidable (IsCleared ls) :=
  List.decidableBAll (fun l => isBlank l = true → l = []) ls

theorem IsCleared.append (hls : IsCleared ls) (hks : IsCleared ks) : IsCleared (ls ++ ks) := by
  intro l hl
  rcases List.mem_append.mp hl with hl | hl
  · exact hls l hl
  · exact hks l hl

theorem isCleared_replicate (n : Nat) : IsCleared (List.replicate n []) :=
  fun _ hl _ => List.eq_of_mem_replicate hl

theorem onlySpaces_of_mem_dedentLines (hls : ∀ l ∈ ls, OnlySpaces l) :
    ∀ l ∈ dedentLines ls, OnlySpaces l := by
  intro l hl c hc hspace
  by_contra hne
  have hnone : ∀ k ∈ ls, c ∉ k := fun k hk hmem => hne (hls k hk c hmem hspace)
  exact not_mem_of_mem_dedentLines hnone l hl hc

theorem isCleared_dedentLines (hls : ∀ l ∈ ls, OnlySpaces l) : IsCleared (dedentLines ls) := by
  intro k hk hblank
  obtain ⟨l, hl, rfl⟩ := List.mem_map.mp hk
  obtain ⟨line, hline, rfl⟩ := List.mem_map.mp hl
  by_contra hne
  have hcleared : emptyIfMargin line ≠ [] := by
    intro hnil
    rw [hnil, List.drop_nil] at hne
    exact hne rfl
  have hline' : isBlank line = true := by
    rwa [← isBlank_strip, strip_drop (length_sharedMargin_le hl hcleared), strip_emptyIfMargin,
      isBlank_strip] at hblank
  exact hcleared (if_pos ((hls line hline).all_isMargin hline'))

theorem isCleared_dedentBody (hls : ∀ l ∈ ls, OnlySpaces l) : IsCleared (dedentBody ls) := by
  cases ls with
  | nil => exact isCleared_replicate 1
  | cons l ls => exact isCleared_dedentLines hls

theorem onlySpaces_dedentBody (hls : ∀ l ∈ ls, OnlySpaces l) : ∀ l ∈ dedentBody ls, OnlySpaces l := by
  cases ls with
  | nil =>
    intro l hl c hc
    rw [List.mem_singleton.mp hl] at hc
    cases hc
  | cons l ls => exact onlySpaces_of_mem_dedentLines hls

theorem sharedMargin_dedentBody (ls : List Text) : sharedMargin (dedentBody ls) = [] := by
  cases ls with
  | nil => rfl
  | cons l ls => exact sharedMargin_dedentLines (l :: ls)

theorem dedentLines_of_cleared (hls : ls.map emptyIfMargin = ls) :
    dedentLines ls = ls.map (·.drop (sharedMargin ls).length) := by
  show (ls.map emptyIfMargin).map (·.drop (sharedMargin (ls.map emptyIfMargin)).length) = _
  rw [hls]

theorem dedentLines_of_isCleared (hls : IsCleared ls) :
    dedentLines ls = ls.map (·.drop (sharedMargin ls).length) := by
  refine dedentLines_of_cleared ((List.map_congr_left fun l hl => ?_).trans (List.map_id ls))
  show emptyIfMargin l = l
  unfold emptyIfMargin
  split
  · rename_i hall
    exact (hls l hl (isBlank_of_all_isMargin hall)).symm
  · rfl

theorem dedentLines_eq_self (hls : IsCleared ls) (hmargin : sharedMargin ls = []) :
    dedentLines ls = ls := by
  rw [dedentLines_of_isCleared hls, hmargin]
  exact List.map_id ls

theorem takeWhile_stripRight (h : isBlank t = false) :
    (stripRight t).takeWhile isMargin = t.takeWhile isMargin := by
  obtain ⟨w, -, ht⟩ := exists_eq_stripRight_append t
  conv_rhs => rw [ht, List.takeWhile_append]
  rw [if_neg]
  intro hlength
  have hall := (List.takeWhile_prefix isMargin).eq_of_length hlength
  rw [List.takeWhile_eq_self_iff, ← List.all_eq_true] at hall
  rw [← isBlank_stripRight, isBlank_of_all_isMargin hall] at h
  cases h

/-- The margins of lines are those of the lines with text on them. -/
theorem margins_of_isCleared (hls : IsCleared ls) :
    margins ls = (paragraphs ls).flatten.map fun l => l.takeWhile isMargin := by
  have hempty : ls.filter (fun l => !l.isEmpty) = ls.filter fun l => !isBlank l := by
    refine List.filter_congr fun l hl => ?_
    cases hblank : isBlank l with
    | true => rw [hls l hl hblank, List.isEmpty_nil]
    | false =>
      cases l with
      | nil => cases hblank
      | cons c t => rfl
  rw [margins, hempty, flatten_paragraphs]

/-- Empty lines and white space at the ends of lines leave the margin as it is. -/
theorem sharedMargin_congr (hls : IsCleared ls) (hks : IsCleared ks)
    (h : (paragraphs ls).flatten = (paragraphs ks).flatten.map stripRight) :
    sharedMargin ls = sharedMargin ks := by
  rw [sharedMargin_eq, sharedMargin_eq, margins_of_isCleared hls, margins_of_isCleared hks, h, List.map_map]
  congr 1
  refine List.map_congr_left fun l hl => takeWhile_stripRight ?_
  rw [flatten_paragraphs, List.mem_filter] at hl
  simpa using hl.2

theorem stripRight_of_isSuffix (h : s <:+ t) (ht : stripRight t = t) : stripRight s = s := by
  obtain ⟨front, rfl⟩ := h
  rw [stripRight_eq_self_iff] at ht ⊢
  intro c hc
  exact ht c (by rw [List.getLast?_append, hc]; rfl)

/-- The last of some lines that are dedented. -/
theorem exists_dedentLines_concat (hl : isBlank l = false) (ls : List Text) :
    ∃ front k, dedentLines (ls ++ [l]) = front ++ [k] ∧ k <:+ l ∧ isBlank k = false := by
  have hcleared : emptyIfMargin l = l := by
    refine if_neg fun hall => ?_
    rw [isBlank_of_all_isMargin hall] at hl
    cases hl
  obtain ⟨front, n, hlines⟩ : ∃ front n, dedentLines (ls ++ [l]) = front ++ [l.drop n] := by
    rw [dedentLines, List.map_append, List.map_singleton, hcleared]
    exact ⟨_, _, List.map_append⟩
  refine ⟨front, l.drop n, hlines, List.drop_suffix n l, ?_⟩
  have hstrip := map_strip_dedentLines (ls ++ [l])
  rw [hlines, List.map_append, List.map_append] at hstrip
  have hlast := List.append_inj_right' hstrip rfl
  rw [← hl, ← isBlank_strip, ← isBlank_strip l, List.singleton_inj.mp hlast]

/-- One line at the margin is enough for no margin to be shared. -/
theorem sharedMargin_eq_nil (hl : c :: t ∈ ls) (hc : isSpace c = false) : sharedMargin ls = [] := by
  have hmargin : isMargin c = false := by
    rw [← Bool.not_eq_true] at hc ⊢
    exact fun h => hc (isSpace_of_isMargin h)
  have hle := length_sharedMargin_le hl (List.cons_ne_nil c t)
  rw [List.takeWhile_cons_of_neg (by rw [hmargin]; exact Bool.false_ne_true)] at hle
  exact List.eq_nil_of_length_eq_zero (Nat.le_zero.mp hle)

/-! ## Giving a margin -/

/-- A line with a margin, unless it is blank. -/
def indentedLine (m l : Text) : Text := if isBlank l then l else m ++ l

theorem indentedLine_eq_nil_iff (hl : isBlank l = true → l = []) : indentedLine m l = [] ↔ l = [] := by
  unfold indentedLine
  split
  · rfl
  · rename_i hblank
    constructor
    · intro h
      exact (List.append_eq_nil_iff.mp h).2
    · rintro rfl
      exact absurd rfl hblank

theorem isBlank_indentedLine (hm : isBlank m = true) (l : Text) :
    isBlank (indentedLine m l) = isBlank l := by
  unfold indentedLine
  split
  · rfl
  · rw [isBlank_append, hm, Bool.true_and]

theorem isUnbroken_indentedLine (hm : IsUnbroken m) (hl : IsUnbroken l) :
    IsUnbroken (indentedLine m l) := by
  unfold indentedLine
  split
  · exact hl
  · exact hm.append hl

theorem isUnbroken_intercalate {sep : Text} (hsep : IsUnbroken sep) (hls : ∀ l ∈ ls, IsUnbroken l) :
    IsUnbroken (sep.intercalate ls) := by
  intro c hc
  by_contra hbreak
  exact not_mem_intercalate (fun hmem => hbreak (hsep c hmem)) (fun l hl hmem => hbreak (hls l hl c hmem)) hc

theorem isCleared_map_indentedLine (hm : isBlank m = true) (hls : IsCleared ls) :
    IsCleared (ls.map (indentedLine m)) := by
  intro k hk hblank
  obtain ⟨l, hl, rfl⟩ := List.mem_map.mp hk
  rw [isBlank_indentedLine hm] at hblank
  exact (indentedLine_eq_nil_iff (hls l hl)).mpr (hls l hl hblank)

/-- **A margin given to dedented lines is what dedenting takes away.** -/
theorem dedentLines_indented (hm : m.all isMargin = true) (hls : IsCleared ls)
    (hmargin : sharedMargin ls = []) (hl : l ∈ ls) (hne : l ≠ []) :
    dedentLines (ls.map (indentedLine m)) = ls := by
  have hinked (l : Text) (hl : l ∈ ls) (hne : l ≠ []) : indentedLine m l = m ++ l :=
    if_neg fun hblank => hne (hls l hl hblank)
  have hshared : sharedMargin (ls.map (indentedLine m)) = m := by
    rw [sharedMargin_eq, margins_map (g := (m ++ ·)) fun l hl => indentedLine_eq_nil_iff (hls l hl)]
    · rw [commonMargin_map_append, ← sharedMargin_eq, hmargin, List.append_nil]
      refine List.ne_nil_of_mem (List.mem_map_of_mem (List.mem_filter.mpr ⟨hl, ?_⟩))
      simpa using hne
    · intro l hl hne
      rw [hinked l hl hne, List.takeWhile_append_of_pos (List.all_eq_true.mp hm)]
  have hcleared := isCleared_map_indentedLine (isBlank_of_all_isMargin hm) hls
  rw [dedentLines_of_isCleared hcleared, hshared, List.map_map]
  refine (List.map_congr_left fun l hl => ?_).trans (List.map_id ls)
  show (indentedLine m l).drop m.length = l
  by_cases hne : l = []
  · rw [(indentedLine_eq_nil_iff (hls l hl)).mpr hne, List.drop_nil, hne]
  · rw [hinked l hl hne, List.drop_left]

/-- The margin of printed descriptions. -/
def descMargin : Text := "    "

theorem isBlank_descMargin : isBlank descMargin = true := rfl

theorem isUnbroken_descMargin : IsUnbroken descMargin := by decide

/-! ## Blank lines at the ends -/

/-- Neither the first nor the last line is blank. -/
def IsTrimmed (ls : List Text) : Prop :=
  (∀ l, ls.head? = some l → isBlank l = false) ∧ ∀ l, ls.getLast? = some l → isBlank l = false

instance (ls : List Text) : Decidable (IsTrimmed ls) :=
  inferInstanceAs (Decidable ((∀ l ∈ ls.head?, isBlank l = false) ∧ ∀ l ∈ ls.getLast?, isBlank l = false))

theorem isTrimmed_trimBlankLines (ls : List Text) : IsTrimmed (trimBlankLines ls) := by
  constructor
  · intro l hl
    have hstarts : trimBlankLines ls <+: ls.dropWhile isBlank :=
      List.rdropWhile_prefix (l := ls.dropWhile isBlank) isBlank
    obtain ⟨back, hback⟩ := hstarts
    have hhead := List.head?_dropWhile_not isBlank ls
    rw [← hback, List.head?_append, hl] at hhead
    exact hhead
  · intro l hl
    have hlast := List.head?_dropWhile_not isBlank (ls.dropWhile isBlank).reverse
    rw [trimBlankLines, List.getLast?_reverse] at hl
    rw [hl] at hlast
    exact hlast

theorem IsTrimmed.map {f : Text → Text} (hf : ∀ l, isBlank (f l) = isBlank l) (h : IsTrimmed ls) :
    IsTrimmed (ls.map f) := by
  constructor
  · intro k hk
    rw [List.head?_map] at hk
    obtain ⟨l, hl, rfl⟩ := Option.map_eq_some_iff.mp hk
    rw [hf, h.1 l hl]
  · intro k hk
    rw [List.getLast?_map] at hk
    obtain ⟨l, hl, rfl⟩ := Option.map_eq_some_iff.mp hk
    rw [hf, h.2 l hl]

theorem trimBlankLines_append_replicate (h : IsTrimmed ls) (n : Nat) :
    trimBlankLines (ls ++ List.replicate n []) = ls := by
  unfold trimBlankLines
  have hback : (List.replicate n ([] : Text)).dropWhile isBlank = [] :=
    List.dropWhile_eq_nil_iff.mpr fun l hl => by rw [List.eq_of_mem_replicate hl]; rfl
  have hfront : (ls ++ List.replicate n []).dropWhile isBlank =
      if ls = [] then [] else ls ++ List.replicate n [] := by
    cases ls with
    | nil => exact hback
    | cons l ls =>
      rw [List.cons_append, List.dropWhile_cons_of_neg, if_neg (List.cons_ne_nil l ls)]
      rw [h.1 l rfl]
      exact Bool.false_ne_true
  rw [hfront]
  split
  · rename_i hnil
    rw [hnil]
    rfl
  · rename_i hne
    obtain ⟨init, last, rfl⟩ : ∃ init last, ls = init ++ [last] :=
      ⟨ls.dropLast, ls.getLast hne, (List.dropLast_append_getLast hne).symm⟩
    have hlast := h.2 last List.getLast?_concat
    rw [List.reverse_append, List.reverse_replicate, List.dropWhile_append, hback]
    show ((init ++ [last]).reverse.dropWhile isBlank).reverse = init ++ [last]
    rw [List.reverse_concat, List.dropWhile_cons_of_neg (by rw [hlast]; exact Bool.false_ne_true),
      List.reverse_cons, List.reverse_reverse]

/-! ## Lines with a newline behind each -/

def ended (ls : List Text) : Text := ls.flatMap (· ++ ['\n'])

theorem ended_cons (l : Text) (ls : List Text) : ended (l :: ls) = l ++ '\n' :: ended ls := by
  show l ++ ['\n'] ++ ended ls = _
  rw [List.append_assoc, List.singleton_append]

theorem ended_append (ls ks : List Text) : ended (ls ++ ks) = ended ls ++ ended ks := List.flatMap_append

theorem splitLines_ended (hls : ∀ l ∈ ls, IsUnbroken l) : splitLines (ended ls) = ls := by
  induction ls with
  | nil => rfl
  | cons l ls ih =>
    rw [List.forall_mem_cons] at hls
    rw [ended_cons, splitLines_unbroken_newline hls.1, ih hls.2]

theorem ended_eq_unlines (ls : List Text) : ended ls = unlines (ls ++ [[]]) := by
  unfold unlines
  induction ls with
  | nil => rfl
  | cons l ls ih =>
    have hne : ls ++ [[]] ≠ [] := by simp
    rw [ended_cons, ih, List.cons_append, List.intercalate_cons_of_ne_nil hne, List.append_assoc,
      List.singleton_append]

theorem isBlank_ended (ls : List Text) : isBlank (ended ls) = ls.all isBlank := by
  rw [ended_eq_unlines, isBlank_unlines, List.all_append]
  exact Bool.and_true _

theorem unlines_append_newline (hls : ls ≠ []) : unlines ls ++ ['\n'] = ended ls := by
  unfold unlines
  induction ls with
  | nil => exact absurd rfl hls
  | cons l ls ih =>
    cases ls with
    | nil => rw [List.intercalate_singleton, ended_cons]; rfl
    | cons k ks =>
      rw [List.intercalate_cons_cons, List.append_assoc, List.append_assoc, ih (List.cons_ne_nil k ks),
        ended_cons l]
      rfl

theorem onlyNewlines_ended (hls : ∀ l ∈ ls, IsUnbroken l) : OnlyNewlines (ended ls) := by
  intro c hc hbreak
  obtain ⟨l, hl, hc⟩ := List.mem_flatMap.mp hc
  rcases List.mem_append.mp hc with hc | hc
  · exact (hls l hl).onlyNewlines c hc hbreak
  · exact List.mem_singleton.mp hc

theorem splitOn_ended (hls : ∀ l ∈ ls, '\n' ∉ l) : (ended ls).splitOn '\n' = ls ++ [[]] := by
  rw [ended_eq_unlines]
  refine List.splitOn_intercalate '\n' (fun l hl => ?_) (by simp)
  rcases List.mem_append.mp hl with hl | hl
  · exact hls l hl
  · rw [List.mem_singleton.mp hl]
    exact List.not_mem_nil

theorem indentFrom_unbroken (hl : IsUnbroken l) : indentFrom m true l = indentedLine m l := by
  cases l with
  | nil => rfl
  | cons c r =>
    have hstart : startsBlank (c :: r) = isBlank (c :: r) := by
      unfold startsBlank
      rw [List.takeWhile_eq_self_iff.mpr fun a ha => by rw [hl a ha]; rfl]
    rw [indentFrom, hstart, hl c List.mem_cons_self,
      indentFrom_rest fun a ha => hl a (List.mem_cons_of_mem c ha), indentedLine]
    cases isBlank (c :: r) <;> rfl

/-! ## The lines of an indented text -/

/-- Lines with a margin, except that the first may be the rest of a line. -/
def indentedLines (m : Text) (atStart : Bool) : List Text → List Text
  | [] => []
  | l :: ls => (if atStart then indentedLine m l else l) :: ls.map (indentedLine m)

theorem indentedLines_true (m : Text) (ls : List Text) :
    indentedLines m true ls = ls.map (indentedLine m) := by
  cases ls <;> rfl

theorem map_strip_indentedLines (hm : isBlank m = true) (atStart : Bool) (ls : List Text) :
    (indentedLines m atStart ls).map strip = ls.map strip := by
  have hstrip (l : Text) : strip (indentedLine m l) = strip l := by
    unfold indentedLine
    split
    · rfl
    · exact strip_blank_append hm l
  cases ls with
  | nil => rfl
  | cons l ls =>
    have hfirst : strip (if atStart then indentedLine m l else l) = strip l := by
      split
      · exact hstrip l
      · rfl
    rw [indentedLines, List.map_cons, List.map_map, List.map_cons, hfirst]
    exact congrArg _ (List.map_congr_left fun k _ => hstrip k)

theorem head?_of_indentFrom (hm : IsUnbroken m) {atStart : Bool}
    (h : (indentFrom m atStart t).head? = some '\n') : t.head? = some '\n' := by
  cases t with
  | nil => exact h
  | cons c r =>
    rw [indentFrom] at h
    split at h
    · cases m with
      | nil => exact h
      | cons a m =>
        -- No margin begins with a newline.
        obtain rfl := Option.some.inj h
        cases hm '\n' List.mem_cons_self
    · exact h

/-- A line boundary is never behind a margin. -/
theorem indentFrom_cons_break {atStart : Bool} (hc : isLineBreak c = true) (t : Text) :
    indentFrom m atStart (c :: t) = c :: indentFrom m true t := by
  rw [indentFrom, startsBlank_cons_break hc, hc, Bool.not_true, Bool.and_false]
  rfl

/-- The first line of a text has the margin in front, and the others are not touched by it. -/
theorem splitLines_indentFrom_char {atStart : Bool} (hm : IsUnbroken m) (hc : isLineBreak c = false)
    (hfirst : startsBlank (c :: t) = isBlank l) (hrest : splitLines (c :: indentFrom m false t) = l :: ls) :
    splitLines (indentFrom m atStart (c :: t)) = (if atStart then indentedLine m l else l) :: ls := by
  rw [indentFrom, hc, hfirst]
  unfold indentedLine
  cases atStart with
  | false => exact hrest
  | true =>
    cases isBlank l with
    | true => exact hrest
    | false => exact splitLines_unbroken_append hm hrest

/-- **Indenting gives each line that is not blank the margin.** -/
theorem splitLines_indentFrom (hm : IsUnbroken m) (atStart : Bool) (t : Text) :
    splitLines (indentFrom m atStart t) = indentedLines m atStart (splitLines t) := by
  have hempty (atStart : Bool) : (if atStart then indentedLine m [] else []) = [] := by
    cases atStart <;> rfl
  fun_induction endedLines t generalizing atStart with
  | case1 => rfl
  | case2 r ih =>
    have hlines := ih true
    rw [indentFrom_cons_break (by decide), indentFrom_cons_break (by decide)]
    unfold splitLines at hlines ⊢
    rw [endedLines, endedLines, List.map_cons, List.map_cons, hlines, indentedLines, hempty,
      indentedLines_true]
  | case3 c r hr hbreak ih =>
    have hlines := ih true
    have hhead : c ≠ '\r' ∨ r.head? ≠ some '\n' := by
      refine or_iff_not_imp_left.mpr fun hc h => ?_
      obtain ⟨r', rfl⟩ := List.head?_eq_some_iff.mp h
      exact hr r' (not_not.mp hc) rfl
    -- The line below begins with a newline only if it did before.
    have hhead' : c ≠ '\r' ∨ (indentFrom m true r).head? ≠ some '\n' :=
      hhead.imp_right (mt (head?_of_indentFrom hm))
    rw [indentFrom_cons_break hbreak]
    unfold splitLines at hlines ⊢
    rw [endedLines_break hbreak hhead', endedLines_break hbreak hhead, List.map_cons, List.map_cons, hlines,
      indentedLines, hempty, indentedLines_true]
  | case4 c r hr hbreak hnil ih =>
    obtain rfl := endedLines_eq_nil_iff.mp hnil
    have hc : isLineBreak c = false := by simpa using hbreak
    have hline : splitLines [c] = [[c]] := by
      rw [splitLines, endedLines_char hc]
      rfl
    rw [splitLines_indentFrom_char hm hc (startsBlank_eq hline) hline, hline]
    rfl
  | case5 c r hr hbreak line ending more heq ih =>
    -- The character joins the first line of the rest, which gets no margin of its own.
    have hc : IsUnbroken [c] := by simpa [IsUnbroken] using hbreak
    have hlines : splitLines r = line :: more.map (·.1) := by
      rw [splitLines, heq, List.map_cons]
    have hrest := ih false
    rw [hlines, indentedLines, if_neg Bool.false_ne_true] at hrest
    have hjoined : splitLines (c :: r) = (c :: line) :: more.map (·.1) := splitLines_unbroken_append hc hlines
    rw [splitLines_indentFrom_char hm (hc c List.mem_cons_self) (startsBlank_eq hjoined)
      (splitLines_unbroken_append hc hrest), hjoined]
    rfl

theorem indent_unlines (hls : ∀ l ∈ ls, IsUnbroken l) (hne : ls ≠ []) :
    indent m (unlines ls) ++ ['\n'] = ended (ls.map (indentedLine m)) := by
  rw [indent_eq_indentFrom]
  unfold unlines
  induction ls with
  | nil => exact absurd rfl hne
  | cons l ls ih =>
    rw [List.forall_mem_cons] at hls
    cases ls with
    | nil =>
      rw [List.intercalate_singleton, indentFrom_unbroken hls.1, List.map_singleton, ended_cons]
      rfl
    | cons k ks =>
      rw [List.intercalate_cons_cons, List.append_assoc, List.singleton_append,
        indentFrom_append_newline, indentFrom_unbroken hls.1, List.append_assoc, List.cons_append,
        ih hls.2 (List.cons_ne_nil k ks), ← ended_cons, ← List.map_cons]

end DocTidy.Text
