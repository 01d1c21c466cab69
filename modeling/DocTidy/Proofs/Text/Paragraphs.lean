import DocTidy.Proofs.Text.Indent

/-!
# Paragraphs

Blank lines hold paragraphs apart and belong to none.  A text is cut into stripped lines and these
into paragraphs, which do not depend on the white space at the ends of the text or of its lines.
-/

namespace DocTidy.Text

variable {l : Text} {ls ls' : List Text} {s t w : Text} {c : Char}

theorem paragraphs_cons_blank (hl : isBlank l = true) (ls : List Text) :
    paragraphs (l :: ls) = paragraphs ls := by
  cases ls with
  | nil => simp [paragraphs, hl]
  | cons next r => rw [paragraphs, if_pos hl]

/-- A line that is not blank begins a paragraph, or continues one. -/
theorem paragraphs_cons (hl : isBlank l = false) (ls : List Text) :
    ∃ p ps, paragraphs (l :: ls) = (l :: p) :: ps := by
  cases ls with
  | nil => exact ⟨[], [], by rw [paragraphs, hl, if_neg (by decide)]⟩
  | cons next r =>
    rw [paragraphs, hl, if_neg (by decide)]
    split
    · exact ⟨[], _, rfl⟩
    · split
      · exact ⟨[], [], rfl⟩
      · exact ⟨_, _, rfl⟩

/-- A line with text joins the paragraph that the next line begins. -/
theorem paragraphs_cons_cons {k : Text} (hl : isBlank l = false) (hk : isBlank k = false)
    (ls : List Text) :
    ∃ p ps, paragraphs (k :: ls) = (k :: p) :: ps ∧ paragraphs (l :: k :: ls) = (l :: k :: p) :: ps := by
  obtain ⟨p, ps, hp⟩ := paragraphs_cons hk ls
  refine ⟨p, ps, hp, ?_⟩
  rw [paragraphs, hl, hk, if_neg (by decide), if_neg (by decide), hp]

theorem paragraphs_append_blank (hl : isBlank l = true) (ls ls' : List Text) :
    paragraphs (ls ++ l :: ls') = paragraphs ls ++ paragraphs ls' := by
  fun_induction paragraphs ls with
  | case1 => exact paragraphs_cons_blank hl ls'
  | case2 k hk => exact (paragraphs_cons_blank hk _).trans (paragraphs_cons_blank hl ls')
  | case3 k hk =>
    rw [List.singleton_append, paragraphs, if_neg hk, if_pos hl, paragraphs_cons_blank hl]
    rfl
  | case4 k next r hk ih => exact (paragraphs_cons_blank hk _).trans ih
  | case5 k next r hk hnext ih =>
    rw [List.cons_append, List.cons_append, paragraphs, if_neg hk, if_pos hnext]
    rw [List.cons_append] at ih
    rw [ih]
    rfl
  | case6 k next r hk hnext hnil ih =>
    obtain ⟨p, ps, hp⟩ := paragraphs_cons (by simpa using hnext) r
    rw [hp] at hnil
    cases hnil
  | case7 k next r hk hnext p ps hp ih =>
    rw [List.cons_append, List.cons_append, paragraphs, if_neg hk, if_neg hnext]
    rw [List.cons_append] at ih
    rw [ih, hp]
    rfl

/-- Only which lines are blank decides how they are cut. -/
theorem paragraphs_map {f : Text → Text} (hf : ∀ l, isBlank (f l) = isBlank l) (ls : List Text) :
    paragraphs (ls.map f) = (paragraphs ls).map (·.map f) := by
  fun_induction paragraphs ls with
  | case1 => rfl
  | case2 k hk => rw [List.map_singleton, paragraphs, hf, if_pos hk, List.map_nil]
  | case3 k hk =>
    rw [List.map_singleton, paragraphs, hf, if_neg hk]
    rfl
  | case4 k next r hk ih => exact (paragraphs_cons_blank ((hf k).trans hk) _).trans ih
  | case5 k next r hk hnext ih =>
    rw [List.map_cons] at ih
    rw [List.map_cons, List.map_cons, paragraphs, hf, hf, if_neg hk, if_pos hnext, ih]
    rfl
  | case6 k next r hk hnext hnil ih =>
    obtain ⟨p, ps, hp⟩ := paragraphs_cons (by simpa using hnext) r
    rw [hp] at hnil
    cases hnil
  | case7 k next r hk hnext p ps hp ih =>
    rw [List.map_cons, hp] at ih
    rw [List.map_cons, List.map_cons, paragraphs, hf, hf, if_neg hk, if_neg hnext, ih]
    rfl

/-- The paragraphs hold all lines that are not blank, in order. -/
theorem flatten_paragraphs (ls : List Text) :
    (paragraphs ls).flatten = ls.filter fun l => !isBlank l := by
  fun_induction paragraphs ls with
  | case1 => rfl
  | case2 k hk => simp [hk]
  | case3 k hk => simp [hk]
  | case4 k next r hk ih =>
    rw [ih]
    exact (List.filter_cons_of_neg (by simp [hk])).symm
  | case5 k next r hk hnext ih =>
    rw [List.flatten_cons, ih]
    exact (List.filter_cons_of_pos (by simp [hk])).symm
  | case6 k next r hk hnext hnil ih =>
    obtain ⟨p, ps, hp⟩ := paragraphs_cons (by simpa using hnext) r
    rw [hp] at hnil
    cases hnil
  | case7 k next r hk hnext p ps hp ih =>
    rw [hp] at ih
    rw [List.flatten_cons, List.cons_append, List.filter_cons_of_pos (by simp [hk]), ← ih]
    rfl

theorem mem_of_mem_paragraphs {p : List Text} (hp : p ∈ paragraphs ls) (hl : l ∈ p) :
    l ∈ ls ∧ isBlank l = false := by
  have hmem : l ∈ (paragraphs ls).flatten := List.mem_flatten.mpr ⟨p, hp, hl⟩
  rw [flatten_paragraphs, List.mem_filter] at hmem
  simpa using hmem

/-- Lines that are not blank are one paragraph. -/
theorem paragraphs_of_inked (hne : ls ≠ []) (hls : ∀ l ∈ ls, isBlank l = false) : paragraphs ls = [ls] := by
  induction ls with
  | nil => exact absurd rfl hne
  | cons l ls ih =>
    obtain ⟨hl, hrest⟩ := List.forall_mem_cons.mp hls
    cases ls with
    | nil => rw [paragraphs, hl, if_neg (by decide)]
    | cons k ls =>
      have hk := hrest k List.mem_cons_self
      rw [paragraphs, hl, hk, if_neg (by decide), if_neg (by decide), ih (List.cons_ne_nil k ls) hrest]

/-- Lines are gone through run by run: each blank line is reached behind a run of lines that are not. -/
theorem runs_induction {motive : List Text → Prop}
    (run : ∀ ls, (∀ l ∈ ls, isBlank l = false) → motive ls)
    (blank : ∀ ls l rest, (∀ k ∈ ls, isBlank k = false) → isBlank l = true → motive rest →
      motive (ls ++ l :: rest)) (ls : List Text) : motive ls := by
  suffices h : ∀ front : List Text, (∀ l ∈ front, isBlank l = false) → motive (front ++ ls) from
    h [] fun l hl => absurd hl List.not_mem_nil
  induction ls with
  | nil =>
    intro front hfront
    rw [List.append_nil]
    exact run front hfront
  | cons l ls ih =>
    intro front hfront
    cases hl : isBlank l with
    | true => exact blank front l ls hfront hl (ih [] fun k hk => absurd hk List.not_mem_nil)
    | false =>
      have hmore := ih (front ++ [l]) (List.forall_mem_append.mpr ⟨hfront, by simpa using hl⟩)
      simpa using hmore

/-! ## Blank lines at the ends -/

theorem exists_trimBlankLines (ls : List Text) : ∃ front back,
    (∀ l ∈ front, isBlank l = true) ∧ (∀ l ∈ back, isBlank l = true) ∧
      ls = front ++ trimBlankLines ls ++ back := by
  refine ⟨ls.takeWhile isBlank, (ls.dropWhile isBlank).rtakeWhile isBlank, ?_, ?_, ?_⟩
  · exact fun l hl => List.mem_takeWhile_imp hl
  · exact fun l hl => List.mem_rtakeWhile_imp hl
  · show ls = ls.takeWhile isBlank ++ (ls.dropWhile isBlank).rdropWhile isBlank ++ _
    rw [List.append_assoc, List.rdropWhile_append_rtakeWhile, List.takeWhile_append_dropWhile]

theorem trimBlankLines_cons_blank (hl : isBlank l = true) (ls : List Text) :
    trimBlankLines (l :: ls) = trimBlankLines ls := by
  rw [trimBlankLines, List.dropWhile_cons_of_pos hl, trimBlankLines]

theorem trimBlankLines_append_blank (hl : isBlank l = true) (ls : List Text) :
    trimBlankLines (ls ++ [l]) = trimBlankLines ls := by
  unfold trimBlankLines
  rw [List.dropWhile_append]
  split
  · -- All lines are blank.
    rename_i hnil
    rw [List.isEmpty_iff.mp hnil, List.dropWhile_cons_of_pos hl]
    rfl
  · rw [List.reverse_concat, List.dropWhile_cons_of_pos hl]

theorem trimBlankLines_eq_nil (hls : ∀ l ∈ ls, isBlank l = true) : trimBlankLines ls = [] := by
  rw [trimBlankLines, List.dropWhile_eq_nil_iff.mpr hls]
  rfl

theorem paragraphs_blank_append (hls : ∀ l ∈ ls, isBlank l = true) (ls' : List Text) :
    paragraphs (ls ++ ls') = paragraphs ls' := by
  induction ls with
  | nil => rfl
  | cons l ls ih =>
    rw [List.forall_mem_cons] at hls
    rw [List.cons_append, paragraphs_cons_blank hls.1, ih hls.2]

theorem paragraphs_eq_nil_iff : paragraphs ls = [] ↔ ∀ l ∈ ls, isBlank l = true := by
  constructor
  · intro h l hl
    have hfilter := flatten_paragraphs ls
    rw [h, List.flatten_nil, eq_comm, List.filter_eq_nil_iff] at hfilter
    simpa using hfilter l hl
  · intro h
    have hnone := paragraphs_blank_append h []
    rwa [List.append_nil] at hnone

/-- Blank lines at the ends belong to no paragraph. -/
theorem paragraphs_trimBlankLines (ls : List Text) : paragraphs (trimBlankLines ls) = paragraphs ls := by
  obtain ⟨front, back, hfront, hback, hls⟩ := exists_trimBlankLines ls
  conv_rhs => rw [hls, List.append_assoc, paragraphs_blank_append hfront]
  cases back with
  | nil => rw [List.append_nil]
  | cons l back =>
    rw [List.forall_mem_cons] at hback
    rw [paragraphs_append_blank hback.1, paragraphs_eq_nil_iff.mpr hback.2]
    exact (List.append_nil _).symm

/-! ## Stripped lines -/

theorem isBlank_strip (t : Text) : isBlank (strip t) = isBlank t := by
  rw [strip, isBlank_stripRight, isBlank_stripLeft]

theorem strip_blank_append (hw : isBlank w = true) (t : Text) : strip (w ++ t) = strip t := by
  rw [strip, stripLeft_blank_append hw, strip]

theorem strip_append_blank (hw : isBlank w = true) (t : Text) : strip (t ++ w) = strip t := by
  unfold strip
  cases ht : isBlank t with
  | true =>
    rw [stripLeft_eq_nil_iff.mpr (by rw [isBlank_append, ht, hw]; rfl),
      stripLeft_eq_nil_iff.mpr ht]
  | false => rw [stripLeft_append ht, stripRight_append_blank hw]

/-- Stripping leaves no white space at the ends. -/
theorem strip_strip (t : Text) : strip (strip t) = strip t := by
  have hleft : stripLeft (strip t) = strip t := by
    cases ht : isBlank t with
    | true =>
      rw [strip, stripLeft_eq_nil_iff.mpr ht]
      rfl
    | false =>
      obtain ⟨w, hw, hsplit⟩ := exists_eq_stripRight_append (stripLeft t)
      have hstripped : isBlank (strip t) = false := (isBlank_strip t).trans ht
      have hboth : stripLeft (strip t) ++ w = strip t ++ w := by
        rw [← stripLeft_append hstripped, strip, ← hsplit]
        exact List.dropWhile_idempotent isSpace t
      exact List.append_cancel_right hboth
  have hright : stripRight (strip t) = strip t := List.rdropWhile_idempotent isSpace (stripLeft t)
  conv_lhs => rw [strip, hleft, hright]

/-- Stripped text begins with text. -/
theorem isSpace_of_strip_eq_cons {r : Text} (h : strip t = c :: r) : isSpace c = false := by
  obtain ⟨w, -, hsplit⟩ := exists_eq_stripRight_append (stripLeft t)
  have hhead := List.head?_dropWhile_not isSpace t
  rw [← stripLeft, hsplit, ← strip, h] at hhead
  simpa using hhead

theorem strip_stripRight (t : Text) : strip (stripRight t) = strip t := by
  obtain ⟨w, hw, ht⟩ := exists_eq_stripRight_append t
  conv_rhs => rw [ht, strip_append_blank hw]

theorem not_mem_stripRight (h : c ∉ t) : c ∉ stripRight t := by
  obtain ⟨w, -, ht⟩ := exists_eq_stripRight_append t
  rw [ht] at h
  exact fun hmem => h (List.mem_append_left w hmem)

theorem not_mem_strip (h : c ∉ t) : c ∉ strip t :=
  not_mem_stripRight fun hmem => h ((List.dropWhile_sublist isSpace).subset hmem)

theorem not_mem_intercalate (hs : c ∉ s) (hls : ∀ l ∈ ls, c ∉ l) : c ∉ s.intercalate ls := by
  induction ls with
  | nil => exact List.not_mem_nil
  | cons l ls ih =>
    have hl := hls l List.mem_cons_self
    have hrest := ih fun k hk => hls k (List.mem_cons_of_mem _ hk)
    cases ls with
    | nil => rwa [List.intercalate_singleton]
    | cons k ks =>
      rw [List.intercalate_cons_cons, List.mem_append, List.mem_append, not_or, not_or]
      exact ⟨⟨hl, hs⟩, hrest⟩

theorem mem_intercalate (hl : l ∈ ls) (hc : c ∈ l) : c ∈ s.intercalate ls := by
  induction ls with
  | nil => cases hl
  | cons k ls ih =>
    rcases List.mem_cons.mp hl with rfl | hl
    · cases ls with
      | nil => rwa [List.intercalate_singleton]
      | cons m ls =>
        rw [List.intercalate_cons_cons]
        exact List.mem_append_left _ (List.mem_append_left _ hc)
    · rw [List.intercalate_cons_of_ne_nil (List.ne_nil_of_mem hl)]
      exact List.mem_append_right _ (ih hl)

theorem isBlank_intercalate (hs : isBlank s = true) (ls : List Text) :
    isBlank (s.intercalate ls) = ls.all isBlank := by
  induction ls with
  | nil => rfl
  | cons l ls ih =>
    cases ls with
    | nil => simp
    | cons k ls =>
      rw [List.intercalate_cons_cons, isBlank_append, isBlank_append, hs, ih, Bool.and_true]
      rfl

theorem isBlank_unlines (ls : List Text) : isBlank (unlines ls) = ls.all isBlank :=
  isBlank_intercalate rfl ls

theorem all_isBlank_eq_false (hl : l ∈ ls) (hblank : isBlank l = false) : ls.all isBlank = false :=
  List.all_eq_false.mpr ⟨l, hl, by simp [hblank]⟩

/-- The lines of a text, stripped, from the first one that is not blank to the last one. -/
def strippedLines (t : Text) : List Text := trimBlankLines ((t.splitOn '\n').map strip)

theorem strippedLines_cons_space (hc : isSpace c = true) (t : Text) :
    strippedLines (c :: t) = strippedLines t := by
  unfold strippedLines
  rw [List.splitOn_cons_eq_if_modifyHead]
  split
  · exact trimBlankLines_cons_blank rfl _
  · obtain ⟨l, ls, hl⟩ := List.exists_cons_of_ne_nil (List.splitOn_ne_nil '\n' t)
    have hstrip : strip (c :: l) = strip l := strip_blank_append (w := [c]) (by simp [hc]) l
    rw [hl, List.modifyHead_cons, List.map_cons, List.map_cons, hstrip]

/-- A character that is no newline, at the end of a text, ends the last line. -/
theorem splitOn_append_char (hc : c ≠ '\n') (t : Text) :
    ∃ ls l, t.splitOn '\n' = ls ++ [l] ∧ (t ++ [c]).splitOn '\n' = ls ++ [l ++ [c]] := by
  have hline {l : Text} (hl : '\n' ∉ l) : (l ++ [c]).splitOn '\n' = [l ++ [c]] := by
    apply List.splitOn_eq_singleton
    simp [hl, hc.symm]
  by_cases hmem : '\n' ∈ t
  · -- Found from the end, the first newline is the last one of the text.
    obtain ⟨v, u, ht, hv⟩ := List.eq_append_cons_of_mem (List.mem_reverse.mpr hmem)
    rw [List.mem_reverse.symm] at hv
    have ht' : t = u.reverse ++ '\n' :: v.reverse := by
      rw [← List.reverse_reverse t, ht]
      simp
    refine ⟨u.reverse.splitOn '\n', v.reverse, ?_, ?_⟩
    · rw [ht', List.splitOn_append_cons_self, List.splitOn_eq_singleton hv]
    · rw [ht', List.append_assoc, List.cons_append, List.splitOn_append_cons_self, hline hv]
  · exact ⟨[], t, List.splitOn_eq_singleton hmem, hline hmem⟩

theorem strippedLines_append_space (hc : isSpace c = true) (t : Text) :
    strippedLines (t ++ [c]) = strippedLines t := by
  unfold strippedLines
  by_cases hnewline : c = '\n'
  · rw [hnewline, List.splitOn_append_cons_self, List.map_append]
    exact trimBlankLines_append_blank rfl _
  · obtain ⟨ls, l, hl, hlc⟩ := splitOn_append_char hnewline t
    have hstrip : strip (l ++ [c]) = strip l := strip_append_blank (by simp [hc]) l
    rw [hl, hlc, List.map_append, List.map_append, List.map_singleton, List.map_singleton, hstrip]

theorem strippedLines_blank_append (hw : isBlank w = true) (t : Text) :
    strippedLines (w ++ t) = strippedLines t := by
  induction w with
  | nil => rfl
  | cons c w ih =>
    obtain ⟨hc, hw⟩ : isSpace c = true ∧ isBlank w = true := by simpa using hw
    rw [List.cons_append, strippedLines_cons_space hc, ih hw]

theorem strippedLines_append_blank (hw : isBlank w = true) (t : Text) :
    strippedLines (t ++ w) = strippedLines t := by
  induction w generalizing t with
  | nil => rw [List.append_nil]
  | cons c w ih =>
    obtain ⟨hc, hw⟩ : isSpace c = true ∧ isBlank w = true := by simpa using hw
    have hsplit : t ++ c :: w = (t ++ [c]) ++ w := by simp
    rw [hsplit, ih hw, strippedLines_append_space hc]

theorem strippedLines_stripLeft (t : Text) : strippedLines (stripLeft t) = strippedLines t := by
  conv_rhs => rw [← List.takeWhile_append_dropWhile (p := isSpace) (l := t)]
  exact (strippedLines_blank_append List.all_takeWhile _).symm

theorem strippedLines_stripRight (t : Text) : strippedLines (stripRight t) = strippedLines t := by
  obtain ⟨w, hw, ht⟩ := exists_eq_stripRight_append t
  conv_rhs => rw [ht, strippedLines_append_blank hw]

/-! ## Stripped paragraphs -/

/-- The paragraphs of a text, with their lines stripped. -/
def strippedParagraphs (t : Text) : List (List Text) := paragraphs ((t.splitOn '\n').map strip)

theorem paragraphs_strippedLines (t : Text) : paragraphs (strippedLines t) = strippedParagraphs t :=
  paragraphs_trimBlankLines _

theorem strippedParagraphs_congr (h : strippedLines s = strippedLines t) :
    strippedParagraphs s = strippedParagraphs t := by
  rw [← paragraphs_strippedLines, h, paragraphs_strippedLines]

theorem strippedParagraphs_append_space (hc : isSpace c = true) (t : Text) :
    strippedParagraphs (t ++ [c]) = strippedParagraphs t :=
  strippedParagraphs_congr (strippedLines_append_space hc t)

theorem strippedParagraphs_blank_append (hw : isBlank w = true) (t : Text) :
    strippedParagraphs (w ++ t) = strippedParagraphs t :=
  strippedParagraphs_congr (strippedLines_blank_append hw t)

theorem strippedParagraphs_append_blank (hw : isBlank w = true) (t : Text) :
    strippedParagraphs (t ++ w) = strippedParagraphs t :=
  strippedParagraphs_congr (strippedLines_append_blank hw t)

theorem strippedParagraphs_stripLeft (t : Text) :
    strippedParagraphs (stripLeft t) = strippedParagraphs t :=
  strippedParagraphs_congr (strippedLines_stripLeft t)

theorem strippedParagraphs_stripRight (t : Text) :
    strippedParagraphs (stripRight t) = strippedParagraphs t :=
  strippedParagraphs_congr (strippedLines_stripRight t)

/-- An empty line holds what is above it and what is below it apart. -/
theorem strippedParagraphs_append (s t : Text) :
    strippedParagraphs (s ++ '\n' :: '\n' :: t) = strippedParagraphs s ++ strippedParagraphs t := by
  unfold strippedParagraphs
  have hempty : ('\n' :: t).splitOn '\n' = [] :: t.splitOn '\n' :=
    List.splitOn_append_cons_self [] t
  rw [List.splitOn_append_cons_self, hempty, List.map_append, List.map_cons]
  exact paragraphs_append_blank rfl _ _

end DocTidy.Text
