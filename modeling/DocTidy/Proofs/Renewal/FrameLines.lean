import DocTidy.Proofs.Margin
import DocTidy.Proofs.Renewal.Prose

/-!
# The lines of a filled frame

Lines that are put into a frame lose white space at both ends and gain a margin.  Reading takes the
margin off again, together with a margin that the lines had before: what the reader sees are the lines
themselves exactly when they have no margin of their own and lose nothing at the end.
-/

namespace DocTidy

open Text

/-! ## Texts of lines -/

namespace Text

variable {m t l : Text} {ls ks : List Text}

theorem unlines_cons_cons (l k : Text) (ls : List Text) : unlines (l :: k :: ls) = l ++ '\n' :: unlines (k :: ls) := by
  unfold unlines
  rw [List.intercalate_cons_cons, List.append_assoc]
  rfl

theorem unlines_singleton (l : Text) : unlines [l] = l := List.intercalate_singleton

theorem append_unlines (t l : Text) (ls : List Text) : t ++ unlines (l :: ls) = unlines ((t ++ l) :: ls) := by
  cases ls with
  | nil => rw [unlines_singleton, unlines_singleton]
  | cons k ls => rw [unlines_cons_cons, unlines_cons_cons, List.append_assoc]

/-- A last line that is not ended. -/
theorem ended_append_line (ls : List Text) (l : Text) : ended ls ++ l = unlines (ls ++ [l]) := by
  induction ls with
  | nil => exact (unlines_singleton l).symm
  | cons k ls ih =>
    rw [ended_cons, List.append_assoc, List.cons_append, ih]
    cases ls <;> exact (unlines_cons_cons _ _ _).symm

theorem onlyNewlines_unlines (hls : ∀ l ∈ ls, IsUnbroken l) : OnlyNewlines (unlines ls) := by
  cases ls with
  | nil => exact fun c hc => absurd hc List.not_mem_nil
  | cons l ls =>
    have hended := onlyNewlines_ended hls
    rw [← unlines_append_newline (List.cons_ne_nil l ls)] at hended
    exact hended.mono (List.subset_append_left _ _)

theorem splitOn_unlines (hls : ∀ l ∈ ls, IsUnbroken l) (hne : ls ≠ []) : (unlines ls).splitOn '\n' = ls := by
  refine List.splitOn_intercalate '\n' (fun l hl hmem => ?_) hne
  cases hls l hl '\n' hmem

/-- A margin in front of the lines of a text. -/
theorem indentFrom_unlines (hls : ∀ l ∈ ls, IsUnbroken l) (atStart : Bool) :
    indentFrom m atStart (unlines ls) = unlines (indentedLines m atStart ls) := by
  induction ls generalizing atStart with
  | nil => rfl
  | cons l ls ih =>
    rw [List.forall_mem_cons] at hls
    have hfirst : indentFrom m atStart l = if atStart then indentedLine m l else l := by
      cases atStart with
      | true => exact indentFrom_unbroken hls.1
      | false => exact indentFrom_rest hls.1
    cases ls with
    | nil => rw [unlines_singleton, hfirst, indentedLines, List.map_nil, unlines_singleton]
    | cons k ls =>
      rw [unlines_cons_cons, indentFrom_append_newline, ih hls.2, hfirst, indentedLines_true]
      exact (unlines_cons_cons _ _ _).symm

/-! ## Lines that are dedented again -/

theorem sharedMargin_nil_cons (ls : List Text) : sharedMargin ([] :: ls) = sharedMargin ls := rfl

theorem sharedMargin_append_empty (hks : ∀ k ∈ ks, k = []) (ls : List Text) :
    sharedMargin (ls ++ ks) = sharedMargin ls := by
  rw [sharedMargin_eq, margins_append, margins_eq_nil hks, List.append_nil, ← sharedMargin_eq]

theorem dedentLines_congr (h : ls.map emptyIfMargin = ks.map emptyIfMargin) : dedentLines ls = dedentLines ks := by
  unfold dedentLines
  rw [h]

theorem emptyIfMargin_of_blank (hl : OnlySpaces l) (hblank : isBlank l = true) : emptyIfMargin l = [] :=
  emptyIfMargin_eq_nil_iff.mpr (hl.all_isMargin hblank)

/-- A margin that is put in front of lines is taken off again, together with the one they had. -/
theorem dedentLines_map_indentedLine (hm : m.all isMargin = true) (hls : ∀ l ∈ ls, OnlySpaces l) :
    dedentLines (ls.map (indentedLine m)) = dedentLines ls := by
  rw [← dedentLines_map_append hm ls]
  refine dedentLines_congr ?_
  rw [List.map_map, List.map_map]
  refine List.map_congr_left fun l hl => ?_
  show emptyIfMargin (indentedLine m l) = emptyIfMargin (m ++ l)
  unfold indentedLine
  split
  · rename_i hblank
    have hall : (m ++ l).all isMargin = true := by
      rw [List.all_append, hm, (hls l hl).all_isMargin hblank]
      rfl
    rw [emptyIfMargin_of_blank (hls l hl) hblank, emptyIfMargin_eq_nil_iff.mpr hall]
  · rfl

theorem dedentLines_append_blank (hks : ∀ k ∈ ks, OnlySpaces k ∧ isBlank k = true) (ls : List Text) :
    dedentLines (ls ++ ks) = dedentLines ls ++ List.replicate ks.length [] := by
  rw [← dedentLines_append_empty fun k hk => List.eq_of_mem_replicate hk]
  refine dedentLines_congr ?_
  have hempty : ks.map emptyIfMargin = List.replicate ks.length [] := by
    refine List.eq_replicate_iff.mpr ⟨List.length_map _, fun k hk => ?_⟩
    obtain ⟨l, hl, rfl⟩ := List.mem_map.mp hk
    exact emptyIfMargin_of_blank (hks l hl).1 (hks l hl).2
  rw [List.map_append, List.map_append, hempty, List.map_replicate]
  rfl

/-- The paragraphs that a text of lines is read as. -/
theorem readParagraphs_unlines (hls : ∀ k ∈ l :: ls, IsUnbroken k) :
    Document.readParagraphs (unlines (l :: ls)) =
      paragraphs (dedentLines (l.dropWhile isMargin :: dedentLines ls)) := by
  have hlines := splitOn_unlines hls (List.cons_ne_nil l ls)
  have hfirst : '\n' ∉ l := fun hmem => by cases hls l List.mem_cons_self '\n' hmem
  unfold Document.readParagraphs
  rw [dedentDocstring_eq_of_onlyNewlines (onlyNewlines_unlines hls) hlines,
    ← dedent_eq_dropWhile hfirst]
  congr 2
  exact List.splitOn_intercalate '\n' (not_mem_dedented hlines) (List.cons_ne_nil _ _)

theorem all_isMargin_spaces (n : Nat) : (spaces n).all isMargin = true := by
  rw [List.all_eq_true]
  intro c hc
  rw [List.eq_of_mem_replicate hc]
  rfl

/-- The margin in front of the lines below the first is not seen. -/
theorem readParagraphs_indented (level : Nat) (hls : ∀ k ∈ l :: ls, OnlySpaces k) :
    Document.readParagraphs (indentFrom (spaces level) false (unlines (l :: ls))) =
      paragraphs (dedentLines (l.dropWhile isMargin :: dedentLines ls)) := by
  have hunbroken : ∀ k ∈ l :: ls, IsUnbroken k := fun k hk => (hls k hk).isUnbroken
  have hindented : ∀ k ∈ l :: ls.map (indentedLine (spaces level)), IsUnbroken k := by
    rw [List.forall_mem_cons] at hunbroken ⊢
    refine ⟨hunbroken.1, fun k hk => ?_⟩
    obtain ⟨l, hl, rfl⟩ := List.mem_map.mp hk
    exact isUnbroken_indentedLine (isUnbroken_spaces level) (hunbroken.2 l hl)
  rw [indentFrom_unlines hunbroken, indentedLines, if_neg Bool.false_ne_true,
    readParagraphs_unlines hindented, dedentLines_map_indentedLine (all_isMargin_spaces level)]
  exact fun k hk => hls k (List.mem_cons_of_mem l hk)

/-! ## White space at the end -/

/-- Lines without the blank ones at the end, and without white space behind the last one. -/
def stripEnd : List Text → List Text
  | [] => []
  | l :: ls =>
    match stripEnd ls with
    | [] => if isBlank l then [] else [stripRight l]
    | k :: ks => l :: k :: ks

theorem stripEnd_of_blank (hls : ∀ l ∈ ls, isBlank l = true) : stripEnd ls = [] := by
  induction ls with
  | nil => rfl
  | cons l ls ih =>
    rw [List.forall_mem_cons] at hls
    rw [stripEnd, ih hls.2]
    exact if_pos hls.1

/-- The last line with text on it, and what stands before it. -/
theorem stripEnd_append (hl : isBlank l = false) (hks : ∀ k ∈ ks, isBlank k = true) (ls : List Text) :
    stripEnd (ls ++ l :: ks) = ls ++ [stripRight l] := by
  induction ls with
  | nil =>
    rw [List.nil_append, stripEnd, stripEnd_of_blank hks]
    exact if_neg (by rw [hl]; exact Bool.false_ne_true)
  | cons k ls ih =>
    rw [List.cons_append, stripEnd, ih]
    cases ls <;> rfl

theorem exists_last_inked (h : ls.all isBlank = false) :
    ∃ front l back, ls = front ++ l :: back ∧ isBlank l = false ∧ ∀ k ∈ back, isBlank k = true := by
  induction ls with
  | nil => cases h
  | cons k ls ih =>
    cases hrest : ls.all isBlank with
    | false =>
      obtain ⟨front, l, back, rfl, hl, hback⟩ := ih hrest
      exact ⟨k :: front, l, back, rfl, hl, hback⟩
    | true =>
      rw [List.all_cons, hrest, Bool.and_true] at h
      exact ⟨[], k, ls, rfl, h, List.all_eq_true.mp hrest⟩

theorem stripRight_ended (ls : List Text) : stripRight (ended ls) = unlines (stripEnd ls) := by
  cases hall : ls.all isBlank with
  | true =>
    rw [stripEnd_of_blank (List.all_eq_true.mp hall)]
    rw [← isBlank_ended] at hall
    exact stripRight_eq_nil_iff.mpr hall
  | false =>
    obtain ⟨front, l, back, rfl, hl, hback⟩ := exists_last_inked hall
    have hblank : isBlank ('\n' :: ended back) = true := by
      rw [isBlank_cons, isBlank_ended, List.all_eq_true.mpr hback]
      rfl
    rw [stripEnd_append hl hback, ended_append, ended_cons, ← List.append_assoc,
      stripRight_append_blank hblank, stripRight_append hl, ended_append_line]

theorem isBlank_ended_cons (hl : isBlank l = false) (ls : List Text) : isBlank (ended (l :: ls)) = false := by
  rw [isBlank_ended]
  exact all_isBlank_eq_false List.mem_cons_self hl

theorem getLast?_ended_cons (l : Text) (ls : List Text) : (ended (l :: ls)).getLast? = some '\n' := by
  rw [← unlines_append_newline (List.cons_ne_nil l ls)]
  exact List.getLast?_concat

end Text

namespace Frame

variable {f : Frame} {level : Nat} {ls ks : List Text} {l : Text}

/-- The first line starts to show where its text does, if it stands behind the opening. -/
def startedLines (f : Frame) : List Text → List Text
  | [] => []
  | l :: ls => (if f.startsAtOnce then stripLeft l else l) :: ls

/-- The lines of a body that show. -/
def shownLines (f : Frame) (ls : List Text) : List Text :=
  if f.endsBlank then f.startedLines ls else stripEnd (f.startedLines ls)

/-- The blank lines at the end. -/
def closingLines (f : Frame) (level : Nat) : List Text :=
  if f.endsBlank then (if f.endsWithGap then [[], spaces level] else [spaces level]) else []

theorem started_ended (hl : isBlank l = false) (ls : List Text) :
    f.started (ended (l :: ls)) = ended (f.startedLines (l :: ls)) := by
  unfold started startedLines
  split
  · rw [ended_cons, stripLeft_append hl, ended_cons]
  · rfl

theorem shown_closing (hl : isBlank l = false) (ls : List Text) :
    f.shown (ended (l :: ls)) ++ f.closing level =
      unlines (f.shownLines (l :: ls) ++ f.closingLines level) := by
  unfold shown shownLines closing closingLines tail
  rw [started_ended hl]
  split
  · split
    · have hgap := ended_append_line (f.startedLines (l :: ls) ++ [[]]) (spaces level)
      rw [ended_append, List.append_assoc, List.append_assoc] at hgap
      exact hgap
    · exact ended_append_line _ _
  · rw [stripRight_ended, List.append_nil, List.append_nil]

/-- Text shows from the first line on. -/
theorem exists_shownLines (f : Frame) (hl : isBlank l = false) (hls : ∀ k ∈ l :: ls, OnlySpaces k) :
    ∃ c cs, f.shownLines (l :: ls) = c :: cs ∧ isBlank c = false ∧ (∀ k ∈ c :: cs, OnlySpaces k) ∧
      (f.startsAtOnce = true → stripLeft c = c) := by
  obtain ⟨a, ha, hblank, hspaces, hstart⟩ : ∃ a, f.startedLines (l :: ls) = a :: ls ∧ isBlank a = false ∧
      OnlySpaces a ∧ (f.startsAtOnce = true → stripLeft a = a ∧ stripLeft (stripRight a) = stripRight a) := by
    rw [List.forall_mem_cons] at hls
    rw [startedLines]
    split
    · refine ⟨_, rfl, (isBlank_stripLeft l).trans hl, hls.1.mono (List.dropWhile_sublist isSpace).subset, ?_⟩
      exact fun _ => ⟨List.dropWhile_idempotent isSpace l, stripLeft_of_strip (strip_strip l)⟩
    · rename_i hstart
      exact ⟨l, rfl, hl, hls.1, fun h => absurd h hstart⟩
  have hall : ∀ k ∈ a :: ls, OnlySpaces k :=
    List.forall_mem_cons.mpr ⟨hspaces, fun k hk => hls k (List.mem_cons_of_mem l hk)⟩
  unfold shownLines
  rw [ha]
  split
  · exact ⟨a, ls, rfl, hblank, hall, fun h => (hstart h).1⟩
  · -- The last line that shows may be the first.
    obtain ⟨front, x, back, hsplit, hx, hback⟩ :=
      exists_last_inked (all_isBlank_eq_false (List.mem_cons_self (a := a) (l := ls)) hblank)
    have hlast : OnlySpaces (stripRight x) := by
      have hmem : x ∈ a :: ls := hsplit ▸ List.mem_append_right _ List.mem_cons_self
      exact (hall x hmem).mono (List.rdropWhile_prefix isSpace x).subset
    rw [hsplit, stripEnd_append hx hback]
    cases front with
    | nil =>
      obtain rfl : a = x := (List.cons.inj hsplit).1
      exact ⟨_, [], rfl, (isBlank_stripRight a).trans hblank, List.forall_mem_singleton.mpr hlast,
        fun h => (hstart h).2⟩
    | cons b front =>
      obtain ⟨rfl, rfl⟩ := List.cons.inj hsplit
      refine ⟨a, front ++ [stripRight x], rfl, hblank, fun k hk => ?_, fun h => (hstart h).1⟩
      obtain rfl | hk := List.mem_cons.mp hk
      · exact hspaces
      · obtain hk | hk := List.mem_append.mp hk
        · exact hall k (List.mem_cons_of_mem a (List.mem_append_left _ hk))
        · exact List.mem_singleton.mp hk ▸ hlast

theorem closingLines_blank (f : Frame) (level : Nat) :
    ∀ k ∈ f.closingLines level, OnlySpaces k ∧ isBlank k = true := by
  have hspaces : OnlySpaces (spaces level) := fun c hc _ => List.eq_of_mem_replicate hc
  have hblank := isBlank_spaces level
  unfold closingLines
  intro k hk
  split at hk
  · split at hk
    · obtain rfl | hk := List.mem_cons.mp hk
      · exact ⟨by decide, rfl⟩
      · exact List.mem_singleton.mp hk ▸ ⟨hspaces, hblank⟩
    · exact List.mem_singleton.mp hk ▸ ⟨hspaces, hblank⟩
  · cases hk

/-- The lines as a reader sees them: without the margin that those have in common which do not stand
behind the opening. -/
def seenLines (f : Frame) (ls : List Text) : List Text :=
  if f.startsAtOnce then (f.shownLines ls).take 1 ++ dedentLines (f.shownLines ls).tail
  else dedentLines (f.shownLines ls)

theorem isSpace_of_stripLeft {c : Char} {r : Text} (h : stripLeft (c :: r) = c :: r) : isSpace c = false := by
  have hhead := List.head?_dropWhile_not isSpace (c :: r)
  rw [← stripLeft, h] at hhead
  simpa using hhead

theorem dropWhile_isMargin (h : stripLeft l = l) : l.dropWhile isMargin = l := by
  cases l with
  | nil => rfl
  | cons c r =>
    refine List.dropWhile_cons_of_neg fun hmargin => ?_
    have hspace := isSpace_of_stripLeft h
    rw [isSpace_of_isMargin hmargin] at hspace
    cases hspace

/-- Text at the margin keeps the lines below it where they are. -/
theorem dedentLines_head (hl : isBlank l = false) (hstart : stripLeft l = l) (hls : IsCleared ls) :
    dedentLines (l :: ls) = l :: ls := by
  cases l with
  | nil => cases hl
  | cons c r =>
    refine dedentLines_eq_self ?_ (sharedMargin_eq_nil List.mem_cons_self (isSpace_of_stripLeft hstart))
    intro k hk hblank
    obtain rfl | hk := List.mem_cons.mp hk
    · rw [hl] at hblank
      cases hblank
    · exact hls k hk hblank

theorem paragraphs_append_replicate (ls : List Text) (n : Nat) :
    paragraphs (ls ++ List.replicate n []) = paragraphs ls := by
  cases n with
  | zero => rw [List.replicate_zero, List.append_nil]
  | succ n =>
    have hblank : ∀ l ∈ List.replicate n ([] : Text), isBlank l = true := by
      intro l hl
      rw [List.eq_of_mem_replicate hl]
      rfl
    rw [List.replicate_succ, paragraphs_append_blank isBlank_nil, paragraphs_eq_nil_iff.mpr hblank,
      List.append_nil]

/-- **What is read of a filled frame** are the paragraphs of the lines that a reader sees. -/
theorem readParagraphs_fill (f : Frame) (level : Nat) (hl : isBlank l = false)
    (hls : ∀ k ∈ l :: ls, OnlySpaces k) :
    Document.readParagraphs (f.fill level (ended (l :: ls))) = paragraphs (f.seenLines (l :: ls)) := by
  have hbody := isBlank_ended_cons hl ls
  have hend := getLast?_ended_cons l ls
  obtain ⟨c, cs, hshown, hc, hspaces, hstart⟩ := f.exists_shownLines hl hls
  have hclosing := closingLines_blank f level
  have hbelow : ∀ k ∈ cs ++ f.closingLines level, OnlySpaces k := by
    intro k hk
    exact (List.mem_append.mp hk).elim (fun hk => hspaces k (List.mem_cons_of_mem c hk))
      fun hk => (hclosing k hk).1
  have hcleared : ∀ {ks : List Text}, (∀ k ∈ ks, OnlySpaces k) →
      IsCleared (dedentLines ks ++ List.replicate (f.closingLines level).length []) := fun hks =>
    (isCleared_dedentLines hks).append (isCleared_replicate _)
  rw [fill_eq_indentFrom hbody hend, List.append_assoc, shown_closing hl, hshown]
  unfold seenLines opening
  rw [hshown]
  cases hat : f.startsAtOnce with
  | true =>
    -- The first line is the only one with what stands before the text.
    generalize hpre : (if f.startsWithSpace then [' '] else []) = pre
    have hpre' : pre.all isMargin = true ∧ OnlySpaces pre := by
      rw [← hpre]
      split <;> decide
    have hdrop : (pre ++ c).dropWhile isMargin = c := by
      rw [List.dropWhile_append_of_pos (List.all_eq_true.mp hpre'.1)]
      exact dropWhile_isMargin (hstart hat)
    have hfirst : ∀ k ∈ (pre ++ c) :: (cs ++ f.closingLines level), OnlySpaces k :=
      List.forall_mem_cons.mpr ⟨hpre'.2.append (hspaces c List.mem_cons_self), hbelow⟩
    rw [if_pos rfl, List.cons_append, append_unlines, readParagraphs_indented level hfirst, hdrop,
      dedentLines_append_blank hclosing, dedentLines_head hc (hstart hat)]
    · exact paragraphs_append_replicate (c :: dedentLines cs) _
    · exact hcleared fun k hk => hspaces k (List.mem_cons_of_mem c hk)
  | false =>
    have hall : ∀ k ∈ [] :: (c :: cs ++ f.closingLines level), OnlySpaces k :=
      List.forall_mem_cons.mpr ⟨by decide, List.forall_mem_cons.mpr ⟨hspaces c List.mem_cons_self, hbelow⟩⟩
    have hmargin : sharedMargin
        ([] :: (dedentLines (c :: cs) ++ List.replicate (f.closingLines level).length [])) = [] := by
      rw [sharedMargin_nil_cons, sharedMargin_append_empty fun k hk => List.eq_of_mem_replicate hk]
      exact sharedMargin_dedentLines (c :: cs)
    have hnewline : ['\n'] ++ unlines (c :: cs ++ f.closingLines level) =
        unlines ([] :: (c :: cs ++ f.closingLines level)) := (unlines_cons_cons [] c _).symm
    rw [if_neg Bool.false_ne_true, hnewline, readParagraphs_indented level hall,
      dedentLines_append_blank hclosing, List.dropWhile_nil, dedentLines_eq_self _ hmargin,
      paragraphs_cons_blank isBlank_nil]
    · exact paragraphs_append_replicate _ _
    · exact (isCleared_replicate 1).append (hcleared hspaces)

/-! ## Lines that stay as they are -/

/-- The last line with text on it. -/
def lastInked? (ls : List Text) : Option Text := (ls.filter fun l => !isBlank l).getLast?

theorem lastInked?_append (hl : isBlank l = false) (hks : ∀ k ∈ ks, isBlank k = true) (ls : List Text) :
    lastInked? (ls ++ l :: ks) = some l := by
  have hnone : ks.filter (fun k => !isBlank k) = [] := by
    rw [List.filter_eq_nil_iff]
    intro k hk
    simp [hks k hk]
  unfold lastInked?
  rw [List.filter_append, List.filter_cons_of_pos (by rw [hl]; rfl), hnone, List.getLast?_append]
  rfl

/-- The lines show as they are: those that are dedented have no margin in common, and no white space is
lost at the ends. -/
structure Shows (f : Frame) (ls : List Text) : Prop where
  flush : if f.startsAtOnce then (∀ l ∈ ls.head?, stripLeft l = l) ∧ sharedMargin ls.tail = []
    else sharedMargin ls = []
  ending : f.endsBlank = false → ∀ l ∈ lastInked? ls, stripRight l = l

instance (f : Frame) (ls : List Text) : Decidable (f.Shows ls) :=
  decidable_of_iff (_ ∧ _) ⟨fun h => ⟨h.1, h.2⟩, fun h => ⟨h.flush, h.ending⟩⟩

theorem Shows.exists_shownLines (h : f.Shows (l :: ls)) (hl : isBlank l = false) (hls : IsCleared (l :: ls)) :
    ∃ back, (∀ k ∈ back, k = []) ∧ l :: ls = f.shownLines (l :: ls) ++ back := by
  have hstarted : f.startedLines (l :: ls) = l :: ls := by
    have hflush := h.flush
    rw [startedLines]
    split
    · rename_i hstart
      rw [if_pos hstart] at hflush
      rw [hflush.1 l rfl]
    · rfl
  unfold shownLines
  rw [hstarted]
  split
  · exact ⟨[], by simp, by simp⟩
  · rename_i hends
    obtain ⟨front, x, back, hsplit, hx, hback⟩ :=
      exists_last_inked (all_isBlank_eq_false (List.mem_cons_self (a := l) (l := ls)) hl)
    have hlast := h.ending (by simpa using hends) x
    rw [hsplit] at hlast hls ⊢
    refine ⟨back, fun k hk => hls k (by simp [hk]) (hback k hk), ?_⟩
    rw [stripEnd_append hx hback, hlast (lastInked?_append hx hback front), List.append_assoc]
    rfl

/-- Lines that show as they are are seen as they are, up to blank ones at the end. -/
theorem Shows.exists_seenLines (h : f.Shows (l :: ls)) (hl : isBlank l = false) (hls : IsCleared (l :: ls)) :
    ∃ back, (∀ k ∈ back, k = []) ∧ l :: ls = f.seenLines (l :: ls) ++ back := by
  obtain ⟨back, hback, hshown⟩ := h.exists_shownLines hl hls
  refine ⟨back, hback, ?_⟩
  have hflush := h.flush
  unfold seenLines
  cases hlines : f.shownLines (l :: ls) with
  | nil =>
    rw [hlines] at hshown
    rw [hback l (by rw [← List.nil_append back, ← hshown]; exact List.mem_cons_self)] at hl
    cases hl
  | cons c cs =>
    rw [hlines] at hshown
    rw [hshown] at hflush hls ⊢
    cases hat : f.startsAtOnce with
    | true =>
      rw [if_pos hat, List.cons_append, List.tail_cons, sharedMargin_append_empty hback] at hflush
      rw [if_pos rfl, List.tail_cons, dedentLines_eq_self (fun k hk => hls k (by simp [hk])) hflush.2]
      rfl
    | false =>
      rw [hat, if_neg Bool.false_ne_true, sharedMargin_append_empty hback] at hflush
      rw [if_neg Bool.false_ne_true, dedentLines_eq_self (fun k hk => hls k (List.mem_append_left _ hk)) hflush]

theorem Shows.readParagraphs_fill (h : f.Shows (l :: ls)) (level : Nat) (hl : isBlank l = false)
    (hcleared : IsCleared (l :: ls)) (hspaces : ∀ k ∈ l :: ls, OnlySpaces k) :
    Document.readParagraphs (f.fill level (ended (l :: ls))) = paragraphs (l :: ls) := by
  obtain ⟨back, hback, hseen⟩ := h.exists_seenLines hl hcleared
  rw [Frame.readParagraphs_fill f level hl hspaces]
  conv_rhs => rw [hseen, List.eq_replicate_iff.mpr ⟨rfl, hback⟩]
  exact (paragraphs_append_replicate _ _).symm

/-! ## The end of a filled frame -/

theorem splitLines_unlines_concat {k : Text} (hls : ∀ l ∈ ls, IsUnbroken l) (hk : IsUnbroken k) (hne : k ≠ []) :
    splitLines (unlines (ls ++ [k])) = ls ++ [k] := by
  rw [splitLines_unlines, if_neg]
  · rw [List.getLast?_concat]
    simpa using hne
  · rw [List.forall_mem_append, List.forall_mem_singleton]
    exact ⟨hls, hk⟩

/-- The lines that stand in a filled frame above the last one, as far as they are blank or not. -/
theorem map_isBlank_fill (hlevel : 0 < level) (hends : f.endsBlank = true) (hgap : f.endsWithGap = false)
    (hl : isBlank l = false) (hls : ∀ k ∈ l :: ls, OnlySpaces k) :
    ∃ front, (splitLines (f.fill level (ended (l :: ls)))).map isBlank =
      front ++ (l :: ls).map isBlank ++ [true] := by
  have hbody := isBlank_ended_cons hl ls
  have hend := getLast?_ended_cons l ls
  have hmargin : spaces level ≠ [] := by
    rw [spaces]
    exact fun hnil => absurd ((List.replicate_eq_nil_iff _).mp hnil) (Nat.pos_iff_ne_zero.mp hlevel)
  have hunbroken : ∀ k ∈ ls, IsUnbroken k := fun k hk => (hls k (List.mem_cons_of_mem l hk)).isUnbroken
  rw [fill_eq_indentFrom hbody hend, splitLines_indentFrom (isUnbroken_spaces level),
    map_isBlank_of_map_strip (map_strip_indentedLines (isBlank_spaces level) false _), List.append_assoc,
    shown_closing hl, shownLines, if_pos hends, closingLines, if_pos hends, hgap, if_neg Bool.false_ne_true]
  rw [startedLines]
  unfold opening
  cases hstart : f.startsAtOnce with
  | true =>
    -- What stands before the text is on its line.
    generalize hpre : (if f.startsWithSpace then [' '] else []) = pre
    have hpre' : isBlank pre = true ∧ OnlySpaces pre := by
      rw [← hpre]
      split <;> decide
    have hfirst : OnlySpaces (pre ++ stripLeft l) :=
      hpre'.2.append ((hls l List.mem_cons_self).mono (List.dropWhile_sublist isSpace).subset)
    have hblank : ((pre ++ stripLeft l) :: ls).map isBlank = (l :: ls).map isBlank := by
      rw [List.map_cons, List.map_cons, isBlank_append, hpre'.1, isBlank_stripLeft, Bool.true_and]
    have hlines : ∀ k ∈ (pre ++ stripLeft l) :: ls, IsUnbroken k :=
      List.forall_mem_cons.mpr ⟨hfirst.isUnbroken, hunbroken⟩
    refine ⟨[], ?_⟩
    rw [if_pos rfl, if_pos rfl, List.cons_append, append_unlines, ← List.cons_append,
      splitLines_unlines_concat hlines (isUnbroken_spaces level) hmargin, List.map_append, hblank,
      List.map_singleton, isBlank_spaces]
    rfl
  | false =>
    have hlines : ∀ k ∈ [] :: l :: ls, IsUnbroken k :=
      List.forall_mem_cons.mpr ⟨fun c hc => absurd hc List.not_mem_nil,
        List.forall_mem_cons.mpr ⟨(hls l List.mem_cons_self).isUnbroken, hunbroken⟩⟩
    have hnewline : ['\n'] ++ unlines (l :: ls ++ [spaces level]) = unlines ([] :: l :: ls ++ [spaces level]) :=
      (unlines_cons_cons [] l _).symm
    refine ⟨[true], ?_⟩
    rw [if_neg Bool.false_ne_true, if_neg Bool.false_ne_true, hnewline,
      splitLines_unlines_concat hlines (isUnbroken_spaces level) hmargin, List.map_append, List.map_cons,
      List.map_singleton, isBlank_spaces]
    rfl

/-- The frame of a filled text ends with a gap if the last line that shows is blank. -/
theorem endsWithGap_fill_eq (hlevel : 0 < level) (hends : f.endsBlank = true) (hgap : f.endsWithGap = false)
    (hl : isBlank l = false) (hls : ∀ k ∈ l :: ls, OnlySpaces k) :
    (ofDocstring (f.fill level (ended (l :: ls)))).endsWithGap = isBlank ((l :: ls).getLast?.getD []) := by
  have hlast (ls : List Text) : isBlank (ls.getLast?.getD []) = (ls.map isBlank).getLast?.getD true := by
    rw [List.getLast?_map]
    cases ls.getLast? <;> rfl
  obtain ⟨front, hlines⟩ := map_isBlank_fill hlevel hends hgap hl hls
  unfold ofDocstring
  dsimp only
  rw [hlast, hlast, List.map_dropLast, hlines, List.dropLast_concat, List.getLast?_append]
  rfl

/-- **Filling the frame of a filled text with the same lines** gives the same text, unless the frame has no
gap and a blank line stands where it would be. -/
theorem fill_settles_iff (hlevel : 0 < level) (hl : isBlank l = false) (hls : ∀ k ∈ l :: ls, OnlySpaces k) :
    (ofDocstring (f.fill level (ended (l :: ls)))).fill level (ended (l :: ls)) =
        f.fill level (ended (l :: ls)) ↔
      (f.endsBlank = true → f.endsWithGap = false → isBlank ((l :: ls).getLast?.getD []) = false) := by
  have hbody := isBlank_ended_cons hl ls
  have hend := getLast?_ended_cons l ls
  rw [fill_again_iff hlevel hbody hend hbody hend, List.append_right_eq_self]
  unfold gained
  cases hends : f.endsBlank with
  | false => simp
  | true =>
    cases hgap : f.endsWithGap with
    | true => simp
    | false =>
      rw [endsWithGap_fill_eq hlevel hends hgap hl hls]
      simp

end Frame
end DocTidy
