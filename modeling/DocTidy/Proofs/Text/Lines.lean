import DocTidy.Proofs.Text.Indent

/-!
# Lines and line boundaries

A newline always ends a line, so that the lines of a text can be found on both sides of it apart.
Lines that are joined by newlines are found again, except for an empty one at the end.
-/

namespace DocTidy.Text

variable {s t l : Text} {ls : List Text} {c : Char}

theorem splitLines_head? (t : Text) :
    (splitLines t).head?.getD [] = t.takeWhile fun c => !isLineBreak c := by
  unfold splitLines
  fun_induction endedLines t with
  | case1 => rfl
  | case2 r ih => rfl
  | case3 c r _ hbreak ih => simp [hbreak]
  | case4 c r _ hbreak hnil ih =>
    rw [hnil] at ih
    simp_all
  | case5 c r _ hbreak line ending more heq ih =>
    rw [heq] at ih
    simp_all

theorem startsBlank_eq (h : splitLines t = l :: ls) : startsBlank t = isBlank l := by
  rw [startsBlank, ← splitLines_head?, h]
  rfl

theorem endedLines_eq_nil_iff : endedLines t = [] ↔ t = [] := by
  constructor
  · intro h
    rw [← flatten_splitLinesKeep t, splitLinesKeep, h]
    rfl
  · rintro rfl
    rfl

/-- A line break that does not begin a two-character boundary ends a line by itself. -/
theorem endedLines_break (hbreak : isLineBreak c = true) (hc : c ≠ '\r' ∨ t.head? ≠ some '\n') :
    endedLines (c :: t) = ([], [c]) :: endedLines t := by
  rw [endedLines, if_pos hbreak]
  rintro r rfl rfl
  simp at hc

theorem endedLines_char (hbreak : isLineBreak c = false) (t : Text) :
    endedLines (c :: t) =
      match endedLines t with
      | [] => [([c], [])]
      | (line, ending) :: more => (c :: line, ending) :: more := by
  rw [endedLines]
  · exact if_neg (by rw [hbreak]; decide)
  · rintro r rfl rfl
    exact absurd hbreak (by decide)

theorem endedLines_newline (t : Text) : endedLines ('\n' :: t) = ([], ['\n']) :: endedLines t :=
  endedLines_break (by decide) (.inl (by decide))

theorem endedLines_append_newline (s t : Text) :
    endedLines (s ++ '\n' :: t) = endedLines (s ++ ['\n']) ++ endedLines t := by
  have hne (r : Text) : endedLines (r ++ ['\n']) ≠ [] := by
    rw [Ne, endedLines_eq_nil_iff]
    exact List.append_ne_nil_of_right_ne_nil r (List.cons_ne_nil _ _)
  fun_induction endedLines s with
  | case1 =>
    rw [List.nil_append, List.nil_append, endedLines_newline, endedLines_newline]
    rfl
  | case2 r ih =>
    simp only [List.cons_append]
    rw [endedLines, endedLines, ih]
    rfl
  | case3 c r hr hbreak ih =>
    -- Only a carriage return right before the newline joins it, and then on both sides alike.
    by_cases hcr : c = '\r' ∧ r = []
    · obtain ⟨rfl, rfl⟩ := hcr
      rfl
    · have hhead (u : Text) : c ≠ '\r' ∨ (r ++ '\n' :: u).head? ≠ some '\n' := by
        cases r with
        | nil => exact .inl fun h => hcr ⟨h, rfl⟩
        | cons a r =>
          by_cases hc : c = '\r'
          · refine .inr fun h => hr r hc ?_
            rw [Option.some.inj h]
          · exact .inl hc
      simp only [List.cons_append]
      rw [endedLines_break hbreak (hhead t), endedLines_break hbreak (hhead []), ih]
      rfl
  | case4 c r hr hbreak hnil ih =>
    simp only [List.cons_append]
    rw [endedLines_char (by simpa using hbreak), endedLines_char (by simpa using hbreak), ih]
    obtain ⟨l, more, hl⟩ := List.exists_cons_of_ne_nil (hne r)
    rw [hl]
    rfl
  | case5 c r hr hbreak line ending more heq ih =>
    simp only [List.cons_append]
    rw [endedLines_char (by simpa using hbreak), endedLines_char (by simpa using hbreak), ih]
    obtain ⟨l, more, hl⟩ := List.exists_cons_of_ne_nil (hne r)
    rw [hl]
    rfl

/-- A further character in front joins the first line, which may be the last one as well. -/
theorem splitLines_cons_getLast? {a : Char} (ha : isLineBreak a = false)
    (h : ∃ line, (splitLines t).getLast? = some (line ++ [c])) :
    ∃ line, (splitLines (a :: t)).getLast? = some (line ++ [c]) := by
  obtain ⟨line, hline⟩ := h
  unfold splitLines at hline ⊢
  rw [endedLines_char ha]
  cases hl : endedLines t with
  | nil => simp [hl] at hline
  | cons l more =>
    rw [hl, List.map_cons, List.getLast?_cons, Option.some.injEq] at hline
    rw [List.map_cons, List.getLast?_cons]
    cases hmore : (more.map (·.1)).getLast? with
    | none =>
      rw [hmore, Option.getD_none] at hline
      exact ⟨a :: line, by simp [hline]⟩
    | some last =>
      rw [hmore, Option.getD_some] at hline
      exact ⟨line, by simp [hline]⟩

/-- A character that ends no line, at the end of a text, ends the last line. -/
theorem splitLines_getLast? (hbreak : isLineBreak c = false) (s : Text) :
    ∃ line, (splitLines (s ++ [c])).getLast? = some (line ++ [c]) := by
  fun_induction endedLines s with
  | case1 =>
    refine ⟨[], ?_⟩
    rw [List.nil_append, splitLines, endedLines_char hbreak]
    rfl
  | case2 r ih =>
    obtain ⟨line, hline⟩ := ih
    refine ⟨line, ?_⟩
    simp only [List.cons_append]
    rw [splitLines, endedLines, List.map_cons, List.getLast?_cons]
    rw [splitLines] at hline
    rw [hline]
    rfl
  | case3 a r hr ha ih =>
    obtain ⟨line, hline⟩ := ih
    refine ⟨line, ?_⟩
    -- A carriage return stands by itself here: the last character is no newline either.
    have hhead : a ≠ '\r' ∨ (r ++ [c]).head? ≠ some '\n' := by
      by_cases ha' : a = '\r'
      · refine .inr fun h => ?_
        cases r with
        | nil =>
          rw [Option.some.inj h] at hbreak
          exact absurd hbreak (by decide)
        | cons b r => exact hr r ha' (by rw [Option.some.inj h])
      · exact .inl ha'
    rw [List.cons_append, splitLines, endedLines_break ha hhead, List.map_cons, List.getLast?_cons]
    rw [splitLines] at hline
    rw [hline]
    rfl
  | case4 a r hr ha hnil ih => exact splitLines_cons_getLast? (by simpa using ha) ih
  | case5 a r hr ha line ending more heq ih => exact splitLines_cons_getLast? (by simpa using ha) ih

/-! ## Joining lines and cutting them again -/

/-- The text holds no line boundary. -/
def IsUnbroken (l : Text) : Prop := ∀ c ∈ l, isLineBreak c = false

instance (l : Text) : Decidable (IsUnbroken l) := List.decidableBAll (isLineBreak · = false) l

theorem isUnbroken_cons (hc : isLineBreak c = false) (hl : IsUnbroken l) : IsUnbroken (c :: l) := by
  intro a ha
  obtain rfl | ha := List.mem_cons.mp ha
  · exact hc
  · exact hl a ha

theorem IsUnbroken.append (hs : IsUnbroken s) (ht : IsUnbroken t) : IsUnbroken (s ++ t) :=
  List.forall_mem_append.mpr ⟨hs, ht⟩

theorem isUnbroken_of_mem_splitLines (t : Text) : ∀ l ∈ splitLines t, IsUnbroken l := by
  unfold splitLines
  fun_induction endedLines t with
  | case1 => simp
  | case2 r ih => simpa [IsUnbroken] using ih
  | case3 c r _ _ ih => simpa [IsUnbroken] using ih
  | case4 c r _ hbreak hnil ih =>
    have hc : isLineBreak c = false := by simpa using hbreak
    simpa [IsUnbroken] using hc
  | case5 c r _ hbreak line ending more heq ih =>
    have hc : isLineBreak c = false := by simpa using hbreak
    rw [heq, List.map_cons] at ih
    rw [List.map_cons]
    intro l hl
    obtain rfl | hl := List.mem_cons.mp hl
    · exact isUnbroken_cons hc (ih line List.mem_cons_self)
    · exact ih l (List.mem_cons_of_mem _ hl)

theorem subset_of_mem_splitLines (hl : l ∈ splitLines t) : l ⊆ t := by
  obtain ⟨⟨line, ending⟩, hline, rfl⟩ := List.mem_map.mp hl
  intro c hc
  rw [← flatten_splitLinesKeep t]
  exact List.mem_flatten.mpr ⟨line ++ ending, List.mem_map_of_mem hline, List.mem_append_left _ hc⟩

theorem isBlank_of_mem_splitLines (ht : isBlank t = true) (hl : l ∈ splitLines t) : isBlank l = true :=
  List.all_eq_true.mpr fun c hc => List.all_eq_true.mp ht c (subset_of_mem_splitLines hl hc)

theorem endedLines_unbroken (hl : IsUnbroken l) (hne : l ≠ []) : endedLines l = [(l, [])] := by
  induction l with
  | nil => exact absurd rfl hne
  | cons c r ih =>
    have hc : isLineBreak c = false := hl c List.mem_cons_self
    have hr : IsUnbroken r := fun a ha => hl a (List.mem_cons_of_mem _ ha)
    rw [endedLines_char hc]
    cases r with
    | nil => rfl
    | cons a r => rw [ih hr (List.cons_ne_nil a r)]

theorem endedLines_unbroken_newline (hl : IsUnbroken l) :
    endedLines (l ++ ['\n']) = [(l, ['\n'])] := by
  induction l with
  | nil => rfl
  | cons c r ih =>
    have hc : isLineBreak c = false := hl c List.mem_cons_self
    have hr : IsUnbroken r := fun a ha => hl a (List.mem_cons_of_mem _ ha)
    rw [List.cons_append, endedLines_char hc, ih hr]

theorem splitLines_unbroken_newline (hl : IsUnbroken l) (t : Text) :
    splitLines (l ++ '\n' :: t) = l :: splitLines t := by
  unfold splitLines
  rw [endedLines_append_newline, endedLines_unbroken_newline hl]
  rfl

/-- What holds no line boundary joins the first line of the text behind it. -/
theorem splitLines_unbroken_append (hs : IsUnbroken s) (ht : splitLines t = l :: ls) :
    splitLines (s ++ t) = (s ++ l) :: ls := by
  induction s with
  | nil => exact ht
  | cons c r ih =>
    have hr := ih fun a ha => hs a (List.mem_cons_of_mem _ ha)
    unfold splitLines at hr ⊢
    rw [List.cons_append, endedLines_char (hs c List.mem_cons_self)]
    cases hlines : endedLines (r ++ t) with
    | nil => simp [hlines] at hr
    | cons first more =>
      rw [hlines, List.map_cons, List.cons.injEq] at hr
      rw [List.map_cons, hr.1, hr.2]
      rfl

/-- Joined lines are cut into the same lines again, less an empty one at the end. -/
theorem splitLines_unlines (hls : ∀ l ∈ ls, IsUnbroken l) :
    splitLines (unlines ls) = if ls.getLast? = some [] then ls.dropLast else ls := by
  unfold unlines
  induction ls with
  | nil => rfl
  | cons l ls ih =>
    have hl : IsUnbroken l := hls l List.mem_cons_self
    cases ls with
    | nil =>
      rw [List.intercalate_singleton]
      by_cases hnil : l = []
      · subst hnil
        rfl
      · rw [splitLines, endedLines_unbroken hl hnil]
        simp [hnil]
    | cons k ks =>
      rw [List.intercalate_cons_cons, List.append_assoc, List.singleton_append,
        splitLines_unbroken_newline hl, ih fun m hm => hls m (List.mem_cons_of_mem _ hm),
        List.getLast?_cons_cons, List.dropLast_cons_cons]
      split
      · rfl
      · rfl

theorem isUnbroken_spaces (n : Nat) : IsUnbroken (spaces n) := by
  intro c hc
  rw [List.eq_of_mem_replicate hc]
  decide

theorem splitLines_spaces {n : Nat} (hn : 0 < n) : splitLines (spaces n) = [spaces n] := by
  have hne : spaces n ≠ [] := by
    rw [spaces, Ne, List.replicate_eq_nil_iff]
    omega
  rw [splitLines, endedLines_unbroken (isUnbroken_spaces n) hne]
  rfl

end DocTidy.Text
