import DocTidy.Headed
import Mathlib.Algebra.Order.BigOperators.Group.List
import Mathlib.Algebra.Order.Ring.Nat
import Mathlib.Data.List.Forall2
import Mathlib.Data.List.Nodup

/-!
# Lists

Facts about lists of any items that several parts of the theory use: lists without repetition, lists
that are filtered, looked through or gone through item by item, lists that are joined, and lists that
are cut into runs at their heads.
-/

namespace DocTidy

variable {α β κ : Type}

/-! ## Without repetition -/

theorem nodup_eraseDups [BEq α] [LawfulBEq α] (l : List α) : l.eraseDups.Nodup := by
  -- The recursion is on the rest without what equals its head.
  induction hlen : l.length using Nat.strong_induction_on generalizing l with
  | _ len ih =>
    subst hlen
    cases l with
    | nil => exact List.nodup_nil
    | cons a l =>
      rw [List.eraseDups_cons, List.nodup_cons]
      refine ⟨?_, ih _ (Nat.lt_succ_of_le (List.length_filter_le _ l)) _ rfl⟩
      rw [List.mem_eraseDups, List.mem_filter]
      simp

theorem eraseDups_eq_self [BEq α] [LawfulBEq α] {l : List α} (h : l.Nodup) : l.eraseDups = l := by
  induction l with
  | nil => rfl
  | cons a l ih =>
    obtain ⟨ha, hl⟩ := List.nodup_cons.mp h
    have hself : l.filter (fun b => !b == a) = l := by
      refine List.filter_eq_self.mpr fun b hb => ?_
      have hne : b ≠ a := by
        rintro rfl
        exact ha hb
      simpa using hne
    rw [List.eraseDups_cons, hself, ih hl]

theorem eq_filter_of_sublist [DecidableEq α] {l l' : List α} (h : l'.Sublist l) (hl : l.Nodup) :
    l' = l.filter (· ∈ l') := by
  induction h with
  | slnil => rfl
  | cons a h ih =>
    obtain ⟨ha, hl⟩ := List.nodup_cons.mp hl
    rw [List.filter_cons_of_neg (by simpa using fun hmem => ha (h.subset hmem)), ← ih hl]
  | @cons_cons l₁ l₂ a h ih =>
    obtain ⟨ha, hl⟩ := List.nodup_cons.mp hl
    have hrest : l₂.filter (· ∈ a :: l₁) = l₂.filter (· ∈ l₁) := by
      refine List.filter_congr fun b hb => ?_
      have hne : b ≠ a := by
        rintro rfl
        exact ha hb
      simp [hne]
    rw [List.filter_cons_of_pos (by simp), hrest, ← ih hl]

/-- Nothing is left out of a list if nothing is left of its weight. -/
theorem eq_of_sublist_of_sum_le {weight : α → Nat} {l l' : List α} (h : l.Sublist l')
    (hpos : ∀ a ∈ l', 0 < weight a) (hsum : (l'.map weight).sum ≤ (l.map weight).sum) : l = l' := by
  induction h with
  | slnil => rfl
  | cons a hrest _ =>
    -- The weight of what is left out would be missing from the sum.
    have hle := (hrest.map weight).sum_le_sum fun _ _ => Nat.zero_le _
    have ha := hpos a List.mem_cons_self
    rw [List.map_cons, List.sum_cons] at hsum
    omega
  | cons_cons a _ ih =>
    rw [List.map_cons, List.map_cons, List.sum_cons, List.sum_cons] at hsum
    rw [ih (fun b hb => hpos b (List.mem_cons_of_mem _ hb)) (by omega)]

/-! ## Item by item -/

/-- Items of one kind that come before those of the other. -/
theorem eq_filter_append_of_pairwise {p : α → Bool} {l : List α}
    (h : l.Pairwise fun a b => p a = true → p b = true) : l = l.filter (fun a => !p a) ++ l.filter p := by
  induction l with
  | nil => rfl
  | cons a l ih =>
    obtain ⟨ha, hl⟩ := List.pairwise_cons.mp h
    cases hp : p a with
    | true =>
      have hall : l.filter p = l := List.filter_eq_self.mpr fun b hb => ha b hb hp
      have hnone : l.filter (fun b => !p b) = [] :=
        List.filter_eq_nil_iff.mpr fun b hb => by simp [ha b hb hp]
      rw [List.filter_cons_of_neg (by simp [hp]), List.filter_cons_of_pos hp, hall, hnone]
      rfl
    | false =>
      rw [List.filter_cons_of_pos (by simp [hp]), List.filter_cons_of_neg (by simp [hp]), List.cons_append,
        ← ih hl]

/-- Items of one kind come before those of the other if only the others follow the first of these. -/
theorem pairwise_of_forall_dropWhile {p : α → Bool} {l : List α}
    (h : ∀ a ∈ l.dropWhile (fun a => !p a), p a = true) : l.Pairwise fun a b => p a = true → p b = true := by
  induction l with
  | nil => exact .nil
  | cons a l ih =>
    cases ha : p a with
    | true =>
      rw [List.dropWhile_cons_of_neg (by simp [ha])] at h
      exact List.pairwise_of_forall_mem_list fun _ _ b hb _ => h b hb
    | false =>
      rw [List.dropWhile_cons_of_pos (by simp [ha])] at h
      refine .cons (fun b _ hp => ?_) (ih h)
      rw [ha] at hp
      cases hp

theorem find?_filter_of_pos {l : List α} {p keeps : α → Bool} {a : α} (h : l.find? p = some a)
    (ha : keeps a = true) : (l.filter keeps).find? p = some a := by
  induction l with
  | nil => cases h
  | cons b l ih =>
    rw [List.find?_cons] at h
    split at h
    · rename_i hb
      obtain rfl := Option.some.inj h
      rw [List.filter_cons_of_pos ha, List.find?_cons_of_pos hb]
    · rename_i hb
      by_cases hkeeps : keeps b = true
      · rw [List.filter_cons_of_pos hkeeps, List.find?_cons_of_neg (by simp [hb]), ih h]
      · rw [List.filter_cons_of_neg hkeeps, ih h]

theorem lookup_map_snd [BEq κ] (f : α → β) (l : List (κ × α)) (key : κ) :
    (l.map fun e => (e.1, f e.2)).lookup key = (l.lookup key).map f := by
  induction l with
  | nil => rfl
  | cons e l ih =>
    rw [List.map_cons, List.lookup_cons, List.lookup_cons]
    cases key == e.1 with
    | true => rfl
    | false => exact ih

theorem mapM_map_of_inverse {f : α → Option β} {g : β → α} (h : ∀ b, f (g b) = some b)
    (bs : List β) : (bs.map g).mapM f = some bs := by
  induction bs with
  | nil => rfl
  | cons b bs ih => simp [List.mapM_cons, h, ih]

theorem exists_of_mem_forall₂ {R : α → β → Prop} {l : List α} {l' : List β} {b : β}
    (h : List.Forall₂ R l l') (hb : b ∈ l') : ∃ a ∈ l, R a b := by
  induction h with
  | nil => cases hb
  | @cons a b' l l' hab _ ih =>
    obtain rfl | hb := List.mem_cons.mp hb
    · exact ⟨a, List.mem_cons_self, hab⟩
    · obtain ⟨a', ha', hR⟩ := ih hb
      exact ⟨a', List.mem_cons_of_mem a ha', hR⟩

theorem exists_forall₂ {R : α → β → Prop} {l : List α} (h : ∀ a ∈ l, ∃ b, R a b) :
    ∃ bs, List.Forall₂ R l bs := by
  induction l with
  | nil => exact ⟨[], .nil⟩
  | cons a l ih =>
    obtain ⟨b, hb⟩ := h a List.mem_cons_self
    obtain ⟨bs, hbs⟩ := ih fun a' ha' => h a' (List.mem_cons_of_mem a ha')
    exact ⟨b :: bs, .cons hb hbs⟩

/-! ## Joining -/

theorem intercalate_nil (ls : List (List α)) : [].intercalate ls = ls.flatten := by
  induction ls with
  | nil => rfl
  | cons l ls ih =>
    cases ls with
    | nil => simp
    | cons k ls => rw [List.intercalate_cons_cons, List.append_nil, ih, ← List.flatten_cons]

theorem intercalate_append {sep : List α} {ls ks : List (List α)} (hls : ls ≠ []) (hks : ks ≠ []) :
    sep.intercalate (ls ++ ks) = sep.intercalate ls ++ sep ++ sep.intercalate ks := by
  induction ls with
  | nil => exact absurd rfl hls
  | cons l ls ih =>
    obtain ⟨k, ks, rfl⟩ := List.exists_cons_of_ne_nil hks
    cases ls with
    | nil => simp [List.intercalate_cons_cons]
    | cons m ls =>
      rw [List.cons_append, List.cons_append, List.intercalate_cons_cons, ← List.cons_append,
        ih (List.cons_ne_nil m ls), List.intercalate_cons_cons]
      simp only [List.append_assoc]

/-- Joining pieces that are joined is joining all the items. -/
theorem intercalate_flatMap {sep : List β} {f : α → List (List β)} {as : List α}
    (hf : ∀ a ∈ as, f a ≠ []) :
    sep.intercalate (as.map fun a => sep.intercalate (f a)) = sep.intercalate (as.flatMap f) := by
  induction as with
  | nil => rfl
  | cons a as ih =>
    have hrest := ih fun b hb => hf b (List.mem_cons_of_mem a hb)
    rw [List.flatMap_cons]
    cases as with
    | nil => simp
    | cons b as =>
      have hne : (b :: as).flatMap f ≠ [] := by
        simp [hf b (List.mem_cons_of_mem a List.mem_cons_self)]
      rw [intercalate_append (hf a List.mem_cons_self) hne, ← hrest, List.map_cons, List.map_cons,
        List.intercalate_cons_cons]

/-! ## Headed runs -/

section Runs

variable {isHead : α → Bool} {a : α} {l run : List α}

theorem headedRuns_cons_head (ha : isHead a = true) (rest : List α) : headedRuns isHead (a :: rest) =
    ([], (a, (headedRuns isHead rest).1) :: (headedRuns isHead rest).2) := by
  simp [headedRuns, ha]

theorem headedRuns_cons_other (ha : isHead a = false) (rest : List α) :
    headedRuns isHead (a :: rest) = (a :: (headedRuns isHead rest).1, (headedRuns isHead rest).2) := by
  simp [headedRuns, ha]

theorem headedRuns_append (hrun : ∀ a ∈ run, isHead a = false) (rest : List α) :
    headedRuns isHead (run ++ rest) = (run ++ (headedRuns isHead rest).1, (headedRuns isHead rest).2) := by
  induction run with
  | nil => rfl
  | cons a run ih =>
    rw [List.forall_mem_cons] at hrun
    rw [List.cons_append, headedRuns_cons_other hrun.1, ih hrun.2]
    rfl

theorem isHead_of_mem_headedRuns {group : α × List α} (h : group ∈ (headedRuns isHead l).2) :
    isHead group.1 = true := by
  induction l with
  | nil => cases h
  | cons a l ih =>
    cases ha : isHead a with
    | true =>
      rw [headedRuns_cons_head ha] at h
      rcases List.mem_cons.mp h with rfl | h
      · exact ha
      · exact ih h
    | false =>
      rw [headedRuns_cons_other ha] at h
      exact ih h

theorem map_fst_headedRuns (isHead : α → Bool) (l : List α) :
    (headedRuns isHead l).2.map (·.1) = l.filter isHead := by
  induction l with
  | nil => rfl
  | cons a rest ih =>
    rw [headedRuns]
    dsimp only
    split
    · rename_i ha
      rw [List.map_cons, ih, List.filter_cons_of_pos ha]
    · rename_i ha
      rw [ih, List.filter_cons_of_neg ha]

theorem length_snd_headedRuns (isHead : α → Bool) (l : List α) :
    (headedRuns isHead l).2.length = l.countP isHead := by
  rw [← List.length_map (fun group : α × List α => group.1), map_fst_headedRuns, List.countP_eq_length_filter]

theorem fst_headedRuns_map {f : α → α} (hf : ∀ a, isHead (f a) = isHead a) (l : List α) :
    (headedRuns isHead (l.map f)).1 = (headedRuns isHead l).1.map f := by
  induction l with
  | nil => rfl
  | cons a rest ih =>
    rw [List.map_cons]
    cases ha : isHead a with
    | true => rw [headedRuns_cons_head ((hf a).trans ha), headedRuns_cons_head ha, List.map_nil]
    | false => rw [headedRuns_cons_other ((hf a).trans ha), headedRuns_cons_other ha, ih, List.map_cons]

theorem mem_of_mem_fst_headedRuns (h : a ∈ (headedRuns isHead l).1) : a ∈ l := by
  rw [← headedRuns_flatten isHead l]
  exact List.mem_append_left _ h

theorem mem_of_mem_snd_headedRuns {group : α × List α} (hgroup : group ∈ (headedRuns isHead l).2) {a : α}
    (ha : a ∈ group.1 :: group.2) : a ∈ l := by
  rw [← headedRuns_flatten isHead l]
  refine List.mem_append_right _ (List.mem_flatten.mpr ⟨group.1 :: group.2, ?_, ha⟩)
  exact List.mem_map_of_mem hgroup

end Runs

end DocTidy
