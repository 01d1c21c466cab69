import DocTidy.Document.Reader
import DocTidy.Proofs.List
import DocTidy.Proofs.Text.Margin
import Mathlib.Data.List.Chain

/-!
# Joined paragraphs

Paragraphs that are joined have one blank line in between, none at the ends, and are found again.  Such
lines are called squeezed: they are those that stay as they are when they are taken apart and joined.
-/

namespace DocTidy.Document

open Text

variable {ps : List (List Text)} {ls ks : List Text}

theorem joinParagraphs_singleton (p : List Text) : joinParagraphs [p] = p := List.intercalate_singleton

theorem joinParagraphs_cons_cons (p q : List Text) (ps : List (List Text)) :
    joinParagraphs (p :: q :: ps) = p ++ [] :: joinParagraphs (q :: ps) := by
  unfold joinParagraphs
  rw [List.intercalate_cons_cons, List.append_assoc]
  rfl

theorem map_joinParagraphs {f : Text → Text} (hf : f [] = []) (ps : List (List Text)) :
    (joinParagraphs ps).map f = joinParagraphs (ps.map (·.map f)) := by
  induction ps with
  | nil => rfl
  | cons p ps ih =>
    cases ps with
    | nil => rw [joinParagraphs_singleton, List.map_singleton, joinParagraphs_singleton]
    | cons q ps =>
      rw [List.map_cons] at ih
      rw [joinParagraphs_cons_cons, List.map_append, List.map_cons, hf, ih, List.map_cons, List.map_cons,
        joinParagraphs_cons_cons]

theorem joinParagraphs_cons (p : List Text) (ps : List (List Text)) :
    ∃ below, joinParagraphs (p :: ps) = p ++ below := by
  cases ps with
  | nil => exact ⟨[], by rw [joinParagraphs_singleton, List.append_nil]⟩
  | cons q ps => exact ⟨_, joinParagraphs_cons_cons p q ps⟩

theorem joinParagraphs_ne_nil {p : List Text} (hp : p ≠ []) (ps : List (List Text)) :
    joinParagraphs (p :: ps) ≠ [] := by
  obtain ⟨below, hjoin⟩ := joinParagraphs_cons p ps
  rw [hjoin]
  exact List.append_ne_nil_of_left_ne_nil hp below

theorem mem_joinParagraphs {p : List Text} {l : Text} (hp : p ∈ ps) (hl : l ∈ p) : l ∈ joinParagraphs ps := by
  induction ps with
  | nil => cases hp
  | cons q ps ih =>
    cases ps with
    | nil =>
      rw [joinParagraphs_singleton]
      exact List.mem_singleton.mp hp ▸ hl
    | cons q' ps =>
      rw [joinParagraphs_cons_cons, List.mem_append, List.mem_cons]
      obtain rfl | hp := List.mem_cons.mp hp
      · exact .inl hl
      · exact .inr (.inr (ih hp))

/-- A line of joined paragraphs is one of theirs or the blank one in between. -/
theorem of_mem_joinParagraphs {l : Text} (hl : l ∈ joinParagraphs ps) : l = [] ∨ ∃ p ∈ ps, l ∈ p := by
  induction ps with
  | nil => cases hl
  | cons p ps ih =>
    cases ps with
    | nil =>
      rw [joinParagraphs_singleton] at hl
      exact .inr ⟨p, List.mem_cons_self, hl⟩
    | cons q ps =>
      rw [joinParagraphs_cons_cons, List.mem_append, List.mem_cons] at hl
      obtain hl | rfl | hl := hl
      · exact .inr ⟨p, List.mem_cons_self, hl⟩
      · exact .inl rfl
      · exact (ih hl).imp_right fun ⟨k, hk, hl⟩ => ⟨k, List.mem_cons_of_mem p hk, hl⟩

theorem ne_nil_of_mem_paragraphs {ls p : List Text} (hp : p ∈ paragraphs ls) : p ≠ [] := by
  fun_induction paragraphs ls with
  | case1 => cases hp
  | case2 => cases hp
  | case3 k hk =>
    rw [List.mem_singleton.mp hp]
    simp
  | case4 k next r hk ih => exact ih hp
  | case5 k next r hk hnext ih =>
    obtain rfl | hp := List.mem_cons.mp hp
    · simp
    · exact ih hp
  | case6 k next r hk hnext hnil ih =>
    rw [List.mem_singleton.mp hp]
    simp
  | case7 k next r hk hnext q qs hq ih =>
    obtain rfl | hp := List.mem_cons.mp hp
    · simp
    · exact ih (hq ▸ List.mem_cons_of_mem _ hp)

/-- Paragraphs have lines, and none of these is blank. -/
def AreParagraphs (ps : List (List Text)) : Prop := ∀ p ∈ ps, p ≠ [] ∧ ∀ l ∈ p, isBlank l = false

theorem areParagraphs_paragraphs (ls : List Text) : AreParagraphs (paragraphs ls) := fun _ hp =>
  ⟨ne_nil_of_mem_paragraphs hp, fun _ hl => (mem_of_mem_paragraphs hp hl).2⟩

theorem AreParagraphs.isTrimmed (h : AreParagraphs ps) : IsTrimmed (joinParagraphs ps) := by
  induction ps with
  | nil => constructor <;> rintro l ⟨⟩
  | cons p ps ih =>
    obtain ⟨⟨hp, hinked⟩, hps⟩ := List.forall_mem_cons.mp h
    cases ps with
    | nil =>
      rw [joinParagraphs_singleton]
      exact ⟨fun l hl => hinked l (List.mem_of_mem_head? hl), fun l hl => hinked l (List.mem_of_getLast? hl)⟩
    | cons q ps =>
      have hrest := joinParagraphs_ne_nil (hps q List.mem_cons_self).1 ps
      rw [joinParagraphs_cons_cons]
      constructor
      · intro l hl
        rw [List.head?_append_of_ne_nil p hp] at hl
        exact hinked l (List.mem_of_mem_head? hl)
      · -- The last line is that of the last paragraph.
        intro l hl
        rw [List.getLast?_append_of_ne_nil p (List.cons_ne_nil _ _), List.getLast?_cons_of_ne_nil hrest] at hl
        exact (ih hps).2 l hl

/-- Joined paragraphs are found again. -/
theorem AreParagraphs.paragraphs_joinParagraphs (h : AreParagraphs ps) :
    paragraphs (joinParagraphs ps) = ps := by
  induction ps with
  | nil => rfl
  | cons p ps ih =>
    obtain ⟨⟨hp, hinked⟩, hps⟩ := List.forall_mem_cons.mp h
    cases ps with
    | nil => rw [joinParagraphs_singleton, paragraphs_of_inked hp hinked]
    | cons q ps =>
      rw [joinParagraphs_cons_cons, paragraphs_append_blank isBlank_nil, paragraphs_of_inked hp hinked, ih hps,
        List.singleton_append]

/-! ## Lines without needless blank ones -/

/-- Lines with one blank line between paragraphs and no other blank lines. -/
def squeeze (ls : List Text) : List Text := joinParagraphs (paragraphs ls)

/-- No two blank lines stand next to each other. -/
def HasSingleGaps (ls : List Text) : Prop := ls.IsChain fun l k => isBlank l = false ∨ isBlank k = false

theorem HasSingleGaps.of_isInfix (h : HasSingleGaps ls) (hks : ks <:+: ls) : HasSingleGaps ks := by
  obtain ⟨front, back, rfl⟩ := hks
  exact (List.IsChain.left_of_append h).right_of_append

/-- Only where lines are blank counts. -/
theorem HasSingleGaps.congr (h : HasSingleGaps ls) (hblank : ks.map isBlank = ls.map isBlank) :
    HasSingleGaps ks := by
  have hmap (ls : List Text) : (ls.map isBlank).IsChain (fun a b => a = false ∨ b = false) ↔
      HasSingleGaps ls := List.isChain_map isBlank
  rwa [← hmap, hblank, hmap]

/-- No blank line holds spaces, stands at an end or next to another one. -/
structure IsSqueezed (ls : List Text) : Prop where
  trimmed : IsTrimmed ls
  cleared : IsCleared ls
  single : HasSingleGaps ls

theorem isSqueezed_of_inked (hls : ∀ l ∈ ls, isBlank l = false) : IsSqueezed ls where
  trimmed := ⟨fun l hl => hls l (List.mem_of_mem_head? hl), fun l hl => hls l (List.mem_of_getLast? hl)⟩
  cleared l hl hblank := by
    rw [hls l hl] at hblank
    cases hblank
  single := by
    refine List.Pairwise.isChain (List.pairwise_of_forall_mem_list fun l hl _ _ => ?_)
    exact .inl (hls l hl)

theorem IsSqueezed.append (hls : IsSqueezed ls) (hks : IsSqueezed ks) : IsSqueezed (ls ++ ks) where
  trimmed := by
    constructor
    · intro l hl
      rw [List.head?_append, Option.or_eq_some_iff] at hl
      exact hl.elim (hls.trimmed.1 l) fun h => hks.trimmed.1 l h.2
    · intro l hl
      rw [List.getLast?_append, Option.or_eq_some_iff] at hl
      exact hl.elim (hks.trimmed.2 l) fun h => hls.trimmed.2 l h.2
  cleared := hls.cleared.append hks.cleared
  single := List.IsChain.append hls.single hks.single fun l hl k _ => .inl (hls.trimmed.2 l hl)

/-- Squeezed lines may be set apart by a blank line. -/
theorem IsSqueezed.append_gap (hls : IsSqueezed ls) (hks : IsSqueezed ks) (hls' : ls ≠ []) (hks' : ks ≠ []) :
    IsSqueezed (ls ++ [] :: ks) where
  trimmed := by
    constructor
    · intro l hl
      rw [List.head?_append_of_ne_nil ls hls'] at hl
      exact hls.trimmed.1 l hl
    · intro l hl
      rw [List.getLast?_append_of_ne_nil ls (List.cons_ne_nil _ _), List.getLast?_cons_of_ne_nil hks'] at hl
      exact hks.trimmed.2 l hl
  cleared := hls.cleared.append (IsCleared.append (isCleared_replicate 1) hks.cleared)
  single := by
    refine List.IsChain.append hls.single ?_ fun l hl k _ => .inl (hls.trimmed.2 l hl)
    exact List.IsChain.cons hks.single fun k hk => .inr (hks.trimmed.1 k hk)

theorem IsSqueezed.map {f : Text → Text} (hf : ∀ l, isBlank (f l) = isBlank l) (hnil : f [] = [])
    (h : IsSqueezed ls) : IsSqueezed (ls.map f) where
  trimmed := h.trimmed.map hf
  cleared l hl hblank := by
    obtain ⟨k, hk, rfl⟩ := List.mem_map.mp hl
    rw [hf] at hblank
    rw [h.cleared k hk hblank, hnil]
  single := by
    refine h.single.congr ?_
    rw [List.map_map]
    exact List.map_congr_left fun l _ => hf l

theorem AreParagraphs.isSqueezed (h : AreParagraphs ps) : IsSqueezed (joinParagraphs ps) := by
  induction ps with
  | nil => exact isSqueezed_of_inked fun l hl => absurd hl List.not_mem_nil
  | cons p ps ih =>
    obtain ⟨⟨hp, hinked⟩, hps⟩ := List.forall_mem_cons.mp h
    cases ps with
    | nil =>
      rw [joinParagraphs_singleton]
      exact isSqueezed_of_inked hinked
    | cons q ps =>
      rw [joinParagraphs_cons_cons]
      exact (isSqueezed_of_inked hinked).append_gap (ih hps) hp
        (joinParagraphs_ne_nil (hps q List.mem_cons_self).1 ps)

theorem isSqueezed_squeeze (ls : List Text) : IsSqueezed (squeeze ls) := (areParagraphs_paragraphs ls).isSqueezed

theorem squeeze_blank_append (hls : ∀ l ∈ ls, isBlank l = true) (ks : List Text) :
    squeeze (ls ++ ks) = squeeze ks := by
  rw [squeeze, paragraphs_blank_append hls, squeeze]

theorem squeeze_of_inked (hls : ∀ l ∈ ls, isBlank l = false) : squeeze ls = ls := by
  cases ls with
  | nil => rfl
  | cons l ls => rw [squeeze, paragraphs_of_inked (List.cons_ne_nil l ls) hls, joinParagraphs_singleton]

theorem squeeze_append_gap (hls : squeeze ls ≠ []) (hks : squeeze ks ≠ []) :
    squeeze (ls ++ [] :: ks) = squeeze ls ++ [] :: squeeze ks := by
  have hls' : paragraphs ls ≠ [] := fun h => hls (congrArg joinParagraphs h)
  have hks' : paragraphs ks ≠ [] := fun h => hks (congrArg joinParagraphs h)
  unfold squeeze
  rw [paragraphs_append_blank isBlank_nil, joinParagraphs, intercalate_append hls' hks', List.append_assoc]
  rfl

/-- Part of squeezed lines may have blank lines only at its ends. -/
theorem IsSqueezed.of_isInfix (h : IsSqueezed ls) (hks : ks <:+: ls) (htrimmed : IsTrimmed ks) : IsSqueezed ks :=
  ⟨htrimmed, fun k hk => h.cleared k (hks.subset hk), h.single.of_isInfix hks⟩

/-- A blank line stands between squeezed lines. -/
theorem IsSqueezed.of_append_blank {l : Text} (h : IsSqueezed (ls ++ l :: ks)) (hl : isBlank l = true) :
    l = [] ∧ ls ≠ [] ∧ ks ≠ [] ∧ IsSqueezed ks := by
  have hne : ks ≠ [] := by
    rintro rfl
    have hlast := h.trimmed.2 l (by simp)
    rw [hl] at hlast
    cases hlast
  have hhead : ∀ k, ks.head? = some k → isBlank k = false := by
    intro k hk
    have hchain := (List.IsChain.right_of_append h.single).rel_head? hk
    exact hchain.resolve_left (by simp [hl])
  refine ⟨h.cleared l (by simp) hl, ?_, hne, h.of_isInfix ⟨ls ++ [l], [], by simp⟩ ⟨hhead, fun k hk => ?_⟩⟩
  · rintro rfl
    have hfirst := h.trimmed.1 l rfl
    rw [hl] at hfirst
    cases hfirst
  · refine h.trimmed.2 k ?_
    rw [List.getLast?_append_of_ne_nil ls (List.cons_ne_nil _ _), List.getLast?_cons_of_ne_nil hne, hk]

/-- Squeezed lines stay as they are. -/
theorem IsSqueezed.squeeze_eq (h : IsSqueezed ls) : squeeze ls = ls := by
  induction ls using runs_induction with
  | run ls hls => exact squeeze_of_inked hls
  | blank ls l rest hls hl ih =>
    obtain ⟨rfl, hne, hne', hrest⟩ := h.of_append_blank hl
    have hrun := squeeze_of_inked hls
    have hbehind := ih hrest
    rw [squeeze_append_gap (by rwa [hrun]) (by rwa [hbehind]), hrun, hbehind]

/-- Lines with text that follow each other stay together. -/
theorem squeeze_cons_cons {l k : Text} (hl : isBlank l = false) (hk : isBlank k = false) (ls : List Text) :
    squeeze (l :: k :: ls) = l :: squeeze (k :: ls) := by
  obtain ⟨p, ps, hps, hps'⟩ := paragraphs_cons_cons hl hk ls
  rw [squeeze, squeeze, hps, hps']
  cases ps <;> simp [joinParagraphs_singleton, joinParagraphs_cons_cons]

/-- Below a line with text there is at most one blank line. -/
theorem squeeze_cons {l : Text} (hl : isBlank l = false) (ls : List Text) :
    ∃ gap, (∀ k ∈ gap, k = []) ∧ squeeze (l :: ls) = l :: (gap ++ squeeze ls) := by
  have hone : paragraphs [l] = [[l]] := paragraphs_of_inked (List.cons_ne_nil l []) (by simpa using hl)
  cases ls with
  | nil => exact ⟨[], by simp, by rw [squeeze, hone]; rfl⟩
  | cons k ls =>
    cases hk : isBlank k with
    | true =>
      have hsplit : paragraphs (l :: k :: ls) = [l] :: paragraphs ls := by
        have happend := paragraphs_append_blank hk [l] ls
        rwa [hone] at happend
      have hgap : ∀ line ∈ [k], isBlank line = true := by simpa using hk
      have hrest : squeeze (k :: ls) = squeeze ls := squeeze_blank_append hgap ls
      rw [hrest, squeeze, hsplit]
      cases hps : paragraphs ls with
      | nil => exact ⟨[], by simp, by rw [squeeze, hps]; rfl⟩
      | cons p ps => exact ⟨[[]], by simp, by rw [squeeze, hps, joinParagraphs_cons_cons]; rfl⟩
    | false => exact ⟨[], by simp, squeeze_cons_cons hl hk ls⟩

instance (ls : List Text) : Decidable (IsSqueezed ls) :=
  decidable_of_iff (squeeze ls = ls) ⟨fun h => h ▸ isSqueezed_squeeze ls, IsSqueezed.squeeze_eq⟩

end DocTidy.Document
