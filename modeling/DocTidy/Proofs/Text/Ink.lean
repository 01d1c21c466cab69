import Mathlib
import DocTidy.Proofs.Text.Dedent

/-!
# Ink

The ink of a text is what is left of it without white space and without the marks that separate
names, types and descriptions.  Stripping, indenting and dedenting do not change it.
-/

namespace DocTidy.Text

variable {l s t w : Text} {ls : List Text}

/-- The character is neither white space nor a mark that sets the parts of an entry apart. -/
def isInk (c : Char) : Bool := !isSpace c && c != ':' && c != ',' && c != '\x60'

/-- How much ink there is in a text. -/
def ink (t : Text) : Nat := t.countP isInk

/-- How much ink there is in some lines. -/
def inkOf (ls : List Text) : Nat := (ls.map ink).sum

@[simp] theorem ink_nil : ink [] = 0 := rfl

@[simp] theorem ink_append (s t : Text) : ink (s ++ t) = ink s + ink t := List.countP_append

@[simp] theorem inkOf_nil : inkOf [] = 0 := rfl

@[simp] theorem inkOf_cons (l : Text) (ls : List Text) : inkOf (l :: ls) = ink l + inkOf ls := by
  simp [inkOf]

@[simp] theorem inkOf_append (ls ls' : List Text) : inkOf (ls ++ ls') = inkOf ls + inkOf ls' := by
  simp [inkOf]

theorem ink_cons (c : Char) (t : Text) : ink (c :: t) = ink t + if isInk c then 1 else 0 :=
  List.countP_cons

theorem ink_eq_zero (h : isBlank t = true) : ink t = 0 := by
  unfold ink
  rw [List.countP_eq_zero]
  intro c hc
  simp [isInk, List.all_eq_true.mp h c hc]

theorem ink_le_of_sublist (h : s.Sublist t) : ink s ≤ ink t := h.countP_le

theorem inkOf_le_of_sublist {ls ls' : List Text} (h : ls.Sublist ls') : inkOf ls ≤ inkOf ls' :=
  (h.map ink).sum_le_sum fun _ _ => Nat.zero_le _

/-! ## Stripping and indenting -/

@[simp] theorem ink_stripLeft (t : Text) : ink (stripLeft t) = ink t := by
  conv_rhs => rw [← List.takeWhile_append_dropWhile (p := isSpace) (l := t)]
  rw [ink_append, ink_eq_zero List.all_takeWhile, Nat.zero_add]
  rfl

@[simp] theorem ink_stripRight (t : Text) : ink (stripRight t) = ink t := by
  obtain ⟨w, hw, ht⟩ := exists_eq_stripRight_append t
  conv_rhs => rw [ht, ink_append, ink_eq_zero hw, Nat.add_zero]

@[simp] theorem ink_strip (t : Text) : ink (strip t) = ink t := by
  rw [strip, ink_stripRight, ink_stripLeft]

theorem inkOf_map {f : Text → Text} (hf : ∀ l, ink (f l) = ink l) (ls : List Text) :
    inkOf (ls.map f) = inkOf ls := by
  simp [inkOf, Function.comp_def, hf]

theorem inkOf_dedentLines (ls : List Text) : inkOf (dedentLines ls) = inkOf ls := by
  rw [← inkOf_map ink_strip, map_strip_dedentLines, inkOf_map ink_strip]

theorem inkOf_dedentBody (ls : List Text) : inkOf (dedentBody ls) = inkOf ls := by
  cases ls with
  | nil => rfl
  | cons k ks => exact inkOf_dedentLines (k :: ks)

theorem ink_indentFrom {m : Text} (hm : isBlank m = true) (atStart : Bool) (t : Text) :
    ink (indentFrom m atStart t) = ink t := by
  induction t generalizing atStart with
  | nil => rfl
  | cons c r ih =>
    have hmargin : ink (if atStart && !startsBlank (c :: r) then m else []) = 0 := by
      split
      · exact ink_eq_zero hm
      · rfl
    rw [indentFrom, ink_append, hmargin, ink_cons, ih, ← ink_cons, Nat.zero_add]

/-! ## Lines and paragraphs -/

theorem ink_intercalate (hs : ink s = 0) (ls : List Text) : ink (s.intercalate ls) = inkOf ls := by
  induction ls with
  | nil => rfl
  | cons l ls ih =>
    cases ls with
    | nil => simp
    | cons k ks => rw [List.intercalate_cons_cons, ink_append, ink_append, hs, ih, inkOf_cons]; rfl

theorem ink_unlines (ls : List Text) : ink (unlines ls) = inkOf ls := ink_intercalate rfl ls

theorem inkOf_splitOn (t : Text) : inkOf (t.splitOn '\n') = ink t := by
  rw [← ink_unlines, unlines, List.intercalate_splitOn]

/-- Paragraphs hold all the ink of their lines. -/
theorem inkOf_flatten_paragraphs (ls : List Text) : inkOf (paragraphs ls).flatten = inkOf ls := by
  rw [flatten_paragraphs]
  induction ls with
  | nil => rfl
  | cons l ls ih =>
    cases hl : isBlank l with
    | true => rw [List.filter_cons_of_neg (by simp [hl]), ih, inkOf_cons, ink_eq_zero hl, Nat.zero_add]
    | false => rw [List.filter_cons_of_pos (by simp [hl]), inkOf_cons, ih, inkOf_cons]

theorem inkOf_strippedParagraphs (t : Text) : inkOf (strippedParagraphs t).flatten = ink t := by
  rw [strippedParagraphs, inkOf_flatten_paragraphs, inkOf_map ink_strip, inkOf_splitOn]

end DocTidy.Text
