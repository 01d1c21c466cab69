import DocTidy.Text.WordChar
import DocTidy.Proofs.Text.Indent

/-!
# Letters and digits

The letters and digits of a text, in their order.  White space and the marks between the parts of a text
do not change them, so stripping, joining and splitting keep them.
-/

namespace DocTidy.Text

variable {s t : Text} {ls : List Text}

def isLetterOrDigit (c : Char) : Bool := isWord c && c != '_'

/-- The letters and digits of a text. -/
def letters (t : Text) : Text := t.filter isLetterOrDigit

/-- The letters and digits of some lines. -/
def lettersOf (ls : List Text) : Text := ls.flatMap letters

@[simp] theorem letters_nil : letters [] = [] := rfl

@[simp] theorem letters_append (s t : Text) : letters (s ++ t) = letters s ++ letters t :=
  List.filter_append s t

@[simp] theorem lettersOf_nil : lettersOf [] = [] := rfl

@[simp] theorem lettersOf_cons (l : Text) (ls : List Text) :
    lettersOf (l :: ls) = letters l ++ lettersOf ls := rfl

@[simp] theorem lettersOf_append (ls ls' : List Text) :
    lettersOf (ls ++ ls') = lettersOf ls ++ lettersOf ls' := by
  simp [lettersOf]

/-- The code points of white space. -/
def spaceCodes : List Nat :=
  [9, 10, 11, 12, 13, 28, 29, 30, 31, 32, 0x85, 0xA0, 0x1680, 0x2000, 0x2001, 0x2002, 0x2003, 0x2004,
   0x2005, 0x2006, 0x2007, 0x2008, 0x2009, 0x200A, 0x2028, 0x2029, 0x202F, 0x205F, 0x3000]

theorem eq_false_of_isSpace {f : Char → Bool} (hf : ∀ n ∈ spaceCodes, f (Char.ofNat n) = false) {c : Char}
    (h : isSpace c = true) : f c = false := by
  have hcode : c.toNat ∈ spaceCodes := by
    unfold isSpace at h
    simp only [Bool.or_eq_true, Bool.and_eq_true, decide_eq_true_eq, beq_iff_eq] at h
    simp only [spaceCodes, List.mem_cons, List.not_mem_nil, or_false]
    omega
  rw [← Char.ofNat_toNat c]
  exact hf _ hcode

theorem isWord_of_isSpace {c : Char} (h : isSpace c = true) : isWord c = false :=
  eq_false_of_isSpace (by decide +kernel) h

theorem isLetterOrDigit_of_isSpace {c : Char} (h : isSpace c = true) : isLetterOrDigit c = false := by
  rw [isLetterOrDigit, isWord_of_isSpace h, Bool.false_and]

theorem letters_eq_nil (h : isBlank t = true) : letters t = [] := by
  refine List.filter_eq_nil_iff.mpr fun c hc => ?_
  rw [isLetterOrDigit_of_isSpace (List.all_eq_true.mp h c hc)]
  decide

@[simp] theorem letters_strip (t : Text) : letters (strip t) = letters t := by
  -- White space goes on the left first, then on the right.
  have hright (t : Text) : letters (stripRight t) = letters t := by
    have ⟨w, hw, ht⟩ := exists_eq_stripRight_append t
    conv_rhs => rw [ht, letters_append, letters_eq_nil hw, List.append_nil]
  have hleft : letters (stripLeft t) = letters t := by
    conv_rhs => rw [← List.takeWhile_append_dropWhile (p := isSpace) (l := t)]
    rw [letters_append, letters_eq_nil List.all_takeWhile, List.nil_append]
    rfl
  rw [strip, hright, hleft]

theorem letters_intercalate (hs : letters s = []) (ls : List Text) :
    letters (s.intercalate ls) = lettersOf ls := by
  induction ls with
  | nil => rfl
  | cons l ls ih =>
    cases ls with
    | nil => simp
    | cons k ks =>
      rw [List.intercalate_cons_cons, letters_append, letters_append, hs, List.append_nil, ih]
      rfl

theorem letters_unlines (ls : List Text) : letters (unlines ls) = lettersOf ls :=
  letters_intercalate (by decide) ls

theorem lettersOf_splitOn {c : Char} (hc : isLetterOrDigit c = false) (t : Text) :
    lettersOf (t.splitOn c) = letters t := by
  have hmark : letters [c] = [] := List.filter_cons_of_neg (by simp [hc])
  rw [← letters_intercalate hmark, List.intercalate_splitOn]

end DocTidy.Text
