import DocTidy.Text.Normal.CombiningClass
import DocTidy.Text.Normal.Composition
import DocTidy.Text.Normal.Folding

/-!
# Normal form

Two spellings of an identifier mean the same one if they have the same normal form: every variant
of a character is replaced by what it stands for, everything is taken apart, the marks on a letter
are put in order, and letters and marks are put together again.
-/

namespace DocTidy.Text

/-- The parts of a character, with variants replaced.  No character is taken apart more than
three times. -/
def decomposeChar : Nat → Char → Text
  | 0, c => [c]
  | depth + 1, c =>
    match foldingOf? c, Hangul.parts? c, partsOf? c with
    | some t, _, _ => t
    | none, some t, _ => t
    | none, none, some (base, mark) => decomposeChar depth base ++ [mark]
    | none, none, none => [c]

def decompose (t : Text) : Text :=
  t.flatMap fun c => if c.toNat < 128 then [c] else decomposeChar 4 c

/-- Puts a character behind a text, which is given last character first; a mark goes before the
marks of a higher class. -/
def placeMark (c : Char) : Text → Text
  | [] => [c]
  | d :: r =>
    if combiningClass c != 0 && combiningClass c < combiningClass d then d :: placeMark c r
    else c :: d :: r

def sortMarks (t : Text) : Text := (t.foldl (fun placed c => placeMark c placed) []).reverse

/-- A text that is being put together. -/
structure Composing where
  /-- What is finished, last character first. -/
  done : Text
  /-- The letter that the next marks may be put on. -/
  letter? : Option Char
  /-- The marks that could not be put on the letter, last one first. -/
  marks : Text

namespace Composing

def start : Composing := ⟨[], none, []⟩

/-- The text so far, last character first. -/
def text (s : Composing) : Text := s.marks ++ s.letter?.toList ++ s.done

/-- Takes the next character.  It is put on the letter if no mark of its class or a higher one
stands in between. -/
def add (s : Composing) (c : Char) : Composing :=
  let isBlocked := s.marks.head?.any fun m => combiningClass c ≤ combiningClass m
  let composite? := s.letter?.bind fun l =>
    if isBlocked then none else (Hangul.compose? l c).orElse fun _ => compositeOf? l c
  match composite? with
  | some l => { s with letter? := some l }
  | none =>
    if combiningClass c = 0 then ⟨s.text, some c, []⟩ else { s with marks := c :: s.marks }

end Composing

def compose (t : Text) : Text := (t.foldl Composing.add .start).text.reverse

/-- The normal form of an identifier. -/
def normalForm (t : Text) : Text :=
  if t.all fun c => c.toNat < 128 then t else compose (sortMarks (decompose t))

end DocTidy.Text
