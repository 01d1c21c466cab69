/-!
# Text

A text is the list of its code points, so that lengths and cuts count code points and every
function on texts is a function on lists.  This file holds stripping, searching and replacing;
splitting at one character is `List.splitOn` and joining is `List.intercalate`.
-/

namespace DocTidy

/-- A text is the list of its code points. -/
abbrev Text := List Char

instance : Coe String Text := ⟨String.toList⟩

namespace Text

/-- White space: the blanks, the controls that separate lines or records, and the Unicode spaces. -/
def isSpace (c : Char) : Bool :=
  let n := c.toNat
  (9 ≤ n && n ≤ 13) || (28 ≤ n && n ≤ 32) || n == 0x85 || n == 0xA0 || n == 0x1680 ||
    (0x2000 ≤ n && n ≤ 0x200A) || n == 0x2028 || n == 0x2029 || n == 0x202F || n == 0x205F ||
    n == 0x3000

/-- A text is blank when it holds white space only. -/
def isBlank (t : Text) : Bool := t.all isSpace

/-- Drops the longest run at the end whose characters all satisfy `p`. -/
def dropEndWhile (p : Char → Bool) (t : Text) : Text := (t.reverse.dropWhile p).reverse

def stripLeft (t : Text) : Text := t.dropWhile isSpace

def stripRight (t : Text) : Text := dropEndWhile isSpace t

def strip (t : Text) : Text := stripRight (stripLeft t)

/-- `t` starts with `head`. -/
def startsWith (t head : Text) : Bool := head.isPrefixOf t

/-- `t` ends with `tail`. -/
def endsWith (t tail : Text) : Bool := tail.isSuffixOf t

/-- `part` occurs somewhere in the text. -/
def includes (part : Text) : Text → Bool
  | [] => part.isEmpty
  | c :: r => part.isPrefixOf (c :: r) || includes part r

/-- The text before the first occurrence of `part` and the text after it. -/
def cutAt? (part : Text) : Text → Option (Text × Text)
  | [] => if part.isEmpty then some ([], []) else none
  | c :: r =>
    if part.isPrefixOf (c :: r) then some ([], (c :: r).drop part.length)
    else (cutAt? part r).map fun (front, rest) => (c :: front, rest)

/-- Replaces the occurrences of `old`, from left to right; `skip` counts the characters of an
occurrence that are still to be passed over. -/
def replaceFrom (old new : Text) : Nat → Text → Text
  | _, [] => []
  | skip + 1, _ :: r => replaceFrom old new skip r
  | 0, c :: r =>
    if old.isPrefixOf (c :: r) then new ++ replaceFrom old new (old.length - 1) r
    else c :: replaceFrom old new 0 r

/-- Replaces every occurrence of a non-empty text by another. -/
def replace (old new t : Text) : Text := replaceFrom old new 0 t

def replicate (n : Nat) (c : Char) : Text := List.replicate n c

def spaces (n : Nat) : Text := List.replicate n ' '

/-- Lines joined by newlines. -/
def unlines (ls : List Text) : Text := ['\n'].intercalate ls

/-- `s` comes before `t`.  The first characters in which they differ decide. -/
def isBefore (s t : Text) : Bool := List.lex s t fun a b => Nat.blt a.toNat b.toNat

/-- ASCII letters in lower case; every other character stays. -/
def toLower (t : Text) : Text := t.map Char.toLower

def ofNat (n : Nat) : Text := (toString n).toList

def ofInt (n : Int) : Text := (toString n).toList

end Text
end DocTidy
