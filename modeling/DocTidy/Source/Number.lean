import DocTidy.Source.Token

/-!
# Numbers

Where a number ends: whole numbers in four bases, with underscores between digits, numbers with a
fraction or an exponent, and imaginary ones.
-/

namespace DocTidy.Source

open Text

def isHexDigit (c : Char) : Bool := c.isDigit || ('a' ≤ c && c ≤ 'f') || ('A' ≤ c && c ≤ 'F')

/-- What follows some digits, each with at most one underscore before it. -/
def afterDigits (isDigit : Char → Bool) : Text → Text
  | '_' :: d :: r => if isDigit d then afterDigits isDigit r else '_' :: d :: r
  | d :: r => if isDigit d then afterDigits isDigit r else d :: r
  | [] => []

/-- What follows a number in the base that a letter stands for: at least one digit is needed. -/
def afterBased? (isDigit : Char → Bool) (t : Text) : Option Text :=
  let rest := afterDigits isDigit t
  if rest.length < t.length then some rest else none

/-- The digits of a base by its letter. -/
def baseDigits? (letter : Char) : Option (Char → Bool) :=
  if letter = 'x' || letter = 'X' then some isHexDigit
  else if letter = 'o' || letter = 'O' then some fun c => '0' ≤ c && c ≤ '7'
  else if letter = 'b' || letter = 'B' then some fun c => c = '0' || c = '1'
  else none

/-- What follows a fraction. -/
def afterFraction (t : Text) : Text :=
  match t with
  | '.' :: d :: r => if d.isDigit then afterDigits Char.isDigit (d :: r) else d :: r
  | '.' :: [] => []
  | _ => t

/-- What follows an exponent. -/
def afterExponent (t : Text) : Text :=
  match t with
  | mark :: sign :: d :: r =>
    if mark = 'e' || mark = 'E' then
      if sign.isDigit then afterDigits Char.isDigit (sign :: d :: r)
      else if (sign = '+' || sign = '-') && d.isDigit then afterDigits Char.isDigit (d :: r)
      else t
    else t
  | [mark, d] => if (mark = 'e' || mark = 'E') && d.isDigit then [] else t
  | _ => t

def afterImaginary (t : Text) : Text :=
  match t with
  | c :: r => if c = 'j' || c = 'J' then r else t
  | [] => t

/-- How many digits a whole number in base ten may have. -/
def maxDigits : Nat := 4300

/-- The digits may be a whole number.  Only zero starts with a zero. -/
def isWholeNumber (digits : Text) : Bool :=
  let digits := digits.filter (· ≠ '_')
  if startsWith digits "0" then digits.all (· == '0') else digits.length ≤ maxDigits

/-- What follows a number in base ten. -/
def afterDecimal? (t : Text) : Option Text :=
  let whole := afterDigits Char.isDigit t
  let rest := afterImaginary (afterExponent (afterFraction whole))
  if rest.length = whole.length && !isWholeNumber (t.take (t.length - whole.length)) then none
  else some rest

/-- The words that may follow a number without a blank. -/
def wordsAfterNumber : List Text := ["and", "else", "for", "if", "in", "is", "not", "or"]

/-- The number ends where this text begins. -/
def endsNumber (t : Text) : Bool :=
  match t with
  | [] => true
  | c :: _ => !isWordPart c || wordsAfterNumber.any (startsWith t)

/-- The characters that a number is made of. -/
def isNumberChar (c : Char) : Bool := isWordPart c || c = '.' || c = '+' || c = '-'

/-- How many characters the number at the beginning of a text has, if it is one. -/
def numberLength? (t : Text) : Option Nat := do
  let t := t.takeWhile isNumberChar
  let rest ←
    match t with
    | '0' :: letter :: r =>
      match baseDigits? letter with
      | some isDigit => afterBased? isDigit r
      | none => afterDecimal? t
    | _ => afterDecimal? t
  if endsNumber rest then some (t.length - rest.length) else none

end DocTidy.Source
