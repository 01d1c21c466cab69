import DocTidy.Text.Lines
import DocTidy.Source.Formatted

/-!
# String literals

From the characters behind an opening quote to the text that a literal stands for.
-/

namespace DocTidy.Source

open Text

/-- What the letters before the opening quote say. -/
structure LiteralMarks where
  raw : Bool
  bytes : Bool
  formatted : Bool
deriving Repr, DecidableEq

/-- The marks of a string literal, if the letters are such. -/
def LiteralMarks.of? (letters : Text) : Option LiteralMarks :=
  let l := toLower letters
  let known : List Text := ["", "u", "r", "b", "f", "br", "rb", "fr", "rf"]
  if known.contains l then some ⟨l.contains 'r', l.contains 'b', l.contains 'f'⟩ else none

/-- The body of a literal up to its closing quote, and what follows.  A backslash takes the next
character along; a literal with single quotes ends on its line. -/
def bodyOf? (quote : Char) (triple : Bool) : Text → Option (Text × Text)
  | [] => none
  | '\\' :: '\r' :: '\n' :: r =>
    (bodyOf? quote triple r).map fun (body, rest) => ('\\' :: '\r' :: '\n' :: body, rest)
  | '\\' :: c :: r => (bodyOf? quote triple r).map fun (body, rest) => ('\\' :: c :: body, rest)
  | c :: r =>
    if triple && startsWith (c :: r) [quote, quote, quote] then some ([], r.drop 2)
    else if !triple && c = quote then some ([], r)
    else if !triple && (c = '\n' || c = '\r') then none
    else (bodyOf? quote triple r).map fun (body, rest) => (c :: body, rest)

/-- The kind of a literal with that body. -/
def literalKind? (marks : LiteralMarks) (body : Text) : Option TokenKind :=
  let body := toNewlines body
  if marks.formatted then (fieldsOf? marks.raw body).map .formatted
  else if marks.bytes && body.any (fun c => 128 ≤ c.toNat) then none
  else do
    let value ← if marks.raw then some body else unescape? marks.bytes body
    return if marks.bytes then .bytes else .string value

/-- Reads a literal from its opening quote on: its kind, and what follows. -/
def readLiteral? (marks : LiteralMarks) (t : Text) : Option (TokenKind × Text) :=
  match t with
  | [] => none
  | q :: r => do
    let triple := startsWith t [q, q, q]
    let (body, rest) ← bodyOf? q triple (if triple then r.drop 2 else r)
    return (← literalKind? marks body, rest)

end DocTidy.Source
