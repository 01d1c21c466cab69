import DocTidy.Source.Token
import DocTidy.Text.CharName

/-!
# Escapes

What a backslash and the characters behind it stand for in a string literal.
-/

namespace DocTidy.Source

open Text

/-- The value of a digit in a base up to sixteen. -/
def digit? (base : Nat) (c : Char) : Option Nat :=
  let n :=
    if c.isDigit then c.toNat - '0'.toNat
    else if 'a' ≤ c && c ≤ 'f' then c.toNat - 'a'.toNat + 10
    else if 'A' ≤ c && c ≤ 'F' then c.toNat - 'A'.toNat + 10
    else base
  if n < base then some n else none

/-- The number that digits stand for. -/
def number? (base : Nat) (digits : Text) : Option Nat :=
  digits.foldlM (fun n c => (digit? base c).map (n * base + ·)) 0

/-- The character of a code point.  One that is no character is shown as the replacement
character. -/
def charOf (n : Nat) : Char := if n.isValidChar then Char.ofNat n else '�'

/-- A character given by a fixed number of hexadecimal digits. -/
def hexChar? (width : Nat) (t : Text) : Option (Char × Text) := do
  let digits := t.take width
  let n ← number? 16 digits
  if digits.length = width && n < 0x110000 then some (charOf n, t.drop width) else none

/-- The characters that a backslash and a letter stand for. -/
def namedEscapes : List (Char × Char) :=
  [('\\', '\\'), ('\'', '\''), ('"', '"'), ('a', '\x07'), ('b', '\x08'), ('f', '\x0c'),
   ('n', '\n'), ('r', '\r'), ('t', '\t'), ('v', '\x0b')]

/-- The character that an escape stands for, if any, and what follows.  An unknown escape stands
for itself, and so does a backslash at the end. -/
def escape? (bytes : Bool) (t : Text) : Option (Text × Text) :=
  match t with
  | [] => some (['\\'], [])
  | c :: r =>
    if c = '\n' then some ([], r)
    else
      match namedEscapes.lookup c with
      | some e => some ([e], r)
      | none =>
        if (digit? 8 c).isSome then
          let digits := (t.take 3).takeWhile fun d => (digit? 8 d).isSome
          some ([charOf ((number? 8 digits).getD 0)], t.drop digits.length)
        else if c = 'x' then (hexChar? 2 r).map fun (e, rest) => ([e], rest)
        else if c = 'u' && !bytes then (hexChar? 4 r).map fun (e, rest) => ([e], rest)
        else if c = 'U' && !bytes then (hexChar? 8 r).map fun (e, rest) => ([e], rest)
        else if c = 'N' && !bytes then
          match r with
          | '\x7b' :: r => do
            let (name, rest) ← cutAt? "\x7d" r
            return ([← CharName.find? name], rest)
          | _ => none
        else some (['\\', c], r)

/-- Replaces escapes by what they stand for; `fuel` is enough if it is the length of the text. -/
def unescapeFrom (bytes : Bool) : Nat → Text → Option Text
  | 0, t => some t
  | _ + 1, [] => some []
  | fuel + 1, '\\' :: r => do
    let (value, rest) ← escape? bytes r
    return value ++ (← unescapeFrom bytes fuel rest)
  | fuel + 1, c :: r => return c :: (← unescapeFrom bytes fuel r)

/-- Replaces escapes by what they stand for. -/
def unescape? (bytes : Bool) (t : Text) : Option Text := unescapeFrom bytes t.length t

end DocTidy.Source
