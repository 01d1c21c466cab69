import DocTidy.Text.Basic
import DocTidy.Text.Printable

/-!
# Quoted text

Debug texts show a text between quotes, with escapes for what cannot be shown.  The quote is the
apostrophe, unless the text holds apostrophes and no double quote.
-/

namespace DocTidy.Text

/-- The last `width` hexadecimal digits of `n`. -/
def hexDigits (width n : Nat) : Text :=
  let digits := Nat.toDigits 16 n
  List.replicate (width - digits.length) '0' ++ digits

/-- One character of a quoted text. -/
def escape (quote c : Char) : Text :=
  if c = quote || c = '\\' then ['\\', c]
  else if c = '\n' then "\\n"
  else if c = '\r' then "\\r"
  else if c = '\t' then "\\t"
  else if isPrintable c then [c]
  else if c.toNat < 0x100 then "\\x" ++ hexDigits 2 c.toNat
  else if c.toNat < 0x10000 then "\\u" ++ hexDigits 4 c.toNat
  else "\\U" ++ hexDigits 8 c.toNat

def quoteFor (t : Text) : Char := if t.contains '\'' && !t.contains '"' then '"' else '\''

/-- A text between quotes. -/
def quoted (t : Text) : Text :=
  let q := quoteFor t
  q :: t.flatMap (escape q) ++ [q]

/-- Items between brackets, separated by commas. -/
def bracketed (opening closing : Text) (items : List Text) : Text :=
  opening ++ (", " : Text).intercalate items ++ closing

/-- A list of texts, each quoted. -/
def quotedList (ts : List Text) : Text := bracketed "[" "]" (ts.map quoted)

/-- A set of texts, each quoted, in ascending order. -/
def quotedSet (ts : List Text) : Text :=
  if ts.isEmpty then "set()"
  else bracketed "\x7b" "\x7d" ((ts.mergeSort fun a b => !isBefore b a).map quoted)

/-- Entries with quoted keys; the values are already written out. -/
def quotedEntries (entries : List (Text × Text)) : Text :=
  bracketed "\x7b" "\x7d" (entries.map fun (key, value) => quoted key ++ ": " ++ value)

end DocTidy.Text
