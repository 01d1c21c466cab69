import DocTidy.Text.Lines

/-!
# Coloured diffs

A diff for a terminal: every line gets the colour of what its first characters say about it.
-/

namespace DocTidy.Diff

open Text

/-- How a part of a line is written. -/
inductive Style where
  | plain
  | gray
  | red
  | green
  | heading
  | title
deriving Repr, DecidableEq

namespace Style

def escape : Char := '\x1b'

/-- The codes that switch a style on. -/
def codes : Style → List Text
  | plain => []
  | gray => ["37"]
  | red => ["91"]
  | green => ["32"]
  | heading => ["01", "35"]
  | title => ["01"]

/-- The sequence that the terminal takes a code from. -/
def sequence (code : Text) : Text := escape :: '[' :: code ++ ['m']

/-- A text without newlines in a style. -/
def paint (s : Style) (t : Text) : Text :=
  match s.codes with
  | [] => t
  | codes => codes.flatMap sequence ++ t ++ sequence "39;49;00"

/-- A text in a style, each of its lines on its own. -/
def paintLines (s : Style) (t : Text) : Text := (splitLinesKeep t).flatMap s.paint

end Style

/-- The text after a run of digits, if there is at least one. -/
def afterDigits? (t : Text) : Option Text :=
  match t with
  | c :: r => if c.isDigit then some (r.dropWhile Char.isDigit) else none
  | [] => none

/-- The text after a comma and a number, if it starts with these, and else the text. -/
def afterSecondNumber (t : Text) : Text :=
  match t with
  | ',' :: r => (afterDigits? r).getD t
  | _ => t

/-- The line is an editor command, such as `1,2c3`. -/
def isEditCommand (line : Text) : Bool :=
  match line with
  | [] => false
  | d :: r =>
    d.isDigit &&
      match afterSecondNumber r with
      | c :: r =>
        (c == 'a' || c == 'c' || c == 'd') &&
          match afterDigits? r with
          | some r => (afterSecondNumber r).isEmpty
          | none => false
      | [] => false

/-- The parts of a line and their styles. -/
def styled (line : Text) : List (Style × Text) :=
  let starts (head : Text) : Bool := startsWith line head
  if starts " " then [(.gray, [' ']), (.plain, line.drop 1)]
  else if starts "!" || line == "---" then [(.plain, line)]
  else if starts "< " || starts "-" then [(.red, line)]
  else if starts "> " || starts "+" then [(.green, line)]
  else if starts "@" || isEditCommand line then [(.heading, line)]
  else if starts "Index" || starts "index" || starts "diff" || starts "=" then [(.title, line)]
  else [(.plain, line)]

/-- A line in colour, with the newline behind it in gray. -/
def colourLine (line : Text) : Text :=
  (styled line).flatMap (fun (style, part) => style.paintLines part) ++ Style.gray.paint [] ++
    ['\n']

/-- A diff in colour.  Newlines around it are dropped, and one ends it. -/
def colour (diff : Text) : Text :=
  let isNewline (c : Char) : Bool := c == '\n'
  let lines := (dropEndWhile isNewline ((toNewlines diff).dropWhile isNewline)).splitOn '\n'
  lines.flatMap colourLine

end DocTidy.Diff
