import DocTidy.Text.Lines

/-!
# Indentation

`dedent` removes the margin that all lines share, `indent` puts one in front of them.  The margin
is made of spaces and tabs, and a line that holds nothing else has none: it is emptied.
-/

namespace DocTidy.Text

/-- The characters a margin is made of. -/
def isMargin (c : Char) : Bool := c == ' ' || c == '\t'

/-- The longest common start of two texts. -/
def commonStart : Text → Text → Text
  | a :: s, b :: t => if a = b then a :: commonStart s t else []
  | _, _ => []

/-- A line of spaces and tabs only becomes empty. -/
def emptyIfMargin (line : Text) : Text := if line.all isMargin then [] else line

/-- The longest margin that all the given margins start with. -/
def commonMargin : List Text → Text
  | [] => []
  | [m] => m
  | m :: ms => commonStart m (commonMargin ms)

/-- The margin shared by the lines that are not empty. -/
def sharedMargin (lines : List Text) : Text :=
  commonMargin ((lines.filter fun l => !l.isEmpty).map fun l => l.takeWhile isMargin)

/-- Removes the shared margin of some lines, after emptying those of spaces and tabs only. -/
def dedentLines (lines : List Text) : List Text :=
  let cleared := lines.map emptyIfMargin
  let width := (sharedMargin cleared).length
  cleared.map fun l => l.drop width

/-- Like `dedentLines`, but where there is no line the result is one empty line: so many lines
does an empty text have when it is split at newlines. -/
def dedentBody : List Text → List Text
  | [] => [[]]
  | l :: ls => dedentLines (l :: ls)

/-- Removes the shared margin of the newline-separated lines of a text. -/
def dedent (t : Text) : Text := unlines (dedentLines (t.splitOn '\n'))

/-- Puts `margin` in front of every line that is not blank. -/
def indent (margin t : Text) : Text :=
  ((splitLinesKeep t).map fun l => if isBlank l then l else margin ++ l).flatten

end DocTidy.Text
