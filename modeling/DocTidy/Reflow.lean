import DocTidy.Text.Lines

/-!
# Reflow

The words of a text, refilled into lines of at most 80 characters.  Words are what single spaces
separate, so two spaces in a row stand around an empty word.
-/

namespace DocTidy.Reflow

open Text

/-- The width that lines are filled to. -/
def width : Nat := 80

/-- The words of all lines, in order. -/
def words (t : Text) : List Text := (splitLines t).flatMap fun line => line.splitOn ' '

/-- The room that words take when a space follows each of them. -/
def room : List Text → Nat
  | [] => 0
  | w :: ws => w.length + 1 + room ws

/-- Adds words to the line begun, and starts a new line with each word that does not fit. -/
def fillFrom (line : List Text) : List Text → List (List Text)
  | [] => if line.isEmpty then [] else [line]
  | w :: ws =>
    if room line + w.length > width then line :: fillFrom [w] ws
    else fillFrom (line ++ [w]) ws

/-- Words gathered into lines. -/
def fill (ws : List Text) : List (List Text) := fillFrom [] ws

/-- Lines of words as a text. -/
def render (lines : List (List Text)) : Text :=
  unlines (lines.map fun ws => [' '].intercalate ws)

/-- One pass of refilling. -/
def pass (t : Text) : Text := render (fill (words t))

/-- A text refilled; the second pass settles the words that the first one set apart. -/
def reflow (t : Text) : Text := pass (pass t)

end DocTidy.Reflow
