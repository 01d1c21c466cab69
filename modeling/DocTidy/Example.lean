import DocTidy.Text.Lines
import DocTidy.Run

/-!
# Examples

The lines of an examples section.  Blank lines separate blocks; a block that begins with a prompt
is a session of code inputs, each with the output below it.  Code inputs go through a formatter
and come back under fresh prompts, everything else stays.
-/

namespace DocTidy

open Text

/-- Formats a piece of code, or gives up. -/
abbrev CodeFormatter := Text → Option Text

namespace Example

/-- Code lines without their prompts and the output below them.  A piece without code is text. -/
structure Piece where
  input : List Text
  output : List Text
deriving Repr, DecidableEq

def Piece.isCode (p : Piece) : Bool := !p.input.isEmpty

/-- The piece begun, if it holds anything. -/
def finished (input output : List Text) : List Piece :=
  if input.isEmpty && output.isEmpty then [] else [⟨input, output⟩]

/-- The pieces of a session.  After a code line (`inCode`) both prompts continue the input; after
an output line only the first prompt starts a new one. -/
def sessionPieces (inCode : Bool) (input output : List Text) : List Text → List Piece
  | [] => finished input output
  | line :: rest =>
    if startsWith line ">>> " && !inCode then
      finished input output ++ sessionPieces true [line.drop 4] [] rest
    else if (startsWith line "... " || startsWith line ">>> ") && inCode then
      sessionPieces true (input ++ [line.drop 4]) output rest
    else sessionPieces false input (output ++ [line]) rest

/-- The pieces of a block of lines. -/
def piecesOf : List Text → Except Error (List Piece)
  | [] => .error .noLine
  | first :: rest =>
    if startsWith first ">>>" then .ok (sessionPieces false [] [] (first :: rest))
    else .ok [⟨[], first :: rest⟩]

/-- Code lines under prompts: the first prompt before the first line, the other before the rest. -/
def withPrompts : List Text → List Text
  | [] => []
  | first :: rest => (">>> " ++ first) :: rest.map fun line => "... " ++ line

/-- Code lines as the formatter writes them.  Code with directives for the test runner stays. -/
def tidyCode (format : CodeFormatter) (code : List Text) : Except Error (List Text) :=
  let text := unlines code
  if includes "doctest:" text then .ok code
  else
    match format text with
    | some result => .ok (splitLines result)
    | none => .error (.unformattedCode text)

def tidyPiece (onCode : List Text → Except Error (List Text)) (p : Piece) :
    Except Error (List Text) := do
  return withPrompts (← onCode p.input) ++ p.output

def tidyBlock (onCode : List Text → Except Error (List Text)) (block : List Text) :
    Except Error (List Text) := do
  return (← (← piecesOf block).mapM (tidyPiece onCode)).flatten

/-- Example lines with every code input rewritten and one blank line between blocks.  A block that
fails is shown. -/
def tidyWith (onCode : List Text → Except Error (List Text)) (lines : List Text) :
    Run (List Text) := do
  let blocks ← (paragraphs lines).mapM fun block =>
    (Run.ofExcept (tidyBlock onCode block)).onFailure [.said (quotedList block)]
  return [[]].intercalate blocks

/-- Example lines with every code input formatted. -/
def tidy (format : CodeFormatter) (lines : List Text) : Run (List Text) :=
  tidyWith (tidyCode format) lines

end Example
end DocTidy
