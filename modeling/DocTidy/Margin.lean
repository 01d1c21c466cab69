import DocTidy.Text.Indent
import DocTidy.Error

/-!
# The margin of a docstring

The first line of a docstring stands right after its quotes, so its margin says nothing about the
margin of the lines below: the first line is dedented apart from the others.
-/

namespace DocTidy

open Text

/-- A docstring of several lines without its margin; lines are what newlines separate. -/
def dedentDocstring (docstring : Text) : Text :=
  if (splitLines docstring).length < 2 then dedent docstring
  else
    match docstring.splitOn '\n' with
    | [] => []
    | first :: rest => unlines (dedent first :: dedentBody rest)

/-- A docstring without its margin; lines are what any line boundary separates, and one empty
line at the end goes. -/
def dedentAfterFirst (docstring : Text) : Except Error Text :=
  match splitLines docstring with
  | [] => .error .noLine
  | first :: rest => .ok (unlines (dedent first :: splitLines (dedent (unlines rest))))

end DocTidy
