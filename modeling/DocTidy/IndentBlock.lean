import DocTidy.Error

/-!
# Indented blocks

Lines grouped by their indentation.  A block at the margin ends where an indented line begins; an
indented block goes on as long as its lines are indented at least as deeply; a line at the margin
after a blank line starts a block of its own.
-/

namespace DocTidy

open Text

/-- Input that may have been split into lines or not. -/
inductive Passage where
  | whole (text : Text)
  | lines (ls : List Text)

/-- The indentation of a line, or none for a blank line. -/
def indentOf (line : Text) : Except Error (Option Nat) :=
  let indent := line.takeWhile isSpace
  if indent.length = line.length then .ok none
  else if indent.contains '\t' then .error .tabInIndent
  else .ok (some indent.length)

def indentsOf (ls : List Text) : Except Error (List (Option Nat)) := ls.mapM indentOf

/-- The indentations of the lines of a passage that has been split. -/
def Passage.indents : Passage → Except Error (List (Option Nat))
  | .whole _ => .error .notLines
  | .lines ls => indentsOf ls

/-- Lines of one indentation, which is cut off their front. -/
structure IndentBlock where
  indent : Nat
  lines : List Text
deriving Repr, DecidableEq

namespace IndentBlock

/-- The blocks of the lines that follow, when a block is begun and `blanks` blank lines have been
met since its last line.  Blank lines at the very end belong to no block. -/
def gather (begun : IndentBlock) (blanks : Nat) : List (Option Nat × Text) → List IndentBlock
  | [] => [begun]
  | (none, _) :: rest => gather begun (blanks + 1) rest
  | (some level, line) :: rest =>
    let full := { begun with lines := begun.lines ++ List.replicate blanks [] }
    if 0 < blanks ∧ level = 0 then full :: gather ⟨0, [line]⟩ 0 rest
    else if begun.indent = 0 ∧ 0 < level then full :: gather ⟨level, [line.drop level]⟩ 0 rest
    else if begun.indent ≤ level then
      gather { full with lines := full.lines ++ [line.drop begun.indent] } 0 rest
    else full :: gather ⟨level, [line]⟩ 0 rest

/-- The blocks of some lines; the first line stands at the margin or is blank. -/
def ofLines (ls : List Text) : Except Error (List IndentBlock) := do
  let indents ← indentsOf ls
  match indents.zip ls with
  | [] => .error .noLine
  | (level, line) :: rest =>
    if level.getD 0 = 0 then .ok (gather ⟨0, [line]⟩ 0 rest) else .error .indentedStart

/-- The blocks of a passage that has been split into lines. -/
def ofPassage : Passage → Except Error (List IndentBlock)
  | .whole _ => .error .unsplitText
  | .lines ls => ofLines ls

end IndentBlock
end DocTidy
