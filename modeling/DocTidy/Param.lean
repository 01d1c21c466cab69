import DocTidy.Text.Indent
import DocTidy.Text.Quoted
import DocTidy.Headed

/-!
# Parameters

An entry of a parameter-like section: a name, a type and lines of description.  Each entry begins
with a line at the margin, and the indented and blank lines below it describe it.
-/

namespace DocTidy

open Text

structure Param where
  name : Text
  type : Text
  desc : List Text
deriving Repr, DecidableEq

namespace Param

/-- A line begins an entry when it is not blank and stands at the margin. -/
def isHead : Text → Bool
  | [] => false
  | c :: _ => !isSpace c

/-- Each head with the lines below it; the very first line is a head whatever it looks like. -/
def entries : List Text → List (Text × List Text)
  | [] => []
  | line :: rest =>
    let (run, more) := headedRuns isHead rest
    (line, run) :: more

/-- The name and the type on the first line of an entry.  They are set apart by a colon between
spaces; a lone word is the name or, where `soleType` says so, the type. -/
def splitHead (soleType : Bool) (head : Text) : Text × Text :=
  match cutAt? " : " head with
  | some (name, type) => (name, type)
  | none =>
    let word := if endsWith head " :" then head.take (head.length - 2) else head
    if soleType then ([], word) else (word, [])

def ofEntry (soleType : Bool) (entry : Text × List Text) : Param :=
  let (name, type) := splitHead soleType (strip entry.1)
  ⟨strip name, strip type, (trimBlankLines (dedentBody entry.2)).map stripRight⟩

/-- The parameters that some lines describe. -/
def ofLines (soleType : Bool) (content : List Text) : List Param :=
  (entries (dedentBody content)).map (ofEntry soleType)

/-- How a parameter is shown in messages. -/
def shown (p : Param) : Text :=
  "Parameter(name=" ++ quoted p.name ++ ", type=" ++ quoted p.type ++ ", desc=" ++
    quotedList p.desc ++ ")"

end Param
end DocTidy
