import DocTidy.Signature
import DocTidy.Run
import DocTidy.Source.Token

/-!
# The outline of a source file

A source file as a tree of statements, as far as it matters where functions and their docstrings
are: what a statement computes is left out.
-/

namespace DocTidy.Source

open Text

/-- A string that stands alone as a statement: its value, where the statement starts, and where it
ends, in characters before its end. -/
structure StringStatement where
  value : Text
  position : Position
  stop : Nat
deriving Repr, DecidableEq

inductive Statement where
  | function (name : Text) (signature : Signature) (body : List Statement)
  /-- An asynchronous function. -/
  | coroutine (body : List Statement)
  | classDef (name : Text) (body : List Statement)
  /-- A statement with other statements in it, in the order in which they stand. -/
  | compound (body : List Statement)
  | string (s : StringStatement)
  | other

/-- A function of a source file. -/
structure Function where
  /-- The names of the classes and functions around it, outermost first, and its own. -/
  path : List Text
  name : Text
  signature : Signature
  /-- The string that its body starts with. -/
  docstring? : Option StringStatement
deriving Repr, DecidableEq

/-- The dotted name of a path. -/
def dotted (path : List Text) : Text := ['.'].intercalate path

def Function.qualifiedName (f : Function) : Text := dotted f.path

/-- The string that a body starts with. -/
def docstringOf? : List Statement → Option StringStatement
  | .string s :: _ => some s
  | _ => none

/-- The dotted names that are passed over, or none where it is not known. -/
abbrev SkipList := Option (List (Option Text))

/-- The dotted name of the path is to be passed over. -/
def skips (skip : SkipList) (path : List Text) : Run Bool :=
  match skip with
  | none => Run.fail .noSkipList
  | some names =>
    if names.contains (some (dotted path)) then do
      Run.say ("SKIPPING " ++ dotted path)
      return true
    else pure false

mutual

/-- The functions of a statement, each before those inside it.  `path` names what is around it. -/
def Statement.functions (skip : SkipList) (path : List Text) : Statement → Run (List Function)
  | .function name signature body => do
    let path := path ++ [name]
    if ← skips skip path then return []
    else return ⟨path, name, signature, docstringOf? body⟩ :: (← functionsOf skip path body)
  | .classDef name body => do
    let path := path ++ [name]
    if ← skips skip path then return [] else functionsOf skip path body
  | .coroutine body => functionsOf skip path body
  | .compound body => functionsOf skip path body
  | .string _ => return []
  | .other => return []

/-- The functions of some statements, in the order in which they stand. -/
def functionsOf (skip : SkipList) (path : List Text) : List Statement → Run (List Function)
  | [] => return []
  | s :: rest => do
    let first ← s.functions skip path
    return first ++ (← functionsOf skip path rest)

end

end DocTidy.Source
