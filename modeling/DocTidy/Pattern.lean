import DocTidy.Error

/-!
# Patterns

`SkipPattern` names the files, and the objects in them, that are passed over.  What its pattern
means is left to a `Matcher`.  `Pattern` is the one for patterns of characters, of which each may be
repeated: a dot stands for any character but a newline, a star behind a character repeats it, and
every other character stands for itself.
-/

namespace DocTidy

open Text

/-- Decides whether a name starts with what a pattern describes, or refuses the pattern. -/
abbrev Matcher := (pattern name : Text) → Except Error Bool

/-- What one character of a text is compared with. -/
inductive Atom where
  | any
  | char (c : Char)
deriving Repr, DecidableEq

def Atom.accepts : Atom → Char → Bool
  | any, c => c != '\n'
  | char d, c => c == d

/-- A part of a pattern: an atom, once or any number of times. -/
structure PatternPart where
  atom : Atom
  repeated : Bool
deriving Repr, DecidableEq

abbrev Pattern := List PatternPart

namespace Pattern

def atomOf (c : Char) : Atom := if c = '.' then .any else .char c

/-- The pattern that a text stands for, unless a star has nothing to repeat. -/
def ofText? : Text → Option Pattern
  | [] => some []
  | '*' :: _ => none
  | c :: '*' :: r => (ofText? r).map (⟨atomOf c, true⟩ :: ·)
  | c :: r => (ofText? r).map (⟨atomOf c, false⟩ :: ·)

/-- What can be left of a text after some characters that an atom accepts. -/
def restsAfter (a : Atom) : Text → List Text
  | [] => [[]]
  | c :: r => (c :: r) :: (if a.accepts c then restsAfter a r else [])

/-- The text starts with what the pattern describes. -/
def startsWith : Pattern → Text → Bool
  | [], _ => true
  | part :: more, t =>
    if part.repeated then (restsAfter part.atom t).any (startsWith more)
    else
      match t with
      | [] => false
      | c :: r => part.atom.accepts c && startsWith more r

/-- Takes a text for such a pattern. -/
def matcher : Matcher := fun pattern name =>
  match ofText? pattern with
  | some p => .ok (p.startsWith name)
  | none => .error .badPattern

end Pattern

/-- What is passed over: the files that a pattern describes, or an object in them. -/
structure SkipPattern where
  file : Text
  object? : Option Text
deriving Repr, DecidableEq

namespace SkipPattern

/-- A colon divides the files from the object. -/
def ofText (t : Text) : Except Error SkipPattern :=
  match t.splitOn ':' with
  | [file, object] => .ok ⟨file, some object⟩
  | _ :: _ :: _ => .error (.tooManyParts 2)
  | _ => .ok ⟨t, none⟩

/-- A text without a star may stand anywhere in the name of a file. -/
def pattern (p : SkipPattern) : Text :=
  if p.file.contains '*' then p.file else ".*" ++ p.file ++ ".*"

def shown (p : SkipPattern) : Text := "<SkipPattern " ++ p.pattern ++ ">"

/-- The whole file is passed over.  The first pattern that says so decides. -/
def skipsFile (matcher : Matcher) (name : Text) : List SkipPattern → Except Error Bool
  | [] => .ok false
  | p :: rest => do
    if (← matcher p.pattern name) && p.object?.isNone then return true
    else skipsFile matcher name rest

/-- The objects in the file that are passed over. -/
def objectsIn (matcher : Matcher) (name : Text) (patterns : List SkipPattern) :
    Except Error (List (Option Text)) := do
  let described ← patterns.filterM fun p => matcher p.pattern name
  return described.map (·.object?)

end SkipPattern
end DocTidy
