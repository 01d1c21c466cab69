import DocTidy.Text.Indent
import DocTidy.Text.WordChar
import DocTidy.Run

/-!
# Links

An entry of a See Also section: one or several function names, each plain or with a role, and
lines of description.

    name
    name : description
        more description
    name, :role:`name`, name
-/

namespace DocTidy

open Text

/-- A function name, with the role it is marked up with, if any. -/
structure LinkName where
  name : Text
  role : Option Text
deriving Repr, DecidableEq

structure Link where
  names : List LinkName
  desc : List Text
deriving Repr, DecidableEq

namespace Link

/-- The characters of a function name: ASCII letters, digits, underscore, dot and hyphen. -/
def isNameChar (c : Char) : Bool := c.isAlphanum || c == '_' || c == '.' || c == '-'

/-- The longest run that satisfies `p`, which must not be empty, and what follows it. -/
def run? (p : Char → Bool) (t : Text) : Option (Text × Text) :=
  if (t.takeWhile p).isEmpty then none else some (t.takeWhile p, t.dropWhile p)

/-- A word up to its closing colon, put behind `front`. -/
def closedWord? (front t : Text) : Option (Text × Text) :=
  match run? isWord t with
  | some (word, ':' :: rest) => some (front ++ word, rest)
  | _ => none

/-- A role up to its closing colon: word characters, with `py:` in front or not. -/
def role? (t : Text) : Option (Text × Text) :=
  if startsWith t "py:" then (closedWord? "py:" (t.drop 3)).orElse fun _ => closedWord? [] t
  else closedWord? [] t

/-- The mark of a name whose first part is not to be shown: a tilde, a word and a dot. -/
def shortening (t : Text) : Text × Text :=
  match t with
  | '~' :: r =>
    match run? isWord r with
    | some (word, '.' :: rest) => ('~' :: word ++ ['.'], rest)
    | _ => ([], t)
  | _ => ([], t)

/-- A name between backticks. -/
def tickedName? (t : Text) : Option (Text × Text) :=
  match t with
  | '\x60' :: r =>
    let (mark, r) := shortening r
    match run? isNameChar r with
    | some (name, '\x60' :: rest) => some (mark ++ name, rest)
    | _ => none
  | _ => none

/-- One function name, plain or with a role, and what follows it. -/
def name? (t : Text) : Option (LinkName × Text) :=
  match t with
  | ':' :: r => do
    let (role, r) ← role? r
    let (name, rest) ← tickedName? r
    return (⟨name, some role⟩, rest)
  | _ => do
    let (name, rest) ← run? isNameChar t
    return (⟨name, none⟩, rest)

/-- The further names of a list: each follows a comma and white space.  `fuel` bounds their
number; the length of the text is enough. -/
def moreNames : Nat → Text → List LinkName × Text
  | 0, t => ([], t)
  | fuel + 1, t =>
    match t with
    | ',' :: c :: r =>
      if isSpace c then
        match name? (stripLeft r) with
        | some (n, rest) =>
          let (ns, rest) := moreNames fuel rest
          (n :: ns, rest)
        | none => ([], t)
      else ([], t)
    | _ => ([], t)

/-- A line that lists functions. -/
structure Line where
  names : List LinkName
  description : Option Text
  /-- The place behind a comma or period that ends the names, if there is one. -/
  trailing : Option Nat
deriving Repr, DecidableEq

/-- The description behind the names: a colon and, after white space, the text.  It is none where
nothing follows, and the whole fails where something else does. -/
def description? (t : Text) : Option (Option Text) :=
  match stripLeft t with
  | [] => some none
  | ':' :: r =>
    match stripLeft r with
    | [] => some none
    | desc => if desc.length < r.length then some (some desc) else none
  | _ => none

/-- Reads a line that lists functions. -/
def line? (line : Text) : Option Line := do
  let (first, rest) ← name? (stripLeft line)
  let (more, rest) := moreNames rest.length rest
  match rest with
  | ',' :: r | '.' :: r =>
    let description ← description? r
    return ⟨first :: more, description, some (line.length - r.length)⟩
  | _ =>
    let description ← description? rest
    return ⟨first :: more, description, none⟩

/-- Adds a line of description to the last link; before the first link it is lost. -/
def describeLast (links : List Link) (line : Text) : List Link :=
  match links.getLast? with
  | none => []
  | some last => links.dropLast ++ [{ last with desc := last.desc ++ [line] }]

/-- Takes up what was found in a line.  An indented line without a description of its own continues
the description of the last link. -/
def addFound (links : List Link) (line : Text) (found : Option Line) : Run (List Link) :=
  let description := found.bind (·.description)
  if description.isNone && startsWith line " " then pure (describeLast links (strip line))
  else
    match found with
    | some l => pure (links ++ [⟨l.names, description.toList⟩])
    | none => Run.fail (.badLink line)

/-- Reads one more line. -/
def addLine (links : List Link) (line : Text) : Run (List Link) := do
  if isBlank line then return links
  let found := line? line
  match found.bind (·.trailing), found.bind (·.description) with
  | some place, some _ =>
    Run.warn ("Unexpected comma or period after function list at index " ++ ofNat place ++
      " of line \"" ++ line ++ "\"")
  | _, _ => pure ()
  addFound links line found

/-- The links that some lines list. -/
def ofLines (content : List Text) : Run (List Link) := (dedentBody content).foldlM addLine []

end Link
end DocTidy
