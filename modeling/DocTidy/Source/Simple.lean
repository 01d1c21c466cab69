import DocTidy.Source.Case
import DocTidy.Source.Outline

/-!
# Simple statements

Statements without others in them: expressions, assignments, imports and the statements that a
single word begins.
-/

namespace DocTidy.Source

open Rule

namespace Simple

/-- Something, if it is there. -/
def optional (item : Rule α) : Rule Unit := (do let _ ← item) <|> pure ()

/-- An expression, and perhaps another one behind the word. -/
def oneOrTwo (g : Grammar) (word : Text) : Rule Unit := do
  let _ ← g.expression
  if ← accept word then
    let _ ← g.expression

/-- A name in an import, with its members or without, and perhaps another name for it. -/
def imported (name : Rule Unit) : Rule Unit := do
  name
  if ← accept "as" then
    let _ ← identifier

def plainName : Rule Unit := do let _ ← identifier

def dottedName : Rule Unit := do let _ ← Case.dotted

/-- What follows the word `from`: a module, perhaps with dots in front, and names of it. -/
def fromImport : Rule Unit := do
  let dots ← many (next fun t => t.is "." || t.is "...")
  if dots.isEmpty || !(← sees (·.is "import")) then dottedName
  expect "import"
  if ← accept "(" then
    let _ ← listed (imported plainName)
    expect ")"
  else if !(← accept "*") then
    let _ ← separated (imported plainName)

/-- Expressions, or a yield. -/
def assigned (g : Grammar) : Rule Expr := do
  if ← sees (·.is "yield") then
    g.yield
    return .value
  else g.expressions

/-- The operators that change a place. -/
def changeWords : List Text :=
  List.map String.toList
    ["+=", "-=", "*=", "/=", "%=", "&=", "|=", "^=", "@=", "**=", "//=", ">>=", "<<="]

/-- The values behind the equals signs of an assignment; all but the last are assigned to. -/
def assignments (g : Grammar) (first : Expr) : Rule Unit := do
  let more ← many do expect "="; assigned g
  require ((first :: more).dropLast.all (·.isTarget))

/-- The tokens start with a place in parentheses that is not all of them. -/
def startsWithPlace (g : Grammar) (tokens behind : List Token) : Bool :=
  tokens.head?.any (·.is "(") &&
    match g.atom tokens with
    | some (e, rest) => e.isPlace && rest.length != behind.length
    | none => false

/-- An expression or an assignment.  A type cannot be given to a part of a place in parentheses. -/
def expressionOrAssignment (g : Grammar) : Rule Statement := do
  let before ← get
  let e ← g.expressions
  let behind ← get
  if ← accept ":" then
    require (e.isPlace && !startsWithPlace g before behind)
    let _ ← g.expression
    if ← accept "=" then
      let _ ← assigned g
    return .other
  else if ← accepts (·.isAnyOf changeWords) then
    require e.isPlace
    let _ ← assigned g
    return .other
  else if ← sees (·.is "=") then
    assignments g e
    return .other
  else
    let tokens := before.take (before.length - behind.length)
    match e.string?, tokens.head?, tokens.getLast? with
    | some value, some first, some last => return .string ⟨value, first.position, last.stop⟩
    | _, _, _ => return .other

/-- The statement that a word begins. -/
def ofWord (g : Grammar) (word : Token) : Rule Unit := do
  if word.is "return" then optional g.expressions
  else if word.is "raise" then optional (oneOrTwo g "from")
  else if word.is "assert" then oneOrTwo g ","
  else if word.is "del" then
    let list ← listed g.primary
    require (list.items.all (·.isDeletable))
  else if word.is "import" then
    let _ ← separated (imported dottedName)
  else if word.is "from" then fromImport
  else if word.is "global" || word.is "nonlocal" then
    let _ ← separated plainName
  else require (word.isAnyOf ["pass", "break", "continue"])

/-- The words that begin a statement of their own. -/
def words : List Text :=
  List.map String.toList
    ["return", "raise", "assert", "del", "import", "from", "global", "nonlocal", "pass", "break",
     "continue"]

/-- A simple statement. -/
def statement (g : Grammar) : Rule Statement := do
  if ← sees (·.isAnyOf words) then
    ofWord g (← next fun _ => true)
    return .other
  else if ← sees (·.is "yield") then
    g.yield
    return .other
  else expressionOrAssignment g

/-- The statements of one line, with semicolons in between and perhaps one at the end. -/
def line (g : Grammar) : Rule (List Statement) := do
  let first ← statement g
  let more ← many do expect ";"; statement g
  let _ ← accept ";"
  return first :: more

end Simple
end DocTidy.Source
