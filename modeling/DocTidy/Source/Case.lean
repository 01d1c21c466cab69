import DocTidy.Source.Expression

/-!
# Case patterns

The patterns of a match statement: literals, names, members, sequences, mappings and classes, with
alternatives between them and names for what they match.
-/

namespace DocTidy.Source

open Rule

namespace Case

/-! ## Literals and names -/

/-- The number is imaginary. -/
def isImaginary (t : Token) : Bool := t.text.getLast?.any fun c => c = 'j' || c = 'J'

/-- A number with or without a sign, or a real number and an imaginary one. -/
def signedNumber : Rule Unit := do
  let _ ← accept "-"
  let first ← next (·.kind == .number)
  if ← accepts fun t => t.is "+" || t.is "-" then
    let second ← next (·.kind == .number)
    require (!isImaginary first && isImaginary second)

/-- A literal in a pattern. -/
def literal (g : Grammar) : Rule Unit := do
  if ← sees (·.isLiteral) then
    let _ ← g.literals
  else if !(← accepts (·.isAnyOf constants)) then signedNumber

/-- The word that matches anything and names nothing. -/
def wildcard : Text := "_"

/-- A name for what is matched. -/
def capture : Rule Unit := do
  let _ ← next fun t => t.isIdentifier && t.text != wildcard
  require !(← sees fun t => t.isAnyOf [".", "(", "="])

/-- A name with members of it behind dots; says whether there are any. -/
def dotted : Rule Bool := do
  let _ ← identifier
  let members ← many do expect "."; identifier
  return !members.isEmpty

/-! ## Patterns with others in them -/

/-- Alternatives, perhaps with a name for what is matched. -/
def alternatives (closed : Rule Unit) : Rule Unit := do
  closed
  let _ ← many do expect "|"; closed
  if ← accept "as" then capture

/-- A member of a sequence; says whether it has a star and so takes any number of things. -/
def member (pattern : Rule Unit) : Rule Bool := do
  if ← accept "*" then
    if !(← accept wildcard) then capture
    return true
  else
    pattern
    return false

/-- Patterns with commas between them, or a single one without a star. -/
def sequence (pattern : Rule Unit) : Rule Unit := do
  let list ← listed (member pattern)
  require (list.hasComma || list.items == [false])

/-- A key with the pattern for its value, or the rest of the mapping; says which. -/
def entry (g : Grammar) (pattern : Rule Unit) : Rule Bool := do
  if ← accept "**" then
    capture
    return true
  else
    if ← sees (·.isIdentifier) then require (← dotted) else literal g
    expect ":"
    pattern
    return false

/-- What stands behind the brace of a mapping: the rest comes last. -/
def inBraces (g : Grammar) (pattern : Rule Unit) : Rule Unit := do
  if !(← accept "\x7d") then
    let list ← listed (entry g pattern)
    require !list.items.dropLast.contains true
    expect "\x7d"

/-- A pattern in a class; says whether it is for a member of a given name. -/
def field (pattern : Rule Unit) : Rule Bool := do
  let isNamed ← seesTwo (·.isIdentifier) (·.is "=")
  if isNamed then
    let _ ← identifier
    expect "="
  pattern
  return isNamed

/-- What stands behind the parenthesis of a class: the members with names come last. -/
def inClass (pattern : Rule Unit) : Rule Unit := do
  if !(← accept ")") then
    let list ← listed (field pattern)
    require (decide (list.items.Pairwise fun earlier later => earlier = true → later = true))
    expect ")"

/-- A pattern without alternatives. -/
def closed (g : Grammar) (pattern : Rule Unit) : Rule Unit := do
  if ← accept wildcard then return
  else if ← sees (·.isIdentifier) then
    let _ ← dotted
    if ← accept "(" then inClass pattern
  else if ← accept "(" then
    if !(← accept ")") then
      sequence pattern
      expect ")"
  else if ← accept "[" then
    if !(← accept "]") then
      let _ ← listed (member pattern)
      expect "]"
  else if ← accept "\x7b" then inBraces g pattern
  else literal g

/-- A pattern that is nested at most that deep. -/
def nested (g : Grammar) : Nat → Rule Unit
  | 0 => failure
  | depth + 1 => fun ts => alternatives (closed g (nested g depth)) ts

/-- The pattern of a case, and its condition. -/
def header (g : Grammar) : Rule Unit := do
  sequence (nested g ((← get).length + 1))
  if ← accept "if" then
    let _ ← g.named

end Case
end DocTidy.Source
