import DocTidy.Source.Lexer

/-!
# Rules

A rule reads something from the beginning of a run of tokens, and leaves the tokens behind it.
Where a rule fails, another can be tried on the same tokens.
-/

namespace DocTidy.Source

open Text

/-- A way to read something from the beginning of a run of tokens. -/
abbrev Rule (α : Type) := StateT (List Token) Option α

namespace Rule

/-- The next token satisfies `p`. -/
def sees (p : Token → Bool) : Rule Bool := return (← get).head?.any p

/-- The next two tokens satisfy `p` and `q`. -/
def seesTwo (p q : Token → Bool) : Rule Bool := do
  match ← get with
  | a :: b :: _ => return p a && q b
  | _ => return false

/-- The next token, if it satisfies `p`. -/
def next (p : Token → Bool) : Rule Token := do
  match ← get with
  | t :: rest =>
    if p t then
      set rest
      return t
    else failure
  | [] => failure

/-- The next token, which has to be this word. -/
def expect (word : Text) : Rule Unit := do let _ ← next (·.is word)

/-- Passes over the next token if it satisfies `p`. -/
def accepts (p : Token → Bool) : Rule Bool := do
  if ← sees p then
    let _ ← next p
    return true
  else return false

/-- Passes over the next token if it is this word. -/
def accept (word : Text) : Rule Bool := accepts (·.is word)

/-- A name that is no keyword. -/
def identifier : Rule Token := next (·.isIdentifier)

/-- Fails unless the condition holds. -/
def require (condition : Bool) : Rule Unit := if condition then pure () else failure

def atEnd : Rule Unit := do require (← get).isEmpty

/-- As many things in a row as there are, at most as many as there are tokens in `bound`. -/
def manyWithin (item : Rule α) : List Token → Rule (List α)
  | [] => pure []
  | _ :: bound => (do
      let first ← item
      let more ← manyWithin item bound
      return first :: more) <|> pure []

/-- As many things in a row as there are.  Each takes a token, so their number is no larger than
that of the tokens. -/
def many (item : Rule α) : Rule (List α) := do manyWithin item (← get)

/-- One thing or several in a row. -/
def oneOrMore (item : Rule α) : Rule (List α) := do return (← item) :: (← many item)

/-- One thing or several with commas between them. -/
def separated (item : Rule α) : Rule (List α) := do
  return (← item) :: (← many (do expect ","; item))

/-- Things with commas between them and perhaps one behind the last. -/
structure Listed (α : Type) where
  items : List α
  isEnded : Bool

/-- The things are more than a single one without a comma. -/
def Listed.hasComma (l : Listed α) : Bool := l.isEnded || 1 < l.items.length

/-- One thing or several with commas between them and perhaps one behind the last. -/
def listed (item : Rule α) : Rule (Listed α) := do return ⟨← separated item, ← accept ","⟩

/-- What a rule reads if it takes all tokens. -/
def readAll? (rule : Rule α) (tokens : List Token) : Option α :=
  match rule tokens with
  | some (a, []) => some a
  | _ => none

end Rule
end DocTidy.Source
