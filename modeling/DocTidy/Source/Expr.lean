import DocTidy.Source.Rule
import DocTidy.Signature

/-!
# Expressions

What matters of an expression: not what it computes, but where it may stand.
-/

namespace DocTidy.Source

/-- An expression, by what it may be used as. -/
structure Expr where
  /-- It can be assigned to, perhaps together with others. -/
  isTarget : Bool := false
  /-- It can be deleted. -/
  isDeletable : Bool := false
  /-- It is a single place, which can be given a type or be changed. -/
  isPlace : Bool := false
  /-- It has a star in front. -/
  isStarred : Bool := false
  /-- It is a name. -/
  name? : Option Text := none
  /-- It is a plain string literal with that value. -/
  string? : Option Text := none
deriving Repr, DecidableEq

namespace Expr

/-- An expression that has a value and nothing else. -/
def value : Expr := {}

/-- A member or an item of something. -/
def part : Expr := { isTarget := true, isDeletable := true, isPlace := true }

def name (n : Text) : Expr := { part with name? := some n }

def string (v : Text) : Expr := { string? := some v }

/-- Expressions with commas between them, in brackets or not. -/
def sequence (items : List Expr) : Expr :=
  { isTarget := items.all (·.isTarget), isDeletable := items.all (·.isDeletable) }

def starred (e : Expr) : Expr := { isTarget := e.isTarget, isStarred := true }

/-- The type hint that an expression is. -/
def hint (e : Expr) : TypeHint :=
  match e.name? with
  | some n => .name n
  | none => .other

end Expr
end DocTidy.Source
