import DocTidy.Text.Basic

/-!
# Signatures

What a function's header says about its arguments.
-/

namespace DocTidy

/-- What stands behind the colon of an argument. -/
inductive TypeHint where
  | absent
  /-- A single name. -/
  | name (id : Text)
  /-- Any other expression. -/
  | other
deriving Repr, DecidableEq

structure Argument where
  name : Text
  hint : TypeHint
deriving Repr, DecidableEq

/-- The arguments of a function: the single ones in order, those that take further positional
arguments, and those that take further keywords. -/
structure Signature where
  args : List Argument
  varargs : Option Text
  varkwargs : Option Text
deriving Repr, DecidableEq

/-- The names as documentation writes them, with their stars. -/
def Signature.names (s : Signature) : List Text :=
  s.args.map (·.name) ++ (s.varargs.map fun n => '*' :: n).toList ++
    (s.varkwargs.map fun n => '*' :: '*' :: n).toList

end DocTidy
