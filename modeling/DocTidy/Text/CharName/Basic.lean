import DocTidy.Text.Basic

/-!
# Runs of names

Characters that stand side by side often have names that begin alike.
-/

namespace DocTidy.Text.CharName

/-- The names of neighbouring characters. -/
structure NameRun where
  /-- The code point of the first character. -/
  first : Nat
  /-- What all the names begin with. -/
  head : String
  /-- What the names end with, in the order of the characters and with commas in between. -/
  tails : List String

/-- The character of the run that has the name. -/
def NameRun.find? (r : NameRun) (name : Text) : Option Char :=
  if startsWith name r.head then
    let tails := r.tails.flatMap fun t => t.toList.splitOn ','
    (tails.idxOf? (name.drop r.head.length)).map fun i => Char.ofNat (r.first + i)
  else none

end DocTidy.Text.CharName
