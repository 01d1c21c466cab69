import DocTidy.Source.Expr

/-!
# Parameters

The parameters in the header of a function or of a lambda.  Those before a slash and those behind
a star are given in one way only; the order of the parts is checked while they are read.
-/

namespace DocTidy.Source

open Rule

/-- A part of a list of parameters. -/
inductive ParameterPart where
  | single (name : Text) (hint : TypeHint) (hasDefault : Bool)
  | slash
  /-- A star, with the name of what takes further arguments or alone. -/
  | star (name? : Option Text)
  /-- Two stars, with the name of what takes further keywords. -/
  | stars (name : Text)
deriving Repr, DecidableEq

namespace ParameterPart

/-- The type hint behind a name, if there is one. -/
def hint (expression : Rule Expr) (hinted : Bool) : Rule TypeHint := do
  if !hinted then return .absent
  else if ← accept ":" then return (← expression).hint
  else return .absent

/-- A part of a list of parameters.  `starHint` reads the hint of further arguments, and `hinted`
says whether there can be hints at all. -/
def read (expression starHint : Rule Expr) (hinted : Bool) : Rule ParameterPart := do
  if ← accept "/" then return slash
  else if ← accept "**" then
    let name ← identifier
    let _ ← hint expression hinted
    return stars name.name
  else if ← accept "*" then
    if ← sees (·.isIdentifier) then
      let name ← identifier
      let _ ← hint starHint hinted
      return star (some name.name)
    else return star none
  else
    let name ← identifier
    let hint ← hint expression hinted
    if ← accept "=" then
      let _ ← expression
      return single name.name hint true
    else return single name.name hint false

end ParameterPart

/-- What is known of a signature when some of its parts have been read. -/
structure SignatureReading where
  signature : Signature
  hasSlash : Bool
  hasStar : Bool
  /-- The last part was a lone star, so a name has to follow. -/
  needsName : Bool
  /-- A parameter that can be given by its place has a default. -/
  hasDefault : Bool

namespace SignatureReading

def start : SignatureReading := ⟨⟨[], none, none⟩, false, false, false, false⟩

/-- Takes the next part, if it may come here.  Nothing comes behind two stars. -/
def add? (r : SignatureReading) (part : ParameterPart) : Option SignatureReading :=
  let s := r.signature
  if s.varkwargs.isSome then none
  else
    match part with
    | .single name hint hasDefault =>
      if !r.hasStar && r.hasDefault && !hasDefault then none
      else
        some { r with
          signature := { s with args := s.args ++ [⟨name, hint⟩] }
          needsName := false
          hasDefault := r.hasDefault || (hasDefault && !r.hasStar) }
    | .slash =>
      if r.hasSlash || r.hasStar || s.args.isEmpty then none else some { r with hasSlash := true }
    | .star name? =>
      if r.hasStar then none
      else
        some { r with
          signature := { s with varargs := name? }, hasStar := true, needsName := name?.isNone }
    | .stars name =>
      if r.needsName then none else some { r with signature := { s with varkwargs := some name } }

/-- The signature that the parts make up. -/
def ofParts? (parts : List ParameterPart) : Option Signature := do
  let r ← parts.foldlM add? start
  if r.needsName then none else some r.signature

end SignatureReading

/-- A list of parameters, up to the word that ends it. -/
def parameters (expression starHint : Rule Expr) (hinted : Bool) (stop : Text) :
    Rule Signature := do
  if ← accept stop then return ⟨[], none, none⟩
  else
    let parts ← listed (ParameterPart.read expression starHint hinted)
    expect stop
    SignatureReading.ofParts? parts.items

end DocTidy.Source
