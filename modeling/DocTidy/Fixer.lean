import DocTidy.Signature
import DocTidy.Settings
import DocTidy.Param
import DocTidy.Run

/-!
# Fixing parameters

The documented parameters of a function are compared with its signature.  A parameter that lost
its stars, is quoted, or is the only one misnamed gets its name corrected; undocumented ones get
placeholders; those that the function does not take are removed.  What cannot be corrected is
reported.
-/

namespace DocTidy.Fixer

open Text

/-- The outcome: the parameters, whether one of them is still a placeholder, and whether names
are left that do not match (none where the fixers did not run). -/
structure Verdict where
  params : List Param
  hasPlaceholder : Bool
  mismatch : Option Bool
deriving Repr, DecidableEq

/-- The parameters, with the names that the signature has and the documentation lacks, and those
that only the documentation has.  Both are sets: a name is listed once, and that it is listed where
the signature, or the documentation, first has it is a choice.  The order of several placeholders,
and which of several candidates is tried first, follow that choice; what names can be matched does
not. -/
structure Comparison where
  params : List Param
  missing : List Text
  extra : List Text
deriving Repr, DecidableEq

/-- The names that parameters document; one entry may name several, with commas in between. -/
def documented (ps : List Param) : List Text :=
  ps.flatMap fun p => if p.name.isEmpty then [] else (p.name.splitOn ',').map strip

/-- The names of a signature without the leading one that a method has. -/
def withoutReceiver : List Text → List Text
  | [] => []
  | n :: ns => if n == "self" || n == "cls" then ns else n :: ns

/-- Names of templates are filled in later and match anything. -/
def isTemplate (name : Text) : Bool := name.contains '$' || name.contains '%'

def isStarred (name : Text) : Bool := name.contains '*'

/-- The names on one side only, each once. -/
def namesMissing (names : List Text) (ps : List Param) : List Text :=
  names.eraseDups.filter fun n => !(documented ps).contains n && n != "cls"

def namesExtra (names : List Text) (ps : List Param) : List Text :=
  (documented ps).eraseDups.filter fun n => !names.contains n && !startsWith n "*" && n != "cls"

/-- Gives the first parameter of a name another name, if there is one. -/
def rename? (source target : Text) : List Param → Option (List Param)
  | [] => none
  | p :: ps =>
    if p.name = source then some ({ p with name := target } :: ps)
    else (rename? source target ps).map (p :: ·)

namespace Comparison

/-- Renames a parameter as far as there is one, and counts both names as matched. -/
def matchUp (c : Comparison) (source target : Text) : Comparison :=
  ⟨(rename? source target c.params).getD c.params, c.missing.erase target, c.extra.erase source⟩

/-- Puts back the stars that an extra name lacks to be a missing one. -/
def restoreStars (c : Comparison) (stars : Text) : Comparison :=
  match c.missing.find? fun m => c.extra.any fun n => stars ++ n == m with
  | some target => c.matchUp (target.drop stars.length) target
  | none => c

def isQuote (c : Char) : Bool := c == '"' || c == '\''

/-- The name between two quotes. -/
def unquoted? (name : Text) : Option Text :=
  if (name.head?.map isQuote).getD false && (name.getLast?.map isQuote).getD false then
    some (name.drop 1).dropLast
  else none

/-- Takes the quotes off an extra name if that makes it a missing one. -/
def unquote (c : Comparison) (name : Text) : Run Comparison :=
  match unquoted? name with
  | some bare =>
    if c.missing.contains bare then do
      Run.say ("unquote " ++ name ++ " to " ++ bare)
      return c.matchUp name bare
    else pure c
  | none => pure c

/-- The one extra name may be the one missing name misspelt.  A starred name is not, unless the
stars are all that differs. -/
def mayRename (source target : Text) : Bool :=
  !isStarred target || isStarred source || target.filter (· != '*') == source

/-- Renames the one extra parameter to the one missing name. -/
def renameLast (place : Text) (c : Comparison) : Run Comparison :=
  match c.missing, c.extra with
  | [target], [source] =>
    if mayRename source target then
      match rename? source target c.params with
      | some ps => do
        Run.say place
        Run.say ("    renamed " ++ quoted source ++ " to " ++ quoted target)
        return ⟨ps, [], []⟩
      | none => do
        Run.say ("  could not fix: " ++ quotedSet c.missing ++ " " ++ quotedSet c.extra)
        return c
    else pure c
  | _, _ => pure c

/-- Matches missing names with extra ones. -/
def pair (place : Text) (c : Comparison) : Run Comparison :=
  if c.missing.isEmpty || c.extra.isEmpty then pure c
  else do
    let c := (c.restoreStars "*").restoreStars "**"
    let c ← c.extra.foldlM unquote c
    c.renameLast place

end Comparison

/-- The parameter that stands for an undocumented argument. -/
def placeholder (sig : Signature) (name : Text) : Run Param :=
  match sig.args.filter fun a => a.name == name with
  | [a] =>
    let type := match a.hint with | .name id => id | _ => "<Insert Type here>"
    pure ⟨name, type, ["<Multiline Description Here>"]⟩
  | _ => Run.fail (.notOneArgument name)

/-- The parameter is more likely a stray piece of text. -/
def isStrayText (p : Param) : Bool := p.name.contains ' ' && p.type.isEmpty && p.desc.isEmpty

def addPlaceholders (sig : Signature) (c : Comparison) : Run (List Param) := do
  let added ← (c.missing.filter fun n => !isStarred n).mapM (placeholder sig)
  return c.params ++ added

def removeExtra (place : Text) (c : Comparison) : Run (List Param) := do
  Run.say place
  let doomed := c.params.filter fun p => c.extra.contains p.name && !isStrayText p
  doomed.forM fun p => Run.say ("    removing parameters " ++ p.shown)
  return doomed.foldl (fun ps p => ps.erase p) c.params

def reportMismatch (place : Text) (c : Comparison) : Run Unit := do
  Run.say place
  if !c.missing.isEmpty then Run.say ("  missing: " ++ quotedSet c.missing)
  if !c.extra.isEmpty then Run.say ("  extra: " ++ quotedSet c.extra)

/-- Deals with the names that are left: missing ones only, extra ones only, or both.  The result
says whether they are reported as a mismatch. -/
def settle (settings : Settings) (place : Text) (sig : Signature) (c : Comparison) :
    Run (List Param × Bool) := do
  let fill ←
    if !c.missing.isEmpty && c.extra.isEmpty then
      match settings.withPlaceholder with
      | some b => pure b
      | none => Run.fail (.noSetting "with_placeholder")
    else pure false
  if fill then return (← addPlaceholders sig c, false)
  else if c.missing.isEmpty && !c.extra.isEmpty && sig.varkwargs.isNone then
    return (← removeExtra place c, false)
  else if !c.missing.isEmpty || !c.extra.isEmpty then do
    reportMismatch place c
    return (c.params, true)
  else return (c.params, false)

/-- Compares parameters with the names of a signature and corrects them.  `place` names the
function in messages. -/
def fix (settings : Settings) (place : Text) (names : List Text) (sig : Signature)
    (ps : List Param) : Run Verdict :=
  if !settings.runFixers then pure ⟨ps, false, none⟩
  else do
    let names := withoutReceiver names
    let extra := namesExtra names ps
    if extra == [[]] then Run.fail .emptyName
    let c ← Comparison.pair place
      ⟨ps, namesMissing names ps, extra.filter fun n => !isTemplate n⟩
    let (fixed, mismatch) ← settle settings place sig c
    return ⟨fixed, ps.any fun p => startsWith p.type "<", some mismatch⟩

end DocTidy.Fixer
