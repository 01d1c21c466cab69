import DocTidy.Document.Exchange
import DocTidy.Fixer
import DocTidy.Margin
import DocTidy.Printer

/-!
# Renewing a docstring

A docstring is read, its parameters are normalised and fixed, its sections are printed in the
order in which they stood, and the result is laid out in the frame of the old docstring: what
stands on the first and on the last line stays there.
-/

namespace DocTidy

open Text

/-- How docstrings are renewed. -/
structure Renewal where
  /-- Formats example code, if there is one. -/
  format? : Option CodeFormatter
  settings : Settings
  /-- The description of a link may exceed the width of a line. -/
  anyWidth : Bool

/-- A function whose docstring is renewed: where it is, and what it takes. -/
structure Subject where
  file : Text
  function : Text
  signature : Signature
deriving Repr, DecidableEq

/-- A renewed docstring. -/
structure Renewed where
  text : Text
  document : Document
  /-- There is a placeholder to fill in; none where the docstring was not read. -/
  hasPlaceholder : Option Bool
  /-- The docstring needs attention: it has changed, or does not match its function. -/
  needsWork : Bool

/-- What the frame of a docstring looks like. -/
structure Frame where
  /-- The first line holds text. -/
  startsAtOnce : Bool
  startsWithSpace : Bool
  /-- The last line is blank. -/
  endsBlank : Bool
  /-- The line before the last is blank. -/
  endsWithGap : Bool
deriving Repr, DecidableEq

namespace Frame

def ofDocstring (docstring : Text) : Frame :=
  let lines := splitLines docstring
  { startsAtOnce := !isBlank (lines.head?.getD [])
    startsWithSpace := startsWith docstring " "
    endsBlank := isBlank (lines.getLast?.getD [])
    endsWithGap := isBlank (lines.dropLast.getLast?.getD []) }

/-- Puts the text of the sections into the frame, indented by `level`. -/
def fill (frame : Frame) (level : Nat) (body : Text) : Text :=
  let margin := spaces level
  let indented := dropEndWhile (· == ' ') (indent margin body ++ margin)
  let closed := indented ++ (if frame.endsWithGap then '\n' :: margin else margin)
  let opened :=
    if frame.startsAtOnce then
      (if frame.startsWithSpace then [' '] else []) ++ stripLeft closed
    else '\n' :: closed
  if frame.endsBlank then opened else stripRight opened

end Frame

namespace Renewal

/-- Reads a docstring, and says where it is if that fails. -/
def readDocstring (r : Renewal) (subject : Subject) (docstring : Text) : Run Document :=
  let read := Document.read r.format? (dedentDocstring docstring)
  match read.result with
  | .ok d => ⟨read.notes, .ok d⟩
  | .error e => ⟨read.notes, .error (.reading subject.file subject.function e)⟩

/-- The parameters of a document compared with the signature: the document with them corrected,
and the verdict on them. -/
def fixParams (r : Renewal) (subject : Subject) (d : Document) :
    Run (Document × Bool × Bool) := do
  let name := Section.parameters.title
  match ← Run.ofExcept (d.get name) with
  | .params (p :: ps) =>
    let verdict ← Fixer.fix r.settings (subject.file ++ ":" ++ subject.function)
      subject.signature.names subject.signature (p :: ps)
    match verdict.mismatch with
    | none => Run.fail (.tooFewParts 3 2)
    | some mismatch =>
      return (d.store name (.params verdict.params), verdict.hasPlaceholder, mismatch)
  | _ => return (d, false, false)

/-- Prints a recorded section; an empty one prints as nothing. -/
def printRecorded (r : Renewal) (d : Document) (name : Text) : Run Text := do
  let c ← Run.ofExcept (d.get name)
  if c.isEmpty then return []
  else
    match Section.ofTitle? name with
    | some s => Printer.printSection r.settings r.anyWidth s c
    | none => Run.fail (.noPrinter name)

/-- The recorded sections of a document, printed one below the other. -/
def printDocument (r : Renewal) (d : Document) : Run Text := do
  let texts ← d.order.mapM (printRecorded r d)
  return ['\n'].intercalate (texts.filter fun t => !t.isEmpty)

/-- Renews a docstring.  One of a single line stays out of it: its new text is empty. -/
def renew (r : Renewal) (subject : Subject) (level : Nat) (docstring : Text) : Run Renewed :=
  if (splitLines docstring).length ≤ 1 then pure ⟨[], Document.empty, none, false⟩
  else do
    let d ← readDocstring r subject docstring
    let d ← if r.settings.runFixers then d.normalized else pure d
    let (d, hasPlaceholder, mismatch) ← fixParams r subject d
    let text := (Frame.ofDocstring docstring).fill level (← printDocument r d)
    if text.isEmpty then Run.fail .nothingLeft
    else return ⟨text, d, some hasPlaceholder, mismatch || text != docstring⟩

end Renewal
end DocTidy
