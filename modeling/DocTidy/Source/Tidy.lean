import DocTidy.Renewal
import DocTidy.Source.Parser

/-!
# Tidying a source file

The functions of a file are gone through in order; where the docstring of one has a new text, it
is put in the place of the old one wherever that stands in the file.
-/

namespace DocTidy.Source

open Text

/-- How a file is gone through. -/
structure Tidier where
  renewal : Renewal
  /-- Every docstring is renewed a second time, as a safeguard. -/
  checked : Bool
  /-- The first docstring that cannot be renewed stops the run. -/
  strict : Bool

/-- A file that has been gone through. -/
structure Tidied where
  text : Text
  /-- There is something to do about one of its docstrings. -/
  needsWork : Bool
deriving Repr, DecidableEq

/-- Text that could end a docstring cannot be put into one. -/
def hasTripleQuote (t : Text) : Bool := includes "\"\"\"" t || includes "'''" t

/-- Takes over the new text of a docstring. -/
def Tidied.accept (t : Tidied) (docstring : Text) (new : Renewed) : Tidied :=
  if !isBlank new.text && new.text != docstring then
    ⟨if hasTripleQuote new.text then t.text else replace docstring new.text t.text, true⟩
  else { t with needsWork := t.needsWork || new.needsWork }

namespace Tidier

/-- The error of two renewals of one docstring that come to different sections.  Its message is its
text, as that of a name that cannot be divided is. -/
def difference (file : Text) (f : Function) (first second : Document) : Error :=
  let shown (sections : List (Text × Content)) :=
    quotedEntries (sections.map fun (name, c) => (name, c.shown))
  .undividedName ("Numpydoc parsing seem to differ after reformatting, this may be a reformatting bug. " ++
    "Rerun with \x60velin --unsafe " ++ file ++ ":" ++ f.qualifiedName ++ "\x60\n" ++
    shown (second.differing first) ++ "\n" ++ shown (first.differing second))

/-- Renews the docstring of a function, and points to it if there is a placeholder to fill in.  A
checked docstring is renewed once more, and both renewals have to come to the same sections. -/
def renew (o : Tidier) (file : Text) (f : Function) (docstring : StringStatement) :
    Run Renewed := do
  let subject : Subject := ⟨file, f.name, f.signature⟩
  let level := docstring.position.column
  let new ← o.renewal.renew subject level docstring.value
  if new.hasPlaceholder == some true then
    Run.say ("mvim +" ++ ofNat docstring.position.line ++ " " ++ file)
    return new
  else if o.checked then
    let again ← o.renewal.renew subject level docstring.value
    if !Datum.sameEntries again.document.allSections new.document.allSections then
      Run.fail (difference file f new.document again.document)
    else return { new with needsWork := new.needsWork || again.needsWork }
  else return new

/-- What is said about a docstring that cannot be renewed. -/
def complaint (file : Text) (f : Function) (docstring : Text) : Note :=
  .said ("something went wrong with " ++ file ++ ":" ++ f.qualifiedName ++ " :\n\n" ++ docstring)

/-- Goes through one function. -/
def step (o : Tidier) (file : Text) (t : Tidied) (f : Function) : Run Tidied :=
  match f.docstring? with
  | none => pure t
  | some docstring =>
    let new := o.renew file f docstring
    match new.result with
    | .error e =>
      let notes := new.notes ++ [complaint file f docstring.value]
      if o.strict then ⟨notes, .error e⟩ else ⟨notes ++ [.failed e], .ok t⟩
    | .ok r =>
      let notes :=
        if isBlank docstring.value then [Note.said ("DOCSTRING IS EMPTY !!! " ++ f.name)] else []
      ⟨new.notes ++ notes, .ok (t.accept docstring.value r)⟩

/-- Goes through a file; the functions on the list are passed over. -/
def tidy (o : Tidier) (skip : SkipList) (file source : Text) : Run Tidied := do
  let statements ← Run.ofExcept (parse source)
  let functions ← functionsOf skip [] statements
  functions.foldlM (o.step file) ⟨source, false⟩

end Tidier
end DocTidy.Source
