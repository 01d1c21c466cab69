import DocTidy.Document.Reader

/-!
# Exchanging documents

A document as data and back.  Data leaves out what is empty, so reading it back fills in the
sections that are missing.
-/

namespace DocTidy.Document

open Text

/-- The document of an empty docstring: both summaries are recorded, with no lines. -/
def empty : Document :=
  { (blank.store Section.summary.title (.lines [])) with
    order := [Section.summary.title, Section.extendedSummary.title] }

/-- The sections that are not empty, as data. -/
def filledSections (d : Document) : List (Text × Datum) :=
  (d.sections.filter fun (_, c) => !c.isEmpty).map fun (name, c) => (name, c.toDatum)

/-- All sections, as data. -/
def allSections (d : Document) : List (Text × Datum) :=
  d.sections.map fun (name, c) => (name, c.toDatum)

/-- The sections of a document whose contents another document does not have. -/
def differing (d other : Document) : List (Text × Content) :=
  d.sections.filter fun (name, c) =>
    !((other.get? name).any fun c' => c.toDatum.same c'.toDatum)

/-- The attribute names of a document as data. -/
def orderKey : Text := "ordered_sections"
def sectionsKey : Text := "_parsed_data"
def sourceKey : Text := "_doc"

/-- A document as data, without anything empty. -/
def toDatum (d : Document) : Datum :=
  .object ((if d.order.isEmpty then [] else [(orderKey, .texts d.order)]) ++
    [(sectionsKey, .object (filledSections d))] ++ d.extra.filter fun (_, v) => !v.isEmpty)

/-- The three parts of a parameter. -/
def paramParts (d : Datum) : Except Error (Datum × Datum × Datum) :=
  match d.parts? with
  | none => .error .wrongKind
  | some [name, type, desc] => .ok (name, type, desc)
  | some parts =>
    if parts.length < 3 then .error (.tooFewParts 3 parts.length) else .error (.tooManyParts 3)

def paramOfParts? : Datum × Datum × Datum → Option Param
  | (.text name, .text type, desc) => desc.asTexts?.map (Param.mk name type)
  | _ => none

/-- The parameters that data describes; parts of other kinds than a parameter has stay data. -/
def paramsOfDatum (d : Datum) : Except Error Content := do
  match d.parts? with
  | none => .error .wrongKind
  | some items =>
    let parts ← items.mapM paramParts
    match parts.mapM paramOfParts? with
    | some ps => return .params ps
    | none => return .data (.list (parts.map fun (a, b, c) => .list [a, b, c]))

/-- Adds a section, unless it is there. -/
def withSection (sections : List (Text × Content)) (s : Section) (c : Content) :
    List (Text × Content) :=
  if (sections.lookup s.title).isSome then sections else sections ++ [(s.title, c)]

/-- The sections that are filled in as empty lists. -/
def filledIn : List Section :=
  [.returns, .yields, .extendedSummary, .receives, .otherParameters, .raises, .warns, .warnings,
   .seeAlso, .notes, .references, .examples, .attributes, .methods]

/-- The sections that data describes: the parameters as parameters, and those missing filled in. -/
def sectionsOfData (sections : List (Text × Content)) : Except Error (List (Text × Content)) := do
  let name := Section.parameters.title
  let ps ←
    match sections.lookup name with
    | none => .ok (.params [])
    | some c => paramsOfDatum c.toDatum
  let placed := (withSection sections .parameters ps).map fun (n, c) =>
    (n, if n = name then ps else c)
  let filled := filledIn.foldl (fun ss s => withSection ss s (.lines [])) placed
  return withSection filled .index (.data (.object []))

/-- The document that data describes.  An attribute that is missing is that of an empty
docstring. -/
def ofDatum : Datum → Except Error Document
  | .object entries => do
    let given ←
      match entries.lookup sectionsKey with
      | none => .ok empty.sections
      | some (.object sections) => .ok (sections.map fun (n, v) => (n, Content.ofDatum v))
      | some _ => .error .noComponent
    let sections ← sectionsOfData given
    let order :=
      match entries.lookup orderKey with
      | none => empty.order
      | some v => v.asTexts?.getD []
    let extra := entries.filter fun (key, _) => !([orderKey, sectionsKey, sourceKey].contains key)
    return ⟨sections, order, extra⟩
  | _ => .error .wrongKind

end DocTidy.Document
