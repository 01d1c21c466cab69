import DocTidy.Document

/-!
# Reading a docstring

Blank lines divide a docstring into paragraphs.  A paragraph whose second line underlines its
first is headed; the paragraphs from one heading to the next make up a section.  The paragraphs
before the first heading hold signatures, the summary and the extended summary.
-/

namespace DocTidy.Document

open Text

/-! ## Headings -/

/-- The first two lines of a paragraph, stripped. -/
def headLines : List Text → Text × Text
  | [] => ([], [])
  | [l] => (strip l, [])
  | l :: u :: _ => (strip l, strip u)

/-- The second line of a heading starts with as many hyphens, or equals signs, as the first has
characters.  An index directive is a heading too. -/
def isHeading (paragraph : List Text) : Bool :=
  let (heading, underline) := headLines paragraph
  startsWith heading ".. index::" ||
    startsWith underline (replicate heading.length '-') ||
    startsWith underline (replicate heading.length '=')

/-- A warning for an underline that is not as long as its heading. -/
def underlineWarning (opening : Text) (paragraph : List Text) : List Note :=
  let (heading, underline) := headLines paragraph
  if !startsWith heading ".. index::" && 3 ≤ underline.length &&
      (underline.all (· == '-') || underline.all (· == '=')) &&
      underline.length != heading.length then
    [.warned ("potentially wrong underline length... \n" ++ heading ++ " \n" ++ underline ++
      " in \n" ++ opening ++ "...")]
  else []

/-! ## The paragraphs before the first heading -/

/-- The characters of the names before the equals sign of a signature. -/
def isResultChar (c : Char) : Bool := isWord c || c == '.' || c == ',' || c == ' '

/-- A call is a dotted name and parentheses that reach to the end. -/
def isCall (t : Text) : Bool :=
  match Link.run? (fun c => isWord c || c == '.') (stripLeft t) with
  | some (_, '(' :: r) => endsWith r ")"
  | _ => false

/-- A signature is a call, with names of results and an equals sign in front or not. -/
def isSignature (t : Text) : Bool :=
  isCall t ||
    match Link.run? isResultChar t with
    | some (_, '=' :: r) => isCall r
    | _ => false

/-- Paragraphs as lines again, with one blank line in between. -/
def joinParagraphs (ps : List (List Text)) : List Text := [[]].intercalate ps

/-- The lines of a paragraph on one line. -/
def oneLine (paragraph : List Text) : Text := strip ([' '].intercalate (paragraph.map strip))

/-- Records the paragraphs before the first heading: signatures, the summary, and what follows it
as the extended summary.  Where a heading follows a signature directly, the signature is the
summary too. -/
def recordFront (format? : Option CodeFormatter) (headed : Bool) :
    Document → List (List Text) → Run Document
  | d, [] => do
    let d ← d.recorded format? Section.summary.title (.lines [])
    d.recorded format? Section.extendedSummary.title (.lines [])
  | d, p :: rest => do
    let line := oneLine p
    if isSignature line then do
      let d ← d.recorded format? Section.signature.title (.text line)
      if rest.isEmpty && headed then d.recorded format? Section.summary.title (.lines p)
      else recordFront format? headed d rest
    else do
      let d ← d.recorded format? Section.summary.title (.lines p)
      if rest.isEmpty && headed then return d
      else d.recorded format? Section.extendedSummary.title (.lines (joinParagraphs rest))

/-! ## The sections -/

/-- The section that a headed run of paragraphs means, and its lines below the underline. -/
def readSection (group : List Text × List (List Text)) : Run (Section × List Text) :=
  let heading := (headLines group.1).1
  match Section.ofHeading? heading with
  | none => Run.fail (.unknownHeading heading)
  | some s => pure (s, ((joinParagraphs (group.1 :: group.2)).drop 2).dropWhile isBlank)

/-- Results are either returned or yielded, and only a generator receives anything. -/
def checkSections (sections : List Section) : Run Unit :=
  if sections.contains .returns && sections.contains .yields then Run.fail .returnsAndYields
  else if !sections.contains .yields && sections.contains .receives then
    Run.fail .receivesWithoutYields
  else pure ()

/-- The lines of a section, read as its layout says. -/
def readContent (s : Section) (lines : List Text) : Run Content :=
  match s.layout with
  | .lines => pure (.lines lines)
  | .params soleType => pure (.params (Param.ofLines soleType lines))
  | .links => return .links (← Link.ofLines lines)

/-- Records a section that has no contents yet. -/
def recordSection (format? : Option CodeFormatter) (docstring : Text) (d : Document)
    (s : Section × List Text) : Run Document := do
  let name := s.1.recordName
  if ((d.get? name).map fun c => !c.isEmpty) == some true then
    Run.fail (.repeatedSection name docstring)
  else d.recorded format? name (← readContent s.1 s.2)

/-- Reads a docstring into a document.  Example code goes through the formatter, if there is one. -/
def read (format? : Option CodeFormatter) (docstring : Text) : Run Document := do
  let lines := dedentLines (docstring.splitOn '\n')
  let ps := paragraphs lines
  let (front, groups) := headedRuns isHeading ps
  let d ←
    if front.isEmpty && !groups.isEmpty then pure blank
    else recordFront format? (!groups.isEmpty) blank front
  let sections ← groups.mapM readSection
  (⟨ps.flatMap (underlineWarning (unlines (lines.take 2))), .ok ()⟩ : Run Unit)
  checkSections (sections.map (·.1))
  sections.foldlM (recordSection format? (unlines lines)) d

end DocTidy.Document
