import DocTidy.Section
import DocTidy.Param
import DocTidy.Link
import DocTidy.Datum
import DocTidy.Example

/-!
# Documents

A docstring read into sections.  A document knows the contents of every section and the order in
which sections were recorded; a section that was never recorded has its default contents.
-/

namespace DocTidy

open Text

/-- The contents of a section. -/
inductive Content where
  | text (t : Text)
  | lines (ls : List Text)
  | params (ps : List Param)
  | links (ls : List Link)
  /-- Anything else that data can bring in. -/
  | data (d : Datum)

namespace Content

def isEmpty : Content → Bool
  | text t => List.isEmpty t
  | lines ls => List.isEmpty ls
  | params ps => List.isEmpty ps
  | links ls => List.isEmpty ls
  | data d => d.isEmpty

def ofParam (p : Param) : Datum := .list [.text p.name, .text p.type, .texts p.desc]

def ofLinkName (n : LinkName) : Datum :=
  .list [.text n.name, match n.role with | some r => .text r | none => .null]

def ofLink (l : Link) : Datum := .list [.list (l.names.map ofLinkName), .texts l.desc]

def toDatum : Content → Datum
  | text t => .text t
  | lines ls => .texts ls
  | params ps => .list (ps.map ofParam)
  | links ls => .list (ls.map ofLink)
  | data d => d

/-- How a link is shown in messages. -/
def shownLink (l : Link) : Text :=
  let names := l.names.map fun n =>
    bracketed "(" ")" [quoted n.name, match n.role with | some r => quoted r | none => "None"]
  bracketed "(" ")" [bracketed "[" "]" names, quotedList l.desc]

/-- How contents are shown in messages. -/
def shown : Content → Text
  | text t => quoted t
  | lines ls => quotedList ls
  | params ps => bracketed "[" "]" (ps.map Param.shown)
  | links ls => bracketed "[" "]" (ls.map shownLink)
  | data d => d.shown

def ofDatum (d : Datum) : Content :=
  match d with
  | .text t => text t
  | _ =>
    match d.asTexts? with
    | some ls => lines ls
    | none => data d

/-- The texts that the contents consist of, where they consist of texts. -/
def asTexts (c : Content) : Except Error (List Text) :=
  match c with
  | lines ls => .ok ls
  | _ =>
    match c.toDatum.parts? with
    | none => .error .wrongKind
    | some parts =>
      match parts.mapM Datum.asText? with
      | some ts => .ok ts
      | none => .error .noComponent

end Content

/-- The contents of a section that was never recorded. -/
def Section.default : Section → Content
  | .signature | .references | .examples => .text []
  | .summary => .lines [[]]
  | .index => .data (.object [])
  | s =>
    match s.layout with
    | .lines => .lines []
    | .params _ => .params []
    | .links => .links []

structure Document where
  sections : List (Text × Content)
  /-- The names of the recorded sections, known or not, in the order of recording. -/
  order : List Text
  /-- Further attributes that came with data. -/
  extra : List (Text × Datum)

namespace Document

/-- A document in which no section has been recorded. -/
def blank : Document := ⟨Section.all.map fun s => (s.title, s.default), [], []⟩

def get? (d : Document) (name : Text) : Option Content := d.sections.lookup name

def get (d : Document) (name : Text) : Except Error Content :=
  match d.get? name with
  | some c => .ok c
  | none => .error (.noSection name)

/-- Replaces the contents of a section; one that the document does not know stays unknown. -/
def store (d : Document) (name : Text) (c : Content) : Document :=
  { d with sections := d.sections.map fun (n, old) => (n, if n = name then c else old) }

/-- Contents in the form in which they are recorded.  Lines of the two summaries lose the white
space at their end.  Example lines go through the code formatter, if there is one; so do those of
any section whose name is part of the word `Examples`. -/
def prepare (format? : Option CodeFormatter) (name : Text) (c : Content) : Run Content := do
  let c ←
    if name == Section.extendedSummary.title || name == Section.summary.title then do
      let ls ← Run.ofExcept c.asTexts
      pure (.lines (ls.map stripRight))
    else pure c
  match format? with
  | some format =>
    if includes name Section.examples.title then
      match c.asTexts with
      | .error _ => ⟨[.said "black failed"], .error .wrongKind⟩
      | .ok ls => do
        let tidied ← (Example.tidy format ls).onFailure [.said "black failed", .said (unlines ls)]
        return .lines tidied
    else return c
  | none => return c

/-- Records a section: its contents replace those it had, and its name joins the order.  The
contents are stored even where the name was recorded before and the operation fails. -/
def record (format? : Option CodeFormatter) (d : Document) (name : Text) (c : Content) :
    Document × Run Unit :=
  let prepared := prepare format? name c
  match prepared.result with
  | .error e => (d, ⟨prepared.notes, .error e⟩)
  | .ok c =>
    let unknown := if (d.get? name).isNone then [Note.warned ("Unknown section " ++ name)] else []
    let notes := prepared.notes ++ unknown
    let stored := d.store name c
    if d.order.contains name then (stored, ⟨notes, .error (.recordedTwice name)⟩)
    else ({ stored with order := d.order ++ [name] }, ⟨notes, .ok ()⟩)

/-- The document after a section has been recorded, unless that fails. -/
def recorded (format? : Option CodeFormatter) (d : Document) (name : Text) (c : Content) :
    Run Document := do
  let (changed, outcome) := record format? d name c
  outcome
  return changed

/-! ## Normalising -/

/-- The text begins with a role and a backtick, as in ``:class:`X` ``. -/
def startsWithRole (t : Text) : Bool :=
  match t with
  | ':' :: r =>
    match Link.run? isWord r with
    | some (_, ':' :: '\x60' :: _) => true
    | _ => false
  | _ => false

/-- A name that holds a type, as in `x: int`, is divided at the first colon before a space. -/
def normalizeParam (p : Param) : Run Param :=
  if p.type.isEmpty && p.name.contains ':' && !endsWith p.name ":" &&
      !startsWith p.name ".." then do
    if startsWithRole p.name then Run.say ("may have a directive " ++ p.name)
    match cutAt? ": " p.name with
    | some (name, type) => return { p with name := strip name, type := strip type }
    | none => Run.fail (.undividedName p.name)
  else pure p

/-- Normalises one parameter after the other; those before one that fails stay normalised. -/
def normalizeParams : List Param → List Param × Run Unit
  | [] => ([], pure ())
  | p :: ps =>
    let first := normalizeParam p
    match first.result with
    | .error e => (p :: ps, ⟨first.notes, .error e⟩)
    | .ok q =>
      let (qs, rest) := normalizeParams ps
      (q :: qs, ⟨first.notes ++ rest.notes, rest.result⟩)

/-- Normalises the parameters of a document. -/
def normalize (d : Document) : Document × Run Unit :=
  match d.get Section.parameters.title with
  | .error e => (d, Run.fail e)
  | .ok (.params ps) =>
    let (qs, outcome) := normalizeParams ps
    (d.store Section.parameters.title (.params qs), outcome)
  | .ok c =>
    if c.isEmpty then (d, pure ())
    else if c.toDatum.parts?.isSome then (d, Run.fail .noComponent)
    else (d, Run.fail .wrongKind)

def normalized (d : Document) : Run Document := do
  let (changed, outcome) := normalize d
  outcome
  return changed

end Document
end DocTidy
