import DocTidy.Document
import DocTidy.Settings

/-!
# Printing sections

The text of a section: its title, underlined, and its contents below.  Signature and summaries
have no title.
-/

namespace DocTidy.Printer

open Text

/-- A title underlined with hyphens. -/
def titled (title : Text) : Text := title ++ "\n" ++ replicate title.length '-' ++ "\n"

/-! ## Lines -/

def printSummary (ls : List Text) : Text :=
  match ls with
  | [l] => if isBlank l then [] else l ++ "\n"
  | _ => unlines ls ++ "\n"

/-- A titled section of plain lines; `spaced` leaves a blank line below the title. -/
def printLines (title : Text) (spaced : Bool) (ls : List Text) : Text :=
  titled title ++ (if spaced then ['\n'] else []) ++ unlines ls ++ "\n"

/-! ## Parameters -/

/-- The description of a parameter, indented. -/
def printDesc (desc : List Text) : Text :=
  if desc.isEmpty then [] else indent "    " (unlines desc) ++ "\n"

/-- A name, and behind it its type, if it has one. -/
def printParam (p : Param) : Text :=
  (if p.type.isEmpty then strip p.name else strip p.name ++ " : " ++ strip p.type) ++ "\n" ++
    printDesc p.desc

/-- Parameters one below the other, with a blank line in between unless `compact`. -/
def printParamList (title : Text) (compact : Bool) (ps : List Param) : Text :=
  titled title ++ (if compact then [] else ['\n']).intercalate (ps.map printParam)

/-- One of the descriptions holds a blank line. -/
def hasGap (ps : List Param) : Bool := ps.any fun p => p.desc.any isBlank

/-- Parameters in the layout that the settings ask for: where a description holds a blank line,
blank lines set the parameters apart too, unless they are to be compact. -/
def printParams (settings : Settings) (title : Text) (ps : List Param) : Text :=
  printParamList title (!hasGap ps || settings.compactParam) ps

/-! ## Results -/

/-- The type begins with a role that lacks its first colon, as in ``class:`X` ``. -/
def looksMisread (type : Text) : Bool :=
  match Link.run? isWord type with
  | some (_, ':' :: '\x60' :: _) => true
  | _ => false

/-- A name and its type, or only the one that is there. -/
def printResult (p : Param) : Text :=
  (if p.name.isEmpty then strip p.type
    else if p.type.isEmpty then strip p.name
    else strip p.name ++ " : " ++ strip p.type) ++ "\n" ++ printDesc p.desc

/-- What is returned, yielded or raised, one below the other. -/
def printResults (title : Text) (ps : List Param) : Run Text :=
  let warnings := (ps.filter fun p => looksMisread p.type).map fun p =>
    Note.said ("Warning numpydoc may have misparsed this section. " ++ p.name ++ " " ++ p.type)
  ⟨warnings, .ok (titled title ++ (ps.map printResult).flatten)⟩

/-! ## Links -/

def printLinkName (n : LinkName) : Text :=
  match n.role with
  | some role => ":" ++ role ++ ":\x60" ++ n.name ++ "\x60"
  | none => n.name

/-- Prints a link below what has been printed.  The first line of its description stands on a line
of its own when there are several names or when the layout is not `inline`; otherwise it stands
behind the name, and must then fit in the line unless `anyWidth`. -/
def addLink (inline anyWidth : Bool) (above : Text) (l : Link) : Option Text :=
  let named := above ++ (", " : Text).intercalate (l.names.map printLinkName)
  let below := (l.desc.drop 1).flatMap (fun line => ("\n    " : Text) ++ line) ++ "\n"
  match l.desc with
  | [] | [] :: _ => some (named ++ below)
  | first :: _ =>
    if 1 < l.names.length || !inline then some (named ++ " :\n    " ++ first ++ below)
    else
      let width := ((splitLines named).getLast?.getD []).length + 3 + first.length
      if 80 < width && !anyWidth then none else some (named ++ " : " ++ first ++ below)

/-- Links with their descriptions inline or not; none if an inline one does not fit. -/
def printLinksAs? (settings : Settings) (inline anyWidth : Bool) (ls : List Link) : Option Text :=
  ls.foldlM (addLink inline anyWidth)
    (titled Section.seeAlso.title ++ if settings.spaceInSeeAlsoTitle then ['\n'] else [])

/-- Links with inline descriptions if all of them fit, otherwise with none inline. -/
def printLinks (settings : Settings) (anyWidth : Bool) (ls : List Link) : Option Text :=
  (printLinksAs? settings true anyWidth ls).orElse fun _ =>
    printLinksAs? settings false anyWidth ls

/-! ## Any section -/

/-- The contents as parameters. -/
def asParams (c : Content) : Except Error (List Param) :=
  match c with
  | .params ps => .ok ps
  | _ =>
    if c.isEmpty then .ok []
    else if c.toDatum.parts?.isSome then .error .noComponent
    else .error .wrongKind

def asLinks (c : Content) : Except Error (List Link) :=
  match c with
  | .links ls => .ok ls
  | _ => if c.isEmpty then .ok [] else .error .wrongKind

def asLines (c : Content) : Except Error (List Text) :=
  match c.asTexts with
  | .ok ls => .ok ls
  | .error _ => .error .wrongKind

/-- Prints the contents of a section; `anyWidth` lets the description of a link stand behind its
name even where it does not fit. -/
def printSection (settings : Settings) (anyWidth : Bool) (s : Section) (c : Content) : Run Text :=
  let title := s.title
  match s with
  | .signature =>
    match c with
    | .text t => pure (t ++ "\n")
    | _ => Run.fail .wrongKind
  | .summary => return printSummary (← Run.ofExcept (asLines c))
  | .extendedSummary => return unlines (← Run.ofExcept (asLines c)) ++ "\n"
  | .parameters | .methods | .otherParameters =>
    return printParams settings title (← Run.ofExcept (asParams c))
  | .warns | .raises | .yields | .returns | .attributes => do
    printResults title (← Run.ofExcept (asParams c))
  | .seeAlso => do
    match printLinks settings anyWidth (← Run.ofExcept (asLinks c)) with
    | some t => return t
    | none => return []
  | .notes => return printLines title settings.spaceInNotesTitle (← Run.ofExcept (asLines c))
  | .references | .examples | .warnings =>
    return printLines title false (← Run.ofExcept (asLines c))
  | .receives | .index => Run.fail (.noPrinter title)

/-! ## Without settings -/

/-- Parameters where there may be no settings: these are asked for only if there is a gap. -/
def printParamsWith (settings? : Option Settings) (title : Text) (ps : List Param) :
    Except Error Text :=
  match settings? with
  | some settings => .ok (printParams settings title ps)
  | none => if hasGap ps then .error .unreadableSettings else .ok (printParams {} title ps)

/-- The layout of the contents depends on the settings. -/
def dependsOnSettings (s : Section) (c : Content) : Bool :=
  match s, c with
  | .seeAlso, _ | .notes, _ => true
  | .parameters, .params ps | .methods, .params ps | .otherParameters, .params ps => hasGap ps
  | _, _ => false

/-- Prints the contents of a section where there may be no settings. -/
def printSectionWith (settings? : Option Settings) (anyWidth : Bool) (s : Section) (c : Content) :
    Run Text :=
  match settings? with
  | some settings => printSection settings anyWidth s c
  | none =>
    if dependsOnSettings s c then Run.fail .unreadableSettings else printSection {} anyWidth s c

end DocTidy.Printer
