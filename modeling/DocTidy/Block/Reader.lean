import DocTidy.Block.Basic

/-!
# Reading blocks

Each kind of block has a reader that takes it off the front of some lines, or says that the lines
begin with something else.
-/

namespace DocTidy

open Text

/-- What a reader took: the blocks, the lines that are left, and its warnings. -/
structure Taken where
  blocks : List Block
  rest : List Text
  warnings : List Text
deriving Repr, DecidableEq

namespace Block

/-! ## Headers -/

/-- The line is an underline of that length. -/
def isUnderline (length : Nat) (line : Text) : Bool :=
  match line with
  | [] => false
  | c :: _ =>
    (c == '-' || c == '=' || c == '~' || c == '\x60') && line.all (· == c) && line.length == length

/-- The level of the header that a line underlines. -/
def underlineLevel (length : Nat) (line : Text) : Except Error Nat :=
  if isUnderline length line then .ok 1 else .error .noMatch

/-- The lines begin with a header. -/
def atHeader : List Text → Bool
  | title :: underline :: _ => isUnderline title.length underline
  | _ => false

/-- A header is a line with an underline of its length. -/
def header? : List Text → Except Error (Header × List Text)
  | title :: underline :: rest => do
    let level ← underlineLevel title.length underline
    return (⟨title, level⟩, rest)
  | _ => .error .noMatch

/-- The lines before the next header, and the rest. -/
def untilHeader : List Text → List Text × List Text
  | [] => ([], [])
  | line :: rest =>
    if atHeader (line :: rest) then ([], line :: rest)
    else
      let (front, rest) := untilHeader rest
      (line :: front, rest)

/-! ## Lines, paragraphs and code -/

def readLine (make : Text → Block) : List Text → Except Error (Block × List Text)
  | [] => .error .noLine
  | line :: rest => .ok (make line, rest)

def readBlank : List Text → Except Error (Block × List Text)
  | [] => .error .noLine
  | line :: rest => if isBlank line then .ok (blank, rest) else .error .noMatch

/-- A line belongs to a paragraph when it holds something at the margin. -/
def isProse (line : Text) : Bool := !line.isEmpty && !startsWith line " "

/-- A paragraph is a run of lines at the margin, and takes the line behind it along.  An indented
line below the first one makes it a definition instead. -/
def readParagraph : List Text → Except Error (Block × List Text)
  | [] => .error .noLine
  | line :: rest =>
    let defines :=
      match rest with
      | next :: _ => startsWith next " " && !isBlank next
      | [] => false
    if !isProse line || defines then .error .noMatch
    else .ok (paragraph (line :: rest.takeWhile isProse), (rest.dropWhile isProse).drop 1)

/-- Code starts with a prompt and goes on to the next blank line. -/
def readCode : List Text → Except Error (Block × List Text)
  | [] => .error .noLine
  | line :: rest =>
    if startsWith line ">>>" || startsWith line "    >>>" then
      let lines := line :: rest
      .ok (code (lines.takeWhile fun l => !isBlank l), lines.dropWhile fun l => !isBlank l)
    else .error .noMatch

/-- A line of items with commas in between. -/
def readListing : List Text → Except Error (Block × List Text)
  | [] => .error .noLine
  | line :: rest =>
    if line.contains ',' then .ok (listing ((line.splitOn ',').map strip), rest)
    else .error (.noComma line)

/-! ## Descriptions and mappings -/

/-- Sets the value of a key, in the place where it first appeared. -/
def setKey {β : Type} (key : Text) (value : β) : List (Text × β) → List (Text × β)
  | [] => [(key, value)]
  | (k, v) :: items => if k = key then (k, value) :: items else (k, v) :: setKey key value items

/-- Sets the value of a key, if there is one. -/
def setKey? {β : Type} (key : Option Text) (value : β) (items : List (Text × β)) :
    List (Text × β) :=
  match key with
  | some key => setKey key value items
  | none => items

/-- Names at the margin with indented lines below, up to a header or the end.  The name on the
last line before the end is left out, and the line itself is left over. -/
def readDescriptionsFrom (items : List (Text × List Text)) (key : Option Text)
    (below : List Text) : List Text → Except Error (Block × List Text)
  | [] => .error .nothingScanned
  | line :: rest =>
    if atHeader (line :: rest) then .ok (descriptions (setKey? key below items), line :: rest)
    else
      let name := strip line
      let indented := startsWith line " "
      if !indented && name.contains ',' then .error .noMatch
      else
        let items := if indented then items else setKey? key below items
        match rest with
        | [] => .ok (descriptions items, [line])
        | _ =>
          if indented then readDescriptionsFrom items key (below ++ [line]) rest
          else readDescriptionsFrom items (some name) [] rest

def readDescriptions (lines : List Text) : Except Error (Block × List Text) :=
  readDescriptionsFrom [] none [] lines

/-- Adds an indented line to the text of the key above it, which must have one. -/
def continueKey (items : List (Text × Option Text)) (key line : Text) :
    Except Error (List (Text × Option Text)) :=
  if startsWith line " " && !key.isEmpty then
    match items.lookup (strip key) with
    | some (some text) => .ok (setKey (strip key) (some (text ++ strip line)) items)
    | _ => .error .noMatch
  else .ok items

/-- The keys on a line: one with the text behind a colon, or several without, with commas in
between.  The last one is the key that further lines continue. -/
def addKeys (items : List (Text × Option Text)) (line : Text) :
    List (Text × Option Text) × Text :=
  match cutAt? ":" line with
  | some (key, text) => (setKey (strip key) (some text) items, key)
  | none =>
    if line.contains ',' then
      let keys := line.splitOn ','
      (keys.foldl (fun items key => setKey (strip key) none items) items, keys.getLast?.getD [])
    else (setKey (strip line) none items, strip line)

/-- Names with texts, up to a header or the end; the last line is left over. -/
def readMappingFrom (items : List (Text × Option Text)) (key : Text) :
    List Text → Except Error (Block × List Text)
  | [] => .error .nothingScanned
  | line :: rest => do
    if isBlank line then
      match rest with
      | [] => return (mapping items, [line])
      | _ => readMappingFrom items key rest
    else if atHeader (line :: rest) then return (mapping items, line :: rest)
    else
      let (items, key) := addKeys (← continueKey items key line) line
      match rest with
      | [] => return (mapping items, [line])
      | _ => readMappingFrom items key rest

def readMapping (lines : List Text) : Except Error (Block × List Text) :=
  readMappingFrom [] [] lines

/-! ## Definition lists -/

/-- The lines of an entry: the first, the indented ones below it, and the rest.  The second line
decides how deeply they are indented; blank lines belong to them. -/
def entryLines : List Text → Except Error (Text × List Text × List Text)
  | [] => .error (.tooFewParts 2 0)
  | [line] => .ok (line, [], [])
  | line :: next :: rest =>
    let indent := (next.takeWhile isSpace).length
    let isBelow (l : Text) : Bool := startsWith l (spaces indent) || isBlank l
    if indent = 0 then .ok (line, [], next :: rest)
    else .ok (line, next :: rest.takeWhile isBelow, rest.dropWhile isBelow)

/-- The head of an entry and what stands behind its colon. -/
def splitEntry (line : Text) : Text × Text :=
  match cutAt? ":" line with
  | some (head, type) => (strip head, strip type)
  | none => (strip line, [])

/-- The entries that begin with the first line: one, or several names with commas in between. -/
def readEntries (lines : List Text) : Run (List Entry × List Text) := do
  let (line, below, rest) ← Run.ofExcept (entryLines lines)
  let (head, type) := splitEntry line
  if head.contains ' ' && type.isEmpty && below.isEmpty then
    return ((head.splitOn ',').map fun name => ⟨strip name, [], []⟩, rest)
  else do
    if head.contains ' ' && includes "See Also" head then
      Run.say ("--------------> " ++ quotedList (lines.take 3))
    return ([⟨head, type, below⟩], rest)

/-- The entries up to the next header or the end.  Every step takes a line, so `fuel` is enough if
it is the number of lines. -/
def readDefinitionsFrom : Nat → List Text → Run (List Entry × List Text)
  | 0, lines => pure ([], lines)
  | fuel + 1, lines =>
    match lines with
    | [] => pure ([], [])
    | line :: rest =>
      if isBlank line then readDefinitionsFrom fuel rest
      else if atHeader lines then pure ([], lines)
      else do
        let (entries, rest) ← readEntries lines
        let (more, rest) ← readDefinitionsFrom fuel rest
        return (entries ++ more, rest)

/-- Reads a definition list. -/
def readDefinitions (lines : List Text) : Run (List Entry × List Text) :=
  readDefinitionsFrom lines.length lines

/-! ## Sections -/

/-- Titles that mean another. -/
def titleAliases : List (Text × Text) :=
  [("Return", "Returns"), ("Arguments", "Parameters"), ("arguments", "Parameters"),
   ("additional keyword arguments:", "Parameters"), ("Other parameters", "Other Parameters"),
   ("Exceptions", "Raises")]

/-- The title that a title means. -/
def meantTitle (title : Text) : Text := (titleAliases.lookup title).getD title

/-- The warning about a title that means another. -/
def titleWarnings (title : Text) : List Text :=
  (titleAliases.lookup title).toList.map fun meant =>
    "Found \x60" ++ title ++ "\x60, did you mean \x60" ++ meant ++ "\x60 ?"

/-- The sections that define names. -/
def definingTitles : List Text :=
  ["Parameters", "Returns", "Class Attributes", "Options", "Attributes", "Yields", "Raises",
   "Exceptions", "Methods", "Warns", "Other Parameters", "Warnings", "Arguments"]

/-- The contents of a section that defines names: a paragraph, or else a definition list. -/
def readDefining (lines : List Text) : Run (Block × List Text) :=
  match readParagraph lines with
  | .ok r => pure r
  | .error .noMatch => do
    let (entries, rest) ← readDefinitions lines
    return (definitions entries, rest)
  | .error e => Run.fail e

/-- A known section: its title, and its contents if it defines names. -/
def readSection (lines : List Text) : Run Taken := do
  let (top, rest) ← Run.ofExcept (header? lines)
  let title := meantTitle top.title
  let warnings := titleWarnings top.title
  if definingTitles.contains title then do
    let (core, rest) ← readDefining rest
    return ⟨[sectionTitle ⟨title, top.level⟩, core], rest, warnings⟩
  else if title == "See Also" || title == "See also" then do
    let (entries, rest) ← readDefinitions rest
    return ⟨[sectionTitle ⟨"See Also", top.level⟩, definitions entries], rest, warnings⟩
  else if title == "Examples" || title == "Notes" || title == "References" then
    return ⟨[sectionTitle ⟨title, top.level⟩], rest, warnings⟩
  else Run.fail (.unknownTitle title)

/-! ## Any block -/

/-- A reader without warnings. -/
def quietly (r : Except Error (Block × List Text)) : Run Taken := do
  let (block, rest) ← Run.ofExcept r
  return ⟨[block], rest, []⟩

def readHeader (lines : List Text) : Except Error (Block × List Text) := do
  let (h, rest) ← header? lines
  return (Block.header h, rest)

def readVerbatim (lines : List Text) : Except Error (Block × List Text) :=
  let (front, rest) := untilHeader lines
  .ok (verbatim front, rest)

/-- Goes on with `next` where `r` finds something else. -/
def orNext (r : Run Taken) (next : Unit → Run Taken) : Run Taken :=
  match r.result with
  | .error .noMatch =>
    let other := next ()
    ⟨r.notes ++ other.notes, other.result⟩
  | _ => r

/-- Reads the block that the lines begin with. -/
def readNext (lines : List Text) : Run Taken :=
  orNext (readSection lines) fun _ =>
  orNext (quietly (readHeader lines)) fun _ =>
  orNext (quietly (readBlank lines)) fun _ =>
  orNext (quietly (readCode lines)) fun _ =>
  orNext (quietly (readParagraph lines)) fun _ =>
  orNext (quietly (readVerbatim lines)) fun _ =>
  Run.fail (.unparsedLines lines)

/-- The blocks of some lines, and the warnings about them.  A reader that took no line would be tried
on the same lines again, so that is an error, and the lines get fewer with every step. -/
def readAll (lines : List Text) : Run (List Block × List Text) :=
  if lines.isEmpty then pure ([], [])
  else do
    let taken ← readNext lines
    if taken.rest.length < lines.length then do
      let (blocks, warnings) ← readAll taken.rest
      return (taken.blocks ++ blocks, taken.warnings ++ warnings)
    else Run.fail (.unparsedLines lines)
termination_by lines.length

end Block
end DocTidy
