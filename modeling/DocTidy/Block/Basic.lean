import DocTidy.Text.Indent
import DocTidy.Run

/-!
# Blocks

The blocks that the lines of a documentation text are divided into, and the three ways to show
them: tagged for debugging, as plain text, and as part of a page.
-/

namespace DocTidy

open Text

/-- A title and its level. -/
structure Header where
  title : Text
  level : Nat
deriving Repr, DecidableEq

/-- An entry of a definition list: what is defined, what stands behind the colon, and the indented
lines below. -/
structure Entry where
  head : Text
  type : Text
  rest : List Text
deriving Repr, DecidableEq

inductive Block where
  | header (h : Header)
  /-- A line of any kind, or one taken as it stands. -/
  | anyLine (line : Text)
  | rawLine (line : Text)
  /-- The lines up to the next header. -/
  | verbatim (lines : List Text)
  | descriptions (items : List (Text × List Text))
  | listing (items : List Text)
  | entry (e : Entry)
  | definitions (entries : List Entry)
  /-- Names, some of them with a text. -/
  | mapping (items : List (Text × Option Text))
  | code (lines : List Text)
  /-- The title of a known section. -/
  | sectionTitle (h : Header)
  | paragraph (lines : List Text)
  | blank
deriving Repr, DecidableEq

/-- What a name links to. -/
abbrev Resolver := Text → Text

namespace Header

def tagged (h : Header) : Text :=
  "<Header " ++ ofNat h.level ++ ":  " ++ h.title ++ " >"

def toText (h : Header) : Text := h.title ++ "\n" ++ replicate h.title.length '='

def html (h : Header) : Text :=
  "<h" ++ ofNat h.level ++ ">" ++ h.title ++ "</h" ++ ofNat h.level ++ ">"

end Header

namespace Entry

def tagged (e : Entry) : Text :=
  "<EntryParser head:" ++ quoted e.head ++ ", rest:" ++ quotedList e.rest ++ ", t:" ++
    quoted e.type ++ ">"

def toText (e : Entry) : Text :=
  let below := unlines e.rest
  e.head ++ ":" ++ e.type ++ if below.isEmpty then [] else '\n' :: below

def html (resolve : Resolver) (e : Entry) : Text :=
  let (type, core) := if e.rest.isEmpty then ([], e.type) else (e.type, unlines e.rest)
  "<dt>" ++ resolve e.head ++ ":" ++ type ++ "</dt><dd><pre>" ++ core ++ "</pre></dd>"

end Entry

namespace Block

/-- The name of a kind of block. -/
def tag : Block → Text
  | header _ => "Header"
  | anyLine _ => "Any"
  | rawLine _ => "Raw"
  | verbatim _ => "RawTilNextHeader"
  | descriptions _ => "DescriptionList"
  | listing _ => "Listing"
  | entry _ => "EntryParser"
  | definitions _ => "DeflistParser"
  | mapping _ => "Mapping"
  | code _ => "CodeBlock"
  | sectionTitle _ => "Section"
  | paragraph _ => "Paragraph"
  | blank => "BlankLine"

/-- How a text that may be missing is written. -/
def orNone (t : Option Text) : Text := t.getD "None"

/-- A block with its contents quoted, for debugging. -/
def tagged (b : Block) : Text :=
  let holding (contents : Text) : Text := "<" ++ b.tag ++ ": " ++ contents ++ " >"
  match b with
  | header h => h.tagged
  | anyLine line | rawLine line => holding (quotedList [line])
  | verbatim lines | code lines | listing lines => holding (quotedList lines)
  | descriptions items =>
    holding (quotedEntries (items.map fun (key, lines) => (key, quotedList lines)))
  | entry e => e.tagged
  | definitions entries =>
    "<" ++ b.tag ++ " entries:" ++ bracketed "[" "]" (entries.map Entry.tagged) ++ ">"
  | mapping items =>
    holding (quotedEntries (items.map fun (key, value) => (key, orNone (value.map quoted))))
  | sectionTitle h => "<" ++ b.tag ++ ": " ++ h.tagged ++ ">"
  | paragraph lines => "<" ++ b.tag ++ ": " ++ quotedList lines ++ ">"
  | blank => "<" ++ b.tag ++ ">"

/-- A block as plain text. -/
def toText : Block → Text
  | header h | sectionTitle h => h.toText
  | anyLine line | rawLine line => line
  | verbatim lines | code lines | paragraph lines => unlines lines
  | descriptions items => unlines (items.map fun (key, lines) => key ++ ":\n" ++ unlines lines)
  | listing items => [','].intercalate items
  | entry e => e.toText
  | definitions entries => unlines (entries.map Entry.toText)
  | mapping items => unlines (items.map fun (key, value) => key ++ ": " ++ orNone value)
  | blank => []

/-- A block as part of a page, or none for a block that has no such form.  What defines names
needs something that resolves them. -/
def html (resolve? : Option Resolver) : Block → Except Error (Option Text)
  | header h | sectionTitle h => .ok (some h.html)
  | anyLine _ | rawLine _ => .ok none
  | verbatim lines | code lines => .ok (some ("<pre>" ++ unlines lines ++ "</pre>"))
  | descriptions items =>
    let item (key : Text) (lines : List Text) : Text :=
      "<dt>" ++ key ++ "</dt>\n<dd>" ++ unlines lines ++ "</dd>"
    .ok (some ("<dl>" ++ unlines (items.map fun (key, lines) => item key lines) ++ "</dl>"))
  | listing items =>
    .ok (some ("<ul>" ++ unlines (items.map fun t => "<li>" ++ t ++ "</li>") ++ "</ul>"))
  | entry e =>
    match resolve? with
    | some resolve => .ok (some (e.html resolve))
    | none => .error .noResolver
  | definitions entries =>
    match resolve?, entries with
    | none, _ :: _ => .error .noResolver
    | _, _ =>
      let resolve := resolve?.getD id
      .ok (some ("<dl> (Deflist)" ++ unlines (entries.map (Entry.html resolve)) ++ "</dl>"))
  | mapping items =>
    match resolve? with
    | some resolve =>
      let item (key : Text) (value : Option Text) : Text :=
        "<dt>" ++ resolve key ++ "</dt>\n<dd>" ++ orNone value ++ "</dd>"
      .ok (some ("<dl> (Mapping)" ++ unlines (items.map fun (key, value) => item key value) ++
        "</dl>"))
    | none => .error .noResolver
  | paragraph lines => .ok (some ("<p>" ++ [' '].intercalate lines ++ "</p>"))
  | blank => .ok (some [])

end Block
end DocTidy
