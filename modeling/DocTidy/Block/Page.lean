import DocTidy.Block.Reader
import DocTidy.Document.Reader
import DocTidy.Margin

/-!
# Pages

A page shows the blocks of a documentation text under the name and signature of what they
document, and below them the pages that refer to it.
-/

namespace DocTidy

open Text

structure Page where
  blocks : List Block
  name : Option Text
  signature : Option Text
  backrefs : List Text
deriving Repr, DecidableEq

namespace Page

/-- The page with its blocks tagged, for debugging. -/
def tagged (p : Page) : Text :=
  "<Doc\n" ++ unlines (p.blocks.map fun b => indent "    " b.tagged) ++ "\n>"

def isSeeAlso : Block → Bool
  | .sectionTitle h => h.title == "See Also"
  | _ => false

/-- The names that the first See Also section lists, or none where no list follows its title. -/
def seeAlso (p : Page) : Run (Option (List Text)) :=
  match p.blocks.dropWhile fun b => !isSeeAlso b with
  | [] => pure (some [])
  | [_] => Run.fail .noLine
  | _ :: .mapping items :: _ => pure (some (items.map (·.1)))
  | _ :: .definitions entries :: _ => pure (some (entries.map (·.head)))
  | _ :: block :: _ => do
    Run.say ("not a mapping " ++ block.tagged)
    return none

/-- The title of the page. -/
def heading (p : Page) : Text :=
  let title := p.name.getD [] ++ p.signature.getD []
  if title.isEmpty then [] else "<h1>" ++ title ++ "</h1>"

def backrefList (p : Page) : Text :=
  if p.backrefs.isEmpty then []
  else
    let link (name : Text) : Text := "<a href=./" ++ name ++ ".html>" ++ name ++ "</a>"
    "<h1>Back references</h1>" ++ (", " : Text).intercalate (p.backrefs.map link)

/-- A name, as a link to its page if there is one. -/
def linkTo (resolve : Text → Option Text) (name : Text) : Text :=
  match resolve name with
  | some target => "<a href='" ++ target ++ ".html'>" ++ name ++ "</a>"
  | none => name

/-- A block of the page.  Only lists have their names resolved. -/
def blockHtml (resolve : Resolver) (b : Block) : Except Error Text := do
  let shown ←
    match b with
    | .mapping _ | .definitions _ => b.html (some resolve)
    | _ => b.html none
  match shown with
  | some t => return t
  | none => .error .noPageForm

/-- The page. -/
def html (resolve : Text → Option Text) (p : Page) : Except Error Text := do
  let blocks ← p.blocks.mapM (blockHtml (linkTo resolve))
  return "<!DOCTYPE html>\n<html lang=\"en\">\n<head>\n    <meta charset=\"UTF-8\">\n" ++
    "    <meta name=\"viewport\" content=\"width=device-width, initial-scale=1.0\">\n" ++
    "    <title>Document</title>\n" ++
    "    <link rel=\"stylesheet\" href=\"https://fonts.xz.style/serve/inter.css\">\n" ++
    "    <link rel=\"stylesheet\" " ++
    "href=\"https://cdn.jsdelivr.net/npm/@exampledev/new.css@1.1.2/new.min.css\">\n" ++
    "</head>\n<body>\n    " ++ p.heading ++ "\n    " ++ unlines blocks ++ "\n    " ++
    p.backrefList ++ "\n</body>\n</html>\n"

/-- The page of some lines, and the warnings about them. -/
def ofLines (name signature : Option Text) (lines : List Text) : Run (Page × List Text) := do
  let (blocks, warnings) ← Block.readAll lines
  return (⟨blocks, name, signature, []⟩, warnings)

/-- The page of a docstring, or none if the docstring cannot be read. -/
def ofDocstring? (format? : Option CodeFormatter) (name signature : Option Text)
    (docstring : Text) : Run (Option (Page × List Text)) :=
  let page : Run (Page × List Text) := do
    let _ ← Document.read format? docstring
    let dedented ← Run.ofExcept (dedentAfterFirst docstring)
    ofLines name signature (splitLines dedented)
  ⟨page.notes, .ok page.result.toOption⟩

end Page
end DocTidy
