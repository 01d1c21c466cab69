import DocTidy.Text.Basic

/-!
# Sections

The sections a docstring can have, their titles, and how a heading is matched with a title.
-/

namespace DocTidy

inductive Section where
  | signature
  | summary
  | extendedSummary
  | parameters
  | returns
  | yields
  | receives
  | raises
  | warns
  | otherParameters
  | attributes
  | methods
  | seeAlso
  | notes
  | warnings
  | references
  | examples
  | index
deriving Repr, DecidableEq

namespace Section

open Text

/-- All sections, in the order in which headings are matched with them. -/
def all : List Section :=
  [signature, summary, extendedSummary, parameters, returns, yields, receives, raises, warns,
   otherParameters, attributes, methods, seeAlso, notes, warnings, references, examples, index]

def title : Section → Text
  | signature => "Signature"
  | summary => "Summary"
  | extendedSummary => "Extended Summary"
  | parameters => "Parameters"
  | returns => "Returns"
  | yields => "Yields"
  | receives => "Receives"
  | raises => "Raises"
  | warns => "Warns"
  | otherParameters => "Other Parameters"
  | attributes => "Attributes"
  | methods => "Methods"
  | seeAlso => "See Also"
  | notes => "Notes"
  | warnings => "Warnings"
  | references => "References"
  | examples => "Examples"
  | index => "index"

def ofTitle? (t : Text) : Option Section := all.find? fun s => s.title == t

/-- Other words for a section, in lower case. -/
def aliases : List (Section × List Text) :=
  [(parameters,
     ["options", "parameter", "parameters", "paramters", "parmeters", "paramerters", "arguments",
      "args"]),
   (attributes, ["properties"]),
   (yields, ["signals"])]

/-- The section that a heading means: the one of that title, else the first whose title it
abbreviates, in any case and with any colons behind it, else the one it is an alias of.  ASCII
case is enough, because no other letter turns into one of a title or an alias. -/
def ofHeading? (heading : Text) : Option Section :=
  let short := toLower (dropEndWhile (· == ':') heading)
  (ofTitle? heading).orElse fun _ =>
    (all.find? fun s => startsWith (toLower s.title) short).orElse fun _ =>
      (aliases.find? fun (_, words) => words.contains (toLower heading)).map (·.1)

/-- The name under which a section of a docstring is recorded: its title, every word capitalised. -/
def recordName : Section → Text
  | index => "Index"
  | s => s.title

/-- How the lines of a section are read. -/
inductive Layout where
  /-- Lines as they stand. -/
  | lines
  /-- Parameters; `soleType` says that a lone word is a type and not a name. -/
  | params (soleType : Bool)
  /-- Links to other functions. -/
  | links
deriving Repr, DecidableEq

def layout : Section → Layout
  | parameters | otherParameters | attributes | methods => .params false
  | returns | yields | raises | warns | receives => .params true
  | seeAlso => .links
  | _ => .lines

end Section
end DocTidy
