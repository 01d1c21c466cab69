import DocTidy.Text.Quoted

/-!
# Errors

Every way in which an operation can fail, as a cause.  `Error.message` is the one place that puts
causes into words.
-/

namespace DocTidy

inductive Error where
  /-- The lines do not begin with the kind of block that was asked for. -/
  | noMatch
  /-- A line was needed and none is left. -/
  | noLine
  /-- A line was expected to hold at least one character. -/
  | emptyLine
  /-- There was no line to scan, so no place to stop at. -/
  | nothingScanned
  /-- An indentation holds a tab, whose width is not known. -/
  | tabInIndent
  /-- A whole text came where its lines were expected. -/
  | unsplitText
  | notLines
  /-- Blocks of lines start at the margin. -/
  | indentedStart
  | noComma (line : Text)
  | tooFewParts (expected got : Nat)
  | tooManyParts (expected : Nat)
  /-- A block header whose title is not a known section. -/
  | unknownTitle (title : Text)
  /-- No reader takes anything off the lines. -/
  | unparsedLines (lines : List Text)
  /-- Links in a list can only be shown with something that resolves them. -/
  | noResolver
  /-- The block has no form for a page. -/
  | noPageForm
  /-- A section heading that no known title or alias matches. -/
  | unknownHeading (heading : Text)
  | returnsAndYields
  | receivesWithoutYields
  | repeatedSection (title docstring : Text)
  /-- A section was recorded before. -/
  | recordedTwice (title : Text)
  | badLink (line : Text)
  /-- A parameter name with a colon in it that cannot be divided into a name and a type. -/
  | undividedName (name : Text)
  /-- The code formatter gave up. -/
  | unformattedCode (code : Text)
  | noSection (title : Text)
  /-- A section of that title cannot be printed. -/
  | noPrinter (title : Text)
  | noSetting (name : Text)
  /-- Settings are required and there are none. -/
  | settingsRequired
  | noSettings
  | unreadableSettings
  /-- A value is of a kind that the operation cannot work on. -/
  | wrongKind
  /-- A value lacks a component that the operation asks for. -/
  | noComponent
  /-- The one name that the signature lacks is the empty one. -/
  | emptyName
  /-- A missing parameter is not exactly one argument of the signature. -/
  | notOneArgument (name : Text)
  /-- Nothing is left of a docstring. -/
  | nothingLeft
  /-- There is no list of names to pass over. -/
  | noSkipList
  | invalidSource
  /-- A pattern that starts by repeating nothing. -/
  | badPattern
  | noSectionHeader
  | unreadableOption
  | repeatedOption
  | repeatedSettingsSection
  | missingReference
  | badReference
  | deepReference
  | undecodableFile
  /-- The cause, met while reading the docstring of a function in a file. -/
  | reading (file function : Text) (cause : Error)
deriving Repr, DecidableEq

namespace Error

open Text

/-- The wording of an error. -/
def message : Error → Text
  | noMatch => "no such block here"
  | noLine => "a line is missing"
  | emptyLine => "a line is empty"
  | nothingScanned => "there are no lines"
  | tabInIndent => "tabs in the indentation"
  | unsplitText => "split please"
  | notLines => "not a list of lines"
  | indentedStart => "the first line is indented"
  | noComma line => line
  | tooFewParts expected got =>
    "not enough values to unpack (expected " ++ ofNat expected ++ ", got " ++ ofNat got ++ ")"
  | tooManyParts expected => "too many values to unpack (expected " ++ ofNat expected ++ ")"
  | unknownTitle title => quoted title
  | unparsedLines lines =>
    bracketed "(" ")" [quoted "nothign managed to parse", quotedList lines]
  | noResolver => "nothing resolves the links"
  | noPageForm => "the block cannot be shown on a page"
  | unknownHeading heading =>
    bracketed "(" ")" [quoted "Cound not find match for section:", quoted heading]
  | returnsAndYields => "Docstring contains both a Returns and Yields section."
  | receivesWithoutYields => "Docstring contains a Receives section but not Yields."
  | repeatedSection title docstring =>
    "The section " ++ title ++ " appears twice in  " ++ docstring
  | recordedTwice title => "section recorded twice: " ++ title
  | badLink line => "Error parsing See Also entry " ++ quoted line
  | undividedName name => name
  | unformattedCode code => "could not reformat:" ++ quoted code
  | noSection title => quoted title
  | noPrinter title => "no printer for section " ++ title
  | noSetting name => "no setting " ++ name
  | settingsRequired => "settings are required"
  | noSettings => "there are no settings"
  | unreadableSettings => "the settings cannot be read"
  | wrongKind => "a value of the wrong kind"
  | noComponent => "a component is missing"
  | emptyName => "an empty parameter name"
  | notOneArgument name => "not exactly one argument " ++ name
  | nothingLeft => "nothing is left of the docstring"
  | noSkipList => "no list of names to skip"
  | invalidSource => "invalid source"
  | badPattern => "nothing to repeat at position 0"
  | noSectionHeader => "the settings file has no section headers"
  | unreadableOption => "the settings file contains parsing errors"
  | repeatedOption => "an option appears twice in the settings file"
  | repeatedSettingsSection => "a section appears twice in the settings file"
  | missingReference => "a setting refers to an unknown option"
  | badReference => "a setting holds a stray percent sign"
  | deepReference => "settings refer to each other too deeply"
  | undecodableFile => "a file is not in UTF-8"
  | reading file function _ => "error in " ++ file ++ ":" ++ function

end Error
end DocTidy
