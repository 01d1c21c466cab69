import DocTidy.Error
import DocTidy.Text.LowerCase

/-!
# Settings files

A settings file has sections with a title in brackets, and options in them.  The value of an
option may go on on further lines that are indented more.  Options in the section `DEFAULT` hold
for all sections, and a value can refer to another one by `%(name)s`.
-/

namespace DocTidy

open Text

/-- A settings file. -/
structure Ini where
  /-- The titles of the sections, without that of the defaults. -/
  titles : List Text
  /-- The lines of every value, by the title of its section and the name of its option. -/
  values : List ((Text × Text) × List Text)
deriving Repr, DecidableEq

namespace Ini

/-- The title of the section whose options hold everywhere. -/
def defaultTitle : Text := "DEFAULT"

/-! ## Reading -/

/-- What is known when some lines have been read. -/
structure Reader where
  ini : Ini
  /-- The section that the next option belongs to. -/
  title? : Option Text
  /-- The option that an indented line adds to. -/
  option? : Option Text
  /-- How far the last line that was not added to an option is indented. -/
  indent : Nat
  /-- A line was neither a title nor an option. -/
  hasBadLine : Bool

namespace Reader

def start : Reader := ⟨⟨[], []⟩, none, none, 0, false⟩

def isComment (line : Text) : Bool :=
  let line := stripLeft line
  startsWith line "#" || startsWith line ";"

/-- The title in a line: what stands between its brackets. -/
def titleIn? (line : Text) : Option Text :=
  match line with
  | '[' :: r =>
    let title := (dropEndWhile (· != ']') r).dropLast
    if title.isEmpty then none else some title
  | _ => none

/-- The name and the value of an option, divided by an equals sign or a colon. -/
def optionIn? (line : Text) : Option (Text × Text) :=
  let isDivider (c : Char) : Bool := c == '=' || c == ':'
  match line.dropWhile fun c => !isDivider c with
  | [] => none
  | _ :: value => some (stripRight (line.takeWhile fun c => !isDivider c), strip value)

/-- Adds a line to the value of the open option. -/
def extend (r : Reader) (line : Text) : Reader :=
  match r.title?, r.option? with
  | some title, some option =>
    let values := r.ini.values.map fun (key, lines) =>
      (key, if key == (title, option) then lines ++ [line] else lines)
    { r with ini := { r.ini with values } }
  | _, _ => r

def openSection (r : Reader) (title : Text) : Except Error Reader :=
  if r.ini.titles.contains title then .error .repeatedSettingsSection
  else
    let titles := if title == defaultTitle then r.ini.titles else r.ini.titles ++ [title]
    .ok { r with ini := { r.ini with titles }, title? := some title, option? := none }

def addOption (r : Reader) (title name value : Text) : Except Error Reader :=
  let name := lowerCase name
  if (r.ini.values.lookup (title, name)).isSome then .error .repeatedOption
  else
    .ok { r with
      ini := { r.ini with values := r.ini.values ++ [((title, name), [value])] }
      option? := if name.isEmpty then none else some name
      hasBadLine := r.hasBadLine || name.isEmpty }

/-- Reads a line. -/
def step (r : Reader) (line : Text) : Except Error Reader :=
  let content := strip line
  let indent := (line.takeWhile isSpace).length
  if isComment line then .ok r
  else if content.isEmpty then .ok (r.extend [])
  else if r.option?.isSome && r.indent < indent then .ok (r.extend content)
  else
    let r := { r with indent }
    match titleIn? content, r.title? with
    | some title, _ => r.openSection title
    | none, none => .error .noSectionHeader
    | none, some title =>
      match optionIn? content with
      | some (name, value) => r.addOption title name value
      | none => .ok { r with hasBadLine := true }

end Reader

/-- Reads a settings file. -/
def read (t : Text) : Except Error Ini := do
  let r ← (t.splitOn '\n').foldlM Reader.step Reader.start
  if r.hasBadLine then .error .unreadableOption else .ok r.ini

/-! ## References -/

/-- A part of a value: text, the value of another option, or a percent sign that means nothing. -/
inductive Part where
  | plain (c : Char)
  | reference (name : Text)
  | stray
deriving Repr, DecidableEq

/-- The parts of a value, up to the first percent sign that means nothing.  Every part takes a
character, so as much `fuel` as there are characters is enough. -/
def parts : Nat → Text → List Part
  | 0, _ => []
  | _ + 1, [] => []
  | fuel + 1, '%' :: '%' :: r => .plain '%' :: parts fuel r
  | fuel + 1, '%' :: '(' :: r =>
    let name := r.takeWhile (· != ')')
    match r.dropWhile (· != ')') with
    | ')' :: 's' :: rest =>
      if name.isEmpty then [.stray] else .reference name :: parts fuel rest
    | _ => [.stray]
  | _ + 1, '%' :: _ => [.stray]
  | fuel + 1, c :: r => .plain c :: parts fuel r

/-- The text of a value; `depth` bounds how far references are followed. -/
def expand (value? : Text → Option Text) : Nat → Text → Except Error Text
  | 0, _ => .error .deepReference
  | depth + 1, t => do
    let texts ← (parts t.length t).mapM fun part =>
      match part with
      | .plain c => .ok [c]
      | .stray => .error .badReference
      | .reference name =>
        match value? (lowerCase name) with
        | none => .error .missingReference
        | some v => if v.contains '%' then expand value? depth v else .ok v
    return texts.flatten

/-- How far references are followed. -/
def maxDepth : Nat := 10

/-! ## Asking -/

/-- The value of an option as it is written, in its section or among the defaults. -/
def written? (ini : Ini) (title name : Text) : Option Text :=
  ((ini.values.lookup (title, name)).orElse fun _ => ini.values.lookup (defaultTitle, name)).map
    fun lines => stripRight (unlines lines)

/-- The value of an option, if the file has the section and the option. -/
def get? (ini : Ini) (title name : Text) : Except Error (Option Text) :=
  if ini.titles.contains title then
    match ini.written? title name with
    | some v => (expand (ini.written? title) maxDepth v).map some
    | none => .ok none
  else .ok none

end Ini
end DocTidy
