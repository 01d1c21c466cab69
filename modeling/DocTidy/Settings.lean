import DocTidy.Datum
import DocTidy.Error

/-!
# Settings

What the user can choose about the layout of sections.  Settings come as a table from names to
values; a name that the table lacks has a default, except for the placeholders.
-/

namespace DocTidy

open Text

structure Settings where
  /-- Placeholders are inserted for undocumented parameters.  There is no default. -/
  withPlaceholder : Option Bool := none
  /-- There is never a blank line between parameters. -/
  compactParam : Bool := true
  spaceInSeeAlsoTitle : Bool := false
  spaceInNotesTitle : Bool := false
  /-- Parameters are compared with the signature and corrected. -/
  runFixers : Bool := true
deriving Repr, DecidableEq

/-- Settings by name. -/
abbrev SettingTable := List (Text × Datum)

namespace SettingTable

/-- The settings that have a default. -/
def defaults : SettingTable :=
  [("compact_param", .bool true), ("space_in_see_also_title", .bool false),
   ("space_in_notes_title", .bool false), ("run_fixers", .bool true)]

/-- The default that a name with an underscore in front stands for. -/
def defaultOf? (name : Text) : Option Datum :=
  match name with
  | '_' :: r => defaults.lookup r
  | _ => none

/-- The value of a setting.  An underscore in front of a name asks for its default, and the whole
table can be asked for too. -/
def get (table : SettingTable) (name : Text) : Except Error Datum :=
  match defaultOf? name with
  | some v => .ok v
  | none =>
    if name == "_conf" then .ok (.object table)
    else
      match (table.lookup name).orElse fun _ => defaults.lookup name with
      | some v => .ok v
      | none => .error (.noSetting name)

/-- The value of a setting where there may be no table: only defaults can be asked for then. -/
def ask (table? : Option SettingTable) (name : Text) : Except Error Datum :=
  match table? with
  | some table => get table name
  | none =>
    match defaultOf? name with
    | some v => .ok v
    | none => if name == "_conf" then .ok .null else .error .unreadableSettings

/-- Whether a setting is on, if the table has it. -/
def flag? (table : SettingTable) (name : Text) : Option Bool :=
  (get table name).toOption.map fun v => !v.isEmpty

end SettingTable

def Settings.ofTable (table : SettingTable) : Settings :=
  { withPlaceholder := table.flag? "with_placeholder"
    compactParam := (table.flag? "compact_param").getD true
    spaceInSeeAlsoTitle := (table.flag? "space_in_see_also_title").getD false
    spaceInNotesTitle := (table.flag? "space_in_notes_title").getD false
    runFixers := (table.flag? "run_fixers").getD true }

end DocTidy
