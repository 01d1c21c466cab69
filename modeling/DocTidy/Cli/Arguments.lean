import DocTidy.Text.Digit
import DocTidy.Text.Quoted

/-!
# Arguments

What the words of a command line ask for.  A word with a dash in front is an option, by its name or
by any start of it that no other option has; all other words are paths, and so are all words
behind two dashes.
-/

namespace DocTidy.Cli

open Text

/-- What a command line asks for. -/
structure Options where
  paths : List Text := []
  /-- How many unchanged lines a diff shows around a change. -/
  context : Int := 3
  /-- Every docstring is renewed a second time, as a safeguard. -/
  checked : Bool := true
  /-- The run ends by listing the files that need work. -/
  check : Bool := false
  showDiff : Bool := true
  /-- Example code is formatted. -/
  formatCode : Bool := false
  withPlaceholder : Bool := false
  colour : Bool := true
  compact : Bool := false
  /-- The first docstring that cannot be renewed stops the run. -/
  strict : Bool := true
  spaceInSeeAlsoTitle : Bool := false
  spaceInNotesTitle : Bool := false
  runFixers : Bool := true
  write : Bool := false
  verbose : Bool := false
deriving Repr, DecidableEq

inductive Flag where
  | help
  | context
  | unchecked
  | check
  | noDiff
  | formatCode
  | withPlaceholder
  | noColour
  | compact
  | noFail
  | spaceInSeeAlsoTitle
  | spaceInNotesTitle
  | noFixers
  | write
  | verbose
deriving Repr, DecidableEq

namespace Flag

def all : List Flag :=
  [help, context, unchecked, check, noDiff, formatCode, withPlaceholder, noColour, compact, noFail,
   spaceInSeeAlsoTitle, spaceInNotesTitle, noFixers, write, verbose]

def names : Flag → List Text
  | help => ["-h", "--help"]
  | context => ["--context"]
  | unchecked => ["--unsafe"]
  | check => ["--check"]
  | noDiff => ["--no-diff"]
  | formatCode => ["--black"]
  | withPlaceholder => ["--with-placeholder"]
  | noColour => ["--no-color"]
  | compact => ["--compact"]
  | noFail => ["--no-fail"]
  | spaceInSeeAlsoTitle => ["--space-in-see-also-title"]
  | spaceInNotesTitle => ["--space-in-notes-title"]
  | noFixers => ["--no-fixers"]
  | write => ["--write"]
  | verbose => ["--verbose"]

/-- Every name with its option. -/
def byName : List (Text × Flag) := all.flatMap fun f => f.names.map fun n => (n, f)

def shown (f : Flag) : Text := ['/'].intercalate f.names

/-- The options with a flag set.  Help and context are not flags that can be set. -/
def set (f : Flag) (o : Options) : Options :=
  match f with
  | help | context => o
  | unchecked => { o with checked := false }
  | check => { o with check := true }
  | noDiff => { o with showDiff := false }
  | formatCode => { o with formatCode := true }
  | withPlaceholder => { o with withPlaceholder := true }
  | noColour => { o with colour := false }
  | compact => { o with compact := true }
  | noFail => { o with strict := false }
  | spaceInSeeAlsoTitle => { o with spaceInSeeAlsoTitle := true }
  | spaceInNotesTitle => { o with spaceInNotesTitle := true }
  | noFixers => { o with runFixers := false }
  | write => { o with write := true }
  | verbose => { o with verbose := true }

end Flag

/-- What is wrong with a command line. -/
inductive Misuse where
  | ambiguous (word : Text) (names : List Text)
  | unwantedValue (flag : Flag) (value : Text)
  | noValue (flag : Flag)
  | notANumber (flag : Flag) (value : Text)
  | noPath
  | unknown (words : List Text)
deriving Repr, DecidableEq

namespace Misuse

def message : Misuse → Text
  | ambiguous word names =>
    "ambiguous option: " ++ word ++ " could match " ++ [',', ' '].intercalate names
  | unwantedValue flag value =>
    "argument " ++ flag.shown ++ ": ignored explicit argument " ++ quoted value
  | noValue flag => "argument " ++ flag.shown ++ ": expected one argument"
  | notANumber flag value => "argument " ++ flag.shown ++ ": invalid int value: " ++ quoted value
  | noPath => "the following arguments are required: path"
  | unknown words => "unrecognized arguments: " ++ [' '].intercalate words

end Misuse

/-- Why a command line asks for no run. -/
inductive Stop where
  | help
  | misuse (cause : Misuse)
deriving Repr, DecidableEq

/-! ## Words -/

/-- A value that a word gives to its option: behind an equals sign, or right behind the name. -/
structure Value where
  equals : Bool
  text : Text
deriving Repr, DecidableEq

inductive Word where
  | path (t : Text)
  | dashes
  | option (flag : Flag) (value? : Option Value)
  | unknown (t : Text)
deriving Repr, DecidableEq

/-- The word looks like a negative number.  A newline at its end does not matter. -/
def isNegativeNumber (word : Text) : Bool :=
  match if endsWith word "\n" then word.dropLast else word with
  | '-' :: r =>
    match r.dropWhile isDecimalDigit with
    | [] => !r.isEmpty
    | '.' :: places => !places.isEmpty && places.all isDecimalDigit
    | _ => false
  | _ => false

/-- A word that holds an equals sign, divided at the first one. -/
def cutValue (word : Text) : Text × Option Value :=
  match cutAt? "=" word with
  | some (name, value) => (name, some ⟨true, value⟩)
  | none => (word, none)

/-- The options that a word can stand for, each with its name and value: those whose name starts
with it, and the one of a single letter that it starts with. -/
def candidates (word : Text) : List (Text × Flag × Option Value) :=
  if startsWith word "--" then
    let (start, value?) := cutValue word
    (Flag.byName.filter fun (name, _) => startsWith name start).map fun (name, flag) =>
      (name, flag, value?)
  else
    Flag.byName.filterMap fun (name, flag) =>
      if name == word.take 2 then some (name, flag, some ⟨false, word.drop 2⟩)
      else if startsWith name word then some (name, flag, none)
      else none

/-- What a word is. -/
def wordOf (t : Text) : Except Stop Word :=
  if !startsWith t "-" || t == "-" then .ok (.path t)
  else
    match Flag.byName.lookup t, Flag.byName.lookup (cutValue t).1, candidates t with
    | some flag, _, _ => .ok (.option flag none)
    | none, some flag, _ => .ok (.option flag (cutValue t).2)
    | none, none, [(_, flag, value?)] => .ok (.option flag value?)
    | none, none, [] => .ok (if isNegativeNumber t || t.contains ' ' then .path t else .unknown t)
    | none, none, found => .error (.misuse (.ambiguous t (found.map (·.1))))

/-- What the words are; behind two dashes all are paths. -/
def wordsOf : List Text → Except Stop (List Word)
  | [] => .ok []
  | t :: rest =>
    if t == "--" then .ok (.dashes :: rest.map .path)
    else do return (← wordOf t) :: (← wordsOf rest)

/-! ## Reading the words -/

/-- The number that digits stand for, with single underscores between them. -/
def digitsValue? (value : Nat) : Text → Option Nat
  | [] => some value
  | '_' :: d :: r => (digitValue? d).bind fun n => digitsValue? (value * 10 + n) r
  | d :: r => (digitValue? d).bind fun n => digitsValue? (value * 10 + n) r

/-- A whole number with or without a sign, and with white space around it other than the record
separators. -/
def intOf? (t : Text) : Option Int :=
  let isBlank (c : Char) : Bool := isSpace c && !('\x1c' ≤ c && c ≤ '\x1f')
  let natOf? (t : Text) : Option Nat :=
    match t with
    | d :: _ => if isDecimalDigit d then digitsValue? 0 t else none
    | [] => none
  match dropEndWhile isBlank (t.dropWhile isBlank) with
  | '-' :: r => (natOf? r).map fun n => -(n : Int)
  | '+' :: r => (natOf? r).map Int.ofNat
  | r => (natOf? r).map Int.ofNat

/-- What is known when some words have been read. -/
structure Progress where
  options : Options
  /-- The paths, once there are some. -/
  paths? : Option (List Text)
  /-- The words that were read since the last option. -/
  run : List Word
  /-- The words that mean nothing. -/
  unknown : List Text

namespace Progress

def start : Progress := ⟨{}, none, [], []⟩

def textOf : Word → Text
  | .path t | .unknown t => t
  | .dashes => "--"
  | .option flag _ => flag.shown

/-- Ends a run of paths: the first one that holds any has the paths, the others mean nothing. -/
def endRun (p : Progress) : Progress :=
  let paths := p.run.filterMap fun w => match w with | .path t => some t | _ => none
  if p.paths?.isNone && !paths.isEmpty then { p with paths? := some paths, run := [] }
  else { p with run := [], unknown := p.unknown ++ p.run.map textOf }

/-- Help takes no value, but other letters right behind its own are read as further options. -/
def askHelp (equals : Bool) : Text → Stop
  | [] => .misuse (.unwantedValue .help [])
  | 'h' :: [] => if equals then .misuse (.unwantedValue .help ['h']) else .help
  | 'h' :: '=' :: r =>
    if equals then .misuse (.unwantedValue .help ('h' :: '=' :: r)) else askHelp true r
  | 'h' :: r => if equals then .misuse (.unwantedValue .help ('h' :: r)) else askHelp false r
  | c :: r => if equals || c == '-' then .misuse (.unwantedValue .help (c :: r)) else .help

/-- Takes an option with its value. -/
def takeOption (p : Progress) (flag : Flag) (value? : Option Value) : Except Stop Progress :=
  match flag, value? with
  | .help, none => .error .help
  | .help, some v => .error (askHelp v.equals v.text)
  | .context, none => .error (.misuse (.noValue .context))
  | .context, some v =>
    match intOf? v.text with
    | some n => .ok { p with options := { p.options with context := n } }
    | none => .error (.misuse (.notANumber .context v.text))
  | flag, some v => .error (.misuse (.unwantedValue flag v.text))
  | flag, none => .ok { p with options := flag.set p.options }

/-- Reads the words. -/
def read (p : Progress) : List Word → Except Stop Progress
  | [] => .ok p.endRun
  | .option .context none :: .path value :: rest => do
    let p ← p.endRun.takeOption .context (some ⟨true, value⟩)
    read p rest
  | .option flag value? :: rest => do
    let p ← p.endRun.takeOption flag value?
    read p rest
  | .unknown t :: rest =>
    let p := p.endRun
    read { p with unknown := p.unknown ++ [t] } rest
  | w :: rest => read { p with run := p.run ++ [w] } rest

end Progress

/-- What a command line asks for. -/
def readArguments (args : List Text) : Except Stop Options := do
  let p ← Progress.start.read (← wordsOf args)
  match p.paths?, p.unknown with
  | none, _ => .error (.misuse .noPath)
  | some paths, [] => .ok { p.options with paths }
  | some _, unknown => .error (.misuse (.unknown unknown))

end DocTidy.Cli
