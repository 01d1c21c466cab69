import DocTidy.Cli.Usage
import DocTidy.Diff.Colour
import DocTidy.Diff.Unified
import DocTidy.FileTree
import DocTidy.Ini
import DocTidy.Pattern
import DocTidy.Source.Tidy

/-!
# The command

A run over a file tree: the files that a command line names are tidied one after the other, and
their changes are shown, written or listed.
-/

namespace DocTidy.Cli

open Text

/-- How a run ends. -/
inductive Exit where
  /-- There is nothing to report. -/
  | finished
  | status (code : Nat)
  /-- The run fails with a text for the user. -/
  | complaint (text : Text)
deriving Repr, DecidableEq

/-- What a run leaves behind. -/
structure Outcome where
  exit : Exit
  out : Text
  err : Text
  files : FileTree
deriving Repr, DecidableEq

/-! ## What is passed over -/

def settingsFile : Path := ["setup.cfg"]

/-- The patterns of the settings file, one a line. -/
def skipPatterns (tree : FileTree) : Except Error (List SkipPattern) :=
  match tree.content? settingsFile with
  | none => .ok []
  | some (.binary _) => .error .undecodableFile
  | some (.text t) => do
    let ini ← Ini.read (toNewlines t)
    let value ← ini.get? "velin" "ignore_patterns"
    let lines := ((value.getD []).splitOn '\n').filter fun l => !l.isEmpty
    lines.mapM fun l => SkipPattern.ofText (strip l)

/-! ## The files of a run -/

/-- The settings that options stand for. -/
def Options.settings (o : Options) : Settings :=
  { withPlaceholder := some o.withPlaceholder
    compactParam := o.compact
    spaceInSeeAlsoTitle := o.spaceInSeeAlsoTitle
    spaceInNotesTitle := o.spaceInNotesTitle
    runFixers := o.runFixers }

/-- How options go through a file. -/
def Options.tidier (o : Options) (format : CodeFormatter) : Source.Tidier :=
  { renewal := ⟨if o.formatCode then some format else none, o.settings, o.compact⟩
    checked := o.checked
    strict := o.strict }

/-- The files that a path of the command line stands for. -/
def filesOf (tree : FileTree) (path : Text) : List Path :=
  let p := Path.ofText path
  if tree.isDirectory p then tree.sourcesBelow p else [p]

/-- A change as it is shown. -/
def Options.shownChange (o : Options) (name old new : Text) : Text :=
  let diff := unlines (Diff.unified o.context name (splitLines old) (splitLines new))
  if o.colour then Diff.colour diff else diff

/-- The files, and the names of those that need work. -/
structure Session where
  tree : FileTree
  needWork : List Text
deriving Repr, DecidableEq

/-- Goes through one file. -/
def visit (matcher : Matcher) (o : Options) (format : CodeFormatter) (patterns : List SkipPattern)
    (s : Session) (file : Path) : Run Session := do
  let name := Path.toText file
  if ← Run.ofExcept (SkipPattern.skipsFile matcher name patterns) then
    Run.say ("ignoring " ++ name)
    return s
  else
    match s.tree.read? file with
    | none => return s
    | some source =>
      let objects ← Run.ofExcept (SkipPattern.objectsIn matcher name patterns)
      let tidied ← (o.tidier format).tidy (some objects) name source
      if tidied.text != source then
        if o.showDiff && !o.write then Run.say (o.shownChange name source tidied.text)
        return ⟨if o.write then s.tree.write file tidied.text else s.tree, s.needWork ++ [name]⟩
      else if tidied.needsWork then return { s with needWork := s.needWork ++ [name] }
      else return s

/-! ## Runs -/

/-- How a run ends that has gone through all files. -/
def Options.exit (o : Options) (needWork : List Text) : Exit :=
  if !o.check then .finished
  else if needWork.isEmpty then .status 0
  else
    .complaint ("Some files/functions need updates:\n - " ++ "\n - ".toList.intercalate needWork)

/-- Goes through the files that the options name. -/
def runOptions (matcher : Matcher) (o : Options) (format : CodeFormatter)
    (patterns : List SkipPattern) (tree : FileTree) : Run Outcome := do
  let s ← (o.paths.flatMap (filesOf tree)).foldlM (visit matcher o format patterns) ⟨tree, []⟩
  return ⟨o.exit s.needWork, [], [], s.tree⟩

/-- What becomes of a command line that asks for no run. -/
def Stop.outcome (stop : Stop) (tree : FileTree) : Outcome :=
  match stop with
  | .help => ⟨.status 0, helpText, [], tree⟩
  | .misuse cause => ⟨.status 2, [], misuseText cause, tree⟩

/-- Runs a command line on a file tree, with patterns that mean what the matcher says. -/
def runMatching (matcher : Matcher) (format : CodeFormatter) (args : List Text) (tree : FileTree) :
    Run Outcome := do
  let patterns ← Run.ofExcept (skipPatterns tree)
  match readArguments args with
  | .error stop => return stop.outcome tree
  | .ok o => runOptions matcher o format patterns tree

/-- Runs a command line on a file tree. -/
def run (format : CodeFormatter) (args : List Text) (tree : FileTree) : Run Outcome :=
  runMatching Pattern.matcher format args tree

end DocTidy.Cli
