import DocTidy.Cli.Command

/-!
# The program

Loads the files that a command line names, runs the command on them, and writes back those that
have changed.
-/

namespace DocTidy.Cli

/-- The content of a file, if it can be read. -/
def load? (name : String) : IO (Option FileContent) := do
  try
    let bytes ← IO.FS.readBinFile name
    match String.fromUTF8? bytes with
    | some s => return some (.text s.toList)
    | none => return some (.binary bytes.toList)
  catch _ => return none

/-- The files at a path, or below it if it is a directory; directories are entered down to a
`depth`. -/
def loadBelow (depth : Nat) (path : Path) : IO FileTree := do
  let name := String.ofList (Path.toText path)
  match ← load? name with
  | some content => return [(path, content)]
  | none =>
    match depth with
    | 0 => return []
    | depth + 1 =>
      let here ← IO.currentDir
      let entries ← try (here / name).readDir catch _ => pure #[]
      let trees ← entries.toList.mapM fun e => loadBelow depth (path ++ [e.fileName.toList])
      return trees.flatten

/-- How deep directories are entered. -/
def maxDirectoryDepth : Nat := 100

/-- The files that a command line can ask for: the settings, those at its paths, and those on the
way to them. -/
def loadTree (args : List Text) : IO FileTree := do
  let paths := match readArguments args with
    | .ok o => o.paths.map Path.ofText
    | .error _ => []
  let places := paths.flatMap fun p => p.normal :: p.detours
  let trees ← (settingsFile :: places).mapM (loadBelow maxDirectoryDepth)
  return trees.flatten.eraseDups

/-- Writes the files that differ from what was loaded. -/
def store (old new : FileTree) : IO Unit :=
  (old.zip new).forM fun ((_, before), (path, after)) =>
    match after with
    | .text t =>
      if before = after then pure ()
      else IO.FS.writeFile (String.ofList (Path.toText path)) (String.ofList t)
    | .binary _ => pure ()

def printNote (n : Note) : IO Unit :=
  match n with
  | .said t => IO.println (String.ofList t)
  | .warned t => IO.eprintln (String.ofList t)
  | .failed e => IO.println (String.ofList e.message)

/-- There is no code formatter at hand, so no example code can be formatted. -/
def noFormatter : CodeFormatter := fun _ => none

/-- Runs a command line on the files of the current directory; the result is the exit status. -/
def runFiles (args : List Text) : IO UInt32 := do
  let tree ← loadTree args
  let r := run noFormatter args tree
  r.notes.forM printNote
  match r.result with
  | .error e =>
    IO.eprintln (String.ofList e.message)
    return 1
  | .ok o =>
    store tree o.files
    IO.print (String.ofList o.out)
    IO.eprint (String.ofList o.err)
    match o.exit with
    | .finished => return 0
    | .status code => return UInt32.ofNat code
    | .complaint t =>
      IO.eprintln (String.ofList t)
      return 1

end DocTidy.Cli

def main (args : List String) : IO UInt32 := DocTidy.Cli.runFiles (args.map String.toList)
