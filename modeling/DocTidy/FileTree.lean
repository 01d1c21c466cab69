import DocTidy.Text.Lines

/-!
# File trees

The files below one directory, each under the names that lead to it.
-/

namespace DocTidy

open Text

/-- The names on the way to a file; a root, which is one slash or two, is the first of them. -/
abbrev Path := List Text

namespace Path

/-- The root that a text starts with.  Two slashes are a root of their own, and more than two are
as good as one. -/
def rootOf (t : Text) : Path :=
  if startsWith t "//" && !startsWith t "///" then ["//"]
  else if startsWith t "/" then ["/"]
  else []

/-- The name is a root. -/
def isRoot (name : Text) : Bool := startsWith name "/"

/-- Names divided by slashes; empty ones and single dots say nothing. -/
def ofText (t : Text) : Path :=
  rootOf t ++ (t.splitOn '/').filter fun n => !n.isEmpty && n != ['.']

def toText (p : Path) : Text :=
  match p with
  | [] => "."
  | first :: names =>
    if isRoot first then first ++ ['/'].intercalate names else ['/'].intercalate p

/-- The name leads back from where one is. -/
def leadsBack (here : Path) (name : Text) : Bool :=
  match here.getLast? with
  | some last => name == ".." && last != ".." && !isRoot last
  | none => false

/-- The way on from `here`, without the names that it comes back from. -/
def normalFrom (here : Path) : Path → Path
  | [] => here
  | name :: more =>
    normalFrom (if leadsBack here name then here.dropLast else here ++ [name]) more

/-- The directories that the way on from `here` enters and leaves again. -/
def detoursFrom (here : Path) : Path → List Path
  | [] => []
  | name :: more =>
    if leadsBack here name then here :: detoursFrom here.dropLast more
    else detoursFrom (here ++ [name]) more

def normal (p : Path) : Path := normalFrom [] p

def detours (p : Path) : List Path := detoursFrom [] p

end Path

/-- What a file holds: text, or bytes that are none. -/
inductive FileContent where
  | text (t : Text)
  | binary (bytes : List UInt8)
deriving Repr, DecidableEq

/-- The files below a directory. -/
abbrev FileTree := List (Path × FileContent)

namespace FileTree

/-- There is a directory at the end of the path.  One exists where a file is below it. -/
def hasDirectory (tree : FileTree) (path : Path) : Bool :=
  path.isEmpty || tree.any fun (p, _) => path.isPrefixOf p && path.length < p.length

/-- The place that a path leads to, if every directory that it leaves again exists. -/
def resolve? (tree : FileTree) (path : Path) : Option Path :=
  if path.detours.all tree.hasDirectory then some path.normal else none

def isDirectory (tree : FileTree) (path : Path) : Bool :=
  match tree.resolve? path with
  | some p => tree.hasDirectory p
  | none => false

def content? (tree : FileTree) (path : Path) : Option FileContent :=
  (tree.resolve? path).bind fun p => tree.lookup p

/-- The text of a file, if it has one; every line ends with a newline, whatever it ends with in
the file. -/
def read? (tree : FileTree) (path : Path) : Option Text :=
  match tree.content? path with
  | some (.text t) => some (toNewlines t)
  | _ => none

/-- The tree after a text has been written to a file. -/
def write (tree : FileTree) (path : Path) (t : Text) : FileTree :=
  match tree.resolve? path with
  | some file => tree.map fun (p, c) => (p, if p == file then .text t else c)
  | none => tree

/-- The paths that lead to a file or to a directory on the way to it. -/
def stations : Path → List Path
  | [] => []
  | name :: more => [name] :: (stations more).map (name :: ·)

/-- The paths of all files and directories below a directory, as seen from there. -/
def below (tree : FileTree) (directory : Path) : List Path :=
  let files := tree.filterMap fun (p, _) =>
    if directory.isPrefixOf p then some (p.drop directory.length) else none
  files.flatMap stations

/-- The sources below a directory, sorted by the names on the way to them. -/
def sourcesBelow (tree : FileTree) (path : Path) : List Path :=
  match tree.resolve? path with
  | none => []
  | some directory =>
    let isSource (p : Path) : Bool := endsWith (p.getLast?.getD []) ".py"
    let found := ((tree.below directory).filter isSource).eraseDups
    (found.mergeSort fun p q => !List.lex q p isBefore).map (path ++ ·)

end FileTree
end DocTidy
