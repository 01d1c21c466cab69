import DocTidy.Cli.Arguments

/-!
# Usage

What is printed when a command line asks for help, or is wrong.
-/

namespace DocTidy.Cli

open Text

def usageLines : List Text :=
  ["usage: velin [-h] [--context context] [--unsafe] [--check] [--no-diff]",
   "             [--black] [--with-placeholder] [--no-color] [--compact]",
   "             [--no-fail] [--space-in-see-also-title] [--space-in-notes-title]",
   "             [--no-fixers] [--write] [--verbose]",
   "             path [path ...]"]

def helpLines : List Text :=
  usageLines ++ List.map String.toList
    ["",
     "reformat the docstrigns of some file",
     "",
     "positional arguments:",
     "  path                  Files or folder to reformat",
     "",
     "options:",
     "  -h, --help            show this help message and exit",
     "  --context context     Number of context lines in the diff",
     "  --unsafe              Lift some safety feature (don't fail if updating the",
     "                        docstring is not indempotent",
     "  --check               Print the list of files/lines number and exit with a",
     "                        non-0 exit status, Use it for CI.",
     "  --no-diff             Do not print the diff",
     "  --black               Do not run black on examples",
     "  --with-placeholder    insert missing sections/parameters placehoders",
     "  --no-color",
     "  --compact             Please ignore",
     "  --no-fail",
     "  --space-in-see-also-title",
     "  --space-in-notes-title",
     "  --no-fixers           try to only reformat and does not run fixers",
     "                        heuristics",
     "  --write               Try to write the updated docstring to the files",
     "  --verbose             increase the verbosity of the output"]

/-- Lines that each end with a newline. -/
def ended (ls : List Text) : Text := ls.flatMap fun l => l ++ ['\n']

def helpText : Text := ended helpLines

/-- What is said about a wrong command line. -/
def misuseText (cause : Misuse) : Text :=
  ended (usageLines ++ [String.toList "velin: error: " ++ cause.message])

end DocTidy.Cli
