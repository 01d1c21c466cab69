import DocTidy.Text.Quoted

/-!
# Data

The values that documents and settings are exchanged as.
-/

namespace DocTidy

inductive Datum where
  | null
  | bool (b : Bool)
  | int (n : Int)
  | text (t : Text)
  | list (items : List Datum)
  | object (entries : List (Text × Datum))
deriving Inhabited

namespace Datum

/-- A value counts as empty when it is null, false, zero, or holds nothing. -/
def isEmpty : Datum → Bool
  | null => true
  | bool b => !b
  | int n => n == 0
  | text t => List.isEmpty t
  | list items => List.isEmpty items
  | object entries => List.isEmpty entries

def texts (ts : List Text) : Datum := list (ts.map text)

def asText? : Datum → Option Text
  | text t => some t
  | _ => none

def asTexts? : Datum → Option (List Text)
  | list items => items.mapM asText?
  | _ => none

mutual

/-- Compares two values part by part. -/
def same : Datum → Datum → Bool
  | null, null => true
  | bool a, bool b => a == b
  | int a, int b => a == b
  | text s, text t => s == t
  | list as, list bs => sameItems as bs
  | object as, object bs => sameEntries as bs
  | _, _ => false

def sameItems : List Datum → List Datum → Bool
  | [], [] => true
  | a :: as, b :: bs => same a b && sameItems as bs
  | _, _ => false

def sameEntries : List (Text × Datum) → List (Text × Datum) → Bool
  | [], [] => true
  | (k, a) :: as, (l, b) :: bs => k == l && same a b && sameEntries as bs
  | _, _ => false

end

mutual

/-- A value written out. -/
def shown : Datum → Text
  | null => "None"
  | bool b => if b then "True" else "False"
  | int n => (toString n).toList
  | text t => Text.quoted t
  | list items => Text.bracketed "[" "]" (shownItems items)
  | object entries => Text.quotedEntries (shownEntries entries)

def shownItems : List Datum → List Text
  | [] => []
  | d :: ds => shown d :: shownItems ds

def shownEntries : List (Text × Datum) → List (Text × Text)
  | [] => []
  | (key, d) :: entries => (key, shown d) :: shownEntries entries

end

/-- What a value consists of: items, characters or keys. -/
def parts? : Datum → Option (List Datum)
  | list items => some items
  | text t => some (t.map fun c => text [c])
  | object entries => some (entries.map fun (key, _) => text key)
  | _ => none

end Datum
end DocTidy
