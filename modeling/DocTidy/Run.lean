import DocTidy.Error

/-!
# Runs

A run is an operation's outcome together with the notes it took on the way.  The notes of a run
that fails are kept.
-/

namespace DocTidy

/-- What an operation says on the way. -/
inductive Note where
  /-- A line for the user. -/
  | said (text : Text)
  /-- A warning about the input. -/
  | warned (text : Text)
  /-- An error that the operation got over. -/
  | failed (error : Error)
deriving Repr, DecidableEq

/-- The notes of an operation and its outcome. -/
structure Run (α : Type) where
  notes : List Note
  result : Except Error α

namespace Run

variable {α β : Type}

/-- Goes on with `f` unless `x` failed; the notes follow one another. -/
def andThen (x : Run α) (f : α → Run β) : Run β :=
  match x.result with
  | .ok a =>
    let next := f a
    ⟨x.notes ++ next.notes, next.result⟩
  | .error e => ⟨x.notes, .error e⟩

instance : Monad Run where
  pure a := ⟨[], .ok a⟩
  bind := andThen

def fail (e : Error) : Run α := ⟨[], .error e⟩

def ofExcept (r : Except Error α) : Run α := ⟨[], r⟩

def say (text : Text) : Run Unit := ⟨[.said text], .ok ()⟩

def warn (text : Text) : Run Unit := ⟨[.warned text], .ok ()⟩

/-- On failure, takes the notes of `after` too and stays failed. -/
def onFailure (x : Run α) (after : List Note) : Run α :=
  match x.result with
  | .ok _ => x
  | .error e => ⟨x.notes ++ after, .error e⟩

/-- The warnings among the notes, each once, in the order of their first appearance. -/
def warnings (notes : List Note) : List Text :=
  (notes.filterMap fun n => match n with | .warned t => some t | _ => none).eraseDups

@[simp] theorem andThen_ok (notes : List Note) (a : α) (f : α → Run β) :
    (⟨notes, .ok a⟩ : Run α).andThen f = ⟨notes ++ (f a).notes, (f a).result⟩ := rfl

@[simp] theorem andThen_error (notes : List Note) (e : Error) (f : α → Run β) :
    (⟨notes, .error e⟩ : Run α).andThen f = ⟨notes, .error e⟩ := rfl

end Run
end DocTidy
