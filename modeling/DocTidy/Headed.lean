/-!
# Headed runs

A list is cut into runs, each led by an item that counts as a head: lines into entries, paragraphs
into sections.
-/

namespace DocTidy

variable {α : Type}

/-- The items before the first head, and then every head with the items up to the next one. -/
def headedRuns (isHead : α → Bool) : List α → List α × List (α × List α)
  | [] => ([], [])
  | a :: rest =>
    let (run, groups) := headedRuns isHead rest
    if isHead a then ([], (a, run) :: groups) else (a :: run, groups)

/-- Nothing is lost and nothing moves. -/
theorem headedRuns_flatten (isHead : α → Bool) (l : List α) :
    (headedRuns isHead l).1 ++ ((headedRuns isHead l).2.map fun (a, run) => a :: run).flatten =
      l := by
  induction l with
  | nil => rfl
  | cons a rest ih => by_cases h : isHead a <;> simp [headedRuns, h, ih]

end DocTidy
