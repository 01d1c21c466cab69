import DocTidy.Text.Basic

/-!
# Matching lines

The lines that an old and a new text share: the longest run that both have, then the longest runs
on either side of it, and so on.  Of runs of one length the first in the old text counts, and of
those the first in the new text.
-/

namespace DocTidy.Diff

/-- A run of lines that both texts have: where it starts in each, and its length. -/
structure Match where
  old : Nat
  new : Nat
  size : Nat
deriving Repr, DecidableEq

/-- A part of both texts: the lines from a start up to a stop, in each. -/
structure Window where
  oldStart : Nat
  oldStop : Nat
  newStart : Nat
  newStop : Nat
deriving Repr, DecidableEq

/-- The items from a start up to a stop. -/
def between {α : Type} (start stop : Nat) (items : List α) : List α :=
  (items.take stop).drop start

/-- The places at which a line stands, counted from `n`. -/
def placesFrom (line : Text) : Nat → List Text → List Nat
  | _, [] => []
  | n, l :: r => if l == line then n :: placesFrom line (n + 1) r else placesFrom line (n + 1) r

/-- In a long text no run is looked for through a line that is this frequent. -/
def isPopular (lines count : Nat) : Bool := 200 ≤ lines && lines / 100 + 1 < count

/-- The places in the new text at which a run through the line can be looked for. -/
def anchors (new : List Text) (line : Text) : List Nat :=
  let places := placesFrom line 0 new
  if isPopular new.length places.length then [] else places

/-- How long the runs are that end with one line of the old text, each with the place behind it in
the new text; `before` says so for the line before. -/
def runsAt (w : Window) (before : List (Nat × Nat)) (places : List Nat) : List (Nat × Nat) :=
  (places.filter fun j => w.newStart ≤ j && j < w.newStop).map fun j =>
    (j + 1, (before.lookup j).getD 0 + 1)

/-- The longer of a run and one that ends with line `i`. -/
def longer (i : Nat) (best : Match) (run : Nat × Nat) : Match :=
  if best.size < run.2 then ⟨i + 1 - run.2, run.1 - run.2, run.2⟩ else best

/-- The longest run that ends in one of the lines from `i` on, whose anchors are given. -/
def longestFrom (w : Window) : Nat → List (Nat × Nat) → Match → List (List Nat) → Match
  | _, _, best, [] => best
  | i, before, best, places :: rest =>
    let runs := runsAt w before places
    longestFrom w (i + 1) runs (runs.foldl (longer i) best) rest

/-- How many items two lists start with in common. -/
def commonLength : List Text → List Text → Nat
  | a :: s, b :: t => if a == b then commonLength s t + 1 else 0
  | _, _ => 0

/-- Extends a run on both sides as far as the lines agree. -/
def extend (old new : List Text) (w : Window) (m : Match) : Match :=
  let back := commonLength (between w.oldStart m.old old).reverse
    (between w.newStart m.new new).reverse
  let forth := commonLength (between (m.old + m.size) w.oldStop old)
    (between (m.new + m.size) w.newStop new)
  ⟨m.old - back, m.new - back, back + m.size + forth⟩

/-- The longest run in a window. -/
def longest (old new : List Text) (rows : List (List Nat)) (w : Window) : Match :=
  let none : Match := ⟨w.oldStart, w.newStart, 0⟩
  extend old new w (longestFrom w w.oldStart [] none (between w.oldStart w.oldStop rows))

/-- The runs in a window, in order.  Every step narrows the window in the old text, so as much
`fuel` as that has lines is enough. -/
def matchesIn (old new : List Text) (rows : List (List Nat)) : Nat → Window → List Match
  | 0, _ => []
  | fuel + 1, w =>
    let m := longest old new rows w
    if m.size = 0 then []
    else
      let left :=
        if w.oldStart < m.old && w.newStart < m.new then
          matchesIn old new rows fuel { w with oldStop := m.old, newStop := m.new }
        else []
      let right :=
        if m.old + m.size < w.oldStop && m.new + m.size < w.newStop then
          matchesIn old new rows fuel
            { w with oldStart := m.old + m.size, newStart := m.new + m.size }
        else []
      left ++ m :: right

/-- Joins runs that follow one another without a gap. -/
def joinAdjacent : List Match → List Match
  | [] => []
  | m :: rest =>
    match joinAdjacent rest with
    | [] => [m]
    | next :: more =>
      if m.old + m.size = next.old && m.new + m.size = next.new then
        ⟨m.old, m.new, m.size + next.size⟩ :: more
      else m :: next :: more

/-- The runs of lines that two texts share. -/
def matching (old new : List Text) : List Match :=
  joinAdjacent (matchesIn old new (old.map (anchors new)) (old.length + 1)
    ⟨0, old.length, 0, new.length⟩)

end DocTidy.Diff
