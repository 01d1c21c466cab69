import DocTidy.Diff.Matching
import DocTidy.Error

/-!
# Unified diffs

What changed between two texts, line by line, with some lines of context around every change.
-/

namespace DocTidy.Diff

open Text

/-- A range of lines, from a start up to a stop.  A negative amount of context can make the stop
come before the start. -/
structure Span where
  start : Int
  stop : Int
deriving Repr, DecidableEq

namespace Span

def length (s : Span) : Int := s.stop - s.start

/-- The first lines of a range. -/
def first (n : Int) (s : Span) : Span := ⟨s.start, min s.stop (s.start + n)⟩

/-- The last lines of a range. -/
def last (n : Int) (s : Span) : Span := ⟨max s.start (s.stop - n), s.stop⟩

/-- The place that a number stands for among `count` items; negative ones count from the end. -/
def place (count : Nat) (i : Int) : Nat := (if i < 0 then i + count else i).toNat

/-- The lines of a range. -/
def lines (s : Span) (all : List Text) : List Text :=
  between (place all.length s.start) (place all.length s.stop) all

/-- A range as the head of a hunk gives it: the number of its first line and its length, unless
that is one.  An empty range has the number of the line before it. -/
def shown (s : Span) : Text :=
  if s.length = 1 then ofInt (s.start + 1)
  else ofInt (if s.length = 0 then s.start else s.start + 1) ++ "," ++ ofInt s.length

end Span

/-- A range of the old text and what stands in its place in the new one. -/
structure Piece where
  unchanged : Bool
  old : Span
  new : Span
deriving Repr, DecidableEq

def Piece.first (n : Int) (p : Piece) : Piece :=
  { p with old := p.old.first n, new := p.new.first n }

def Piece.last (n : Int) (p : Piece) : Piece :=
  { p with old := p.old.last n, new := p.new.last n }

/-- The pieces from two places on, where the shared runs are given; the last run is empty and
stands at the ends. -/
def piecesFrom : Nat → Nat → List Match → List Piece
  | _, _, [] => []
  | i, j, m :: rest =>
    let changed : List Piece :=
      if i < m.old || j < m.new then [⟨false, ⟨i, m.old⟩, ⟨j, m.new⟩⟩] else []
    let i' := m.old + m.size
    let j' := m.new + m.size
    let same : List Piece := if 0 < m.size then [⟨true, ⟨m.old, i'⟩, ⟨m.new, j'⟩⟩] else []
    changed ++ same ++ piecesFrom i' j' rest

/-- Both texts, cut into pieces that did and did not change. -/
def pieces (old new : List Text) : List Piece :=
  piecesFrom 0 0 (matching old new ++ [⟨old.length, new.length, 0⟩])

/-- Cuts an unchanged first piece to its last lines. -/
def trimStart (n : Int) : List Piece → List Piece
  | [] => []
  | p :: rest => (if p.unchanged then p.last n else p) :: rest

/-- Cuts an unchanged last piece to its first lines. -/
def trimEnd (n : Int) : List Piece → List Piece
  | [] => []
  | [p] => [if p.unchanged then p.first n else p]
  | p :: rest => p :: trimEnd n rest

/-- Collects pieces into hunks: a long unchanged piece ends a hunk and starts the next. -/
def hunksFrom (n : Int) (hunk : List Piece) : List Piece → List (List Piece)
  | [] =>
    match hunk with
    | [] => []
    | [p] => if p.unchanged then [] else [hunk]
    | _ => [hunk]
  | p :: rest =>
    if p.unchanged && n + n < p.old.length then
      (hunk ++ [p.first n]) :: hunksFrom n [p.last n] rest
    else hunksFrom n (hunk ++ [p]) rest

/-- The hunks of a diff with `n` lines of context. -/
def hunks (n : Int) (old new : List Text) : List (List Piece) :=
  let all := pieces old new
  let all := if all.isEmpty then [⟨true, ⟨0, 1⟩, ⟨0, 1⟩⟩] else all
  hunksFrom n [] (trimEnd n (trimStart n all))

def Piece.shown (old new : List Text) (p : Piece) : List Text :=
  if p.unchanged then (p.old.lines old).map (' ' :: ·)
  else (p.old.lines old).map ('-' :: ·) ++ (p.new.lines new).map ('+' :: ·)

def hunkHead (first last : Piece) : Text :=
  "@@ -" ++ Span.shown ⟨first.old.start, last.old.stop⟩ ++ " +" ++
    Span.shown ⟨first.new.start, last.new.stop⟩ ++ " @@\n"

def shownHunk (old new : List Text) (hunk : List Piece) : List Text :=
  match hunk, hunk.getLast? with
  | first :: _, some last => hunkHead first last :: hunk.flatMap (Piece.shown old new)
  | _, _ => []

/-- The lines of a unified diff; those that are not from the texts have a newline of their own. -/
def unified (n : Int) (name : Text) (old new : List Text) : List Text :=
  match hunks n old new with
  | [] => []
  | hs =>
    ("--- " ++ name ++ "\n") :: ("+++ " ++ name ++ "\n") :: hs.flatMap (shownHunk old new)

/-- Shows the spaces of a changed line as dots, and drops a newline at its end. -/
def withVisibleSpaces (line : Text) : Except Error Text :=
  match line with
  | [] => .error .emptyLine
  | c :: _ =>
    let shown :=
      if c == '+' || c == '-' then line.map fun x => if x = ' ' then '·' else x else line
    .ok (if shown.getLast? == some '\n' then shown.dropLast else shown)

end DocTidy.Diff
