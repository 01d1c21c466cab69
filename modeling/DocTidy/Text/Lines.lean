import DocTidy.Text.Basic

/-!
# Lines

A text is cut into lines at every line boundary of Unicode: the newline, the carriage return
(alone or before a newline), the vertical tab, the form feed, the three record separators, the
next-line control and the two Unicode separators.  A boundary at the end of the text opens no
further line, so the empty text has no line.
-/

namespace DocTidy.Text

/-- `c` ends a line. -/
def isLineBreak (c : Char) : Bool :=
  let n := c.toNat
  (10 ≤ n && n ≤ 13) || (28 ≤ n && n ≤ 30) || n == 0x85 || n == 0x2028 || n == 0x2029

/-- The lines of a text, each with the boundary that ends it (empty for an unended last line). -/
def endedLines : Text → List (Text × Text)
  | [] => []
  | '\r' :: '\n' :: r => ([], ['\r', '\n']) :: endedLines r
  | c :: r =>
    if isLineBreak c then ([], [c]) :: endedLines r
    else
      match endedLines r with
      | [] => [([c], [])]
      | (line, ending) :: more => (c :: line, ending) :: more

/-- The lines of a text, without their boundaries. -/
def splitLines (t : Text) : List Text := (endedLines t).map (·.1)

/-- The lines of a text, with their boundaries: their concatenation is the text. -/
def splitLinesKeep (t : Text) : List Text := (endedLines t).map fun (line, ending) => line ++ ending

theorem flatten_splitLinesKeep (t : Text) : (splitLinesKeep t).flatten = t := by
  unfold splitLinesKeep
  fun_induction endedLines t with
  | case1 => rfl
  | case2 r ih => simp [ih]
  | case3 c r _ _ ih => simp [ih]
  | case4 c r _ _ hnil ih => simp_all
  | case5 c r _ _ line ending more heq ih => simp_all

/-- Every line boundary becomes one newline: carriage returns, alone or before a newline. -/
def toNewlines : Text → Text
  | [] => []
  | '\r' :: '\n' :: r => '\n' :: toNewlines r
  | c :: r => (if c = '\r' then '\n' else c) :: toNewlines r

/-- Drops the blank lines at the start and at the end. -/
def trimBlankLines (ls : List Text) : List Text :=
  ((ls.dropWhile isBlank).reverse.dropWhile isBlank).reverse

/-- The maximal runs of lines that are not blank. -/
def paragraphs : List Text → List (List Text)
  | [] => []
  | [l] => if isBlank l then [] else [[l]]
  | l :: next :: r =>
    if isBlank l then paragraphs (next :: r)
    else if isBlank next then [l] :: paragraphs (next :: r)
    else
      match paragraphs (next :: r) with
      | [] => [[l]]
      | p :: ps => (l :: p) :: ps

end DocTidy.Text
