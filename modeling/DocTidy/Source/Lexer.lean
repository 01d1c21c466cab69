import DocTidy.Source.Literal
import DocTidy.Source.Number

/-!
# Logical lines

A source file as logical lines of tokens.  Line ends inside brackets or behind a backslash do not
end a logical line, and blank lines and comments belong to none.
-/

namespace DocTidy.Source

open Text

/-- The indentation of a line, measured twice: with tabs up to the next multiple of eight, and with
tabs as one column.  Only where both agree is it clear which line is indented more. -/
structure Indentation where
  wide : Nat
  narrow : Nat
deriving Repr, DecidableEq

structure LogicalLine where
  indentation : Indentation
  tokens : List Token
deriving Repr, DecidableEq

/-- The state of the lexer. -/
structure Lexer where
  rest : Text
  position : Position
  /-- The closing brackets that are awaited, innermost first. -/
  awaited : List Char
  /-- No token of the line has been met. -/
  atStart : Bool
  indentation : Indentation
  /-- How far the first backslash before the first token is indented, if it is. -/
  margin? : Option Nat
  /-- The tokens of the logical line so far, last first, and the lines before it, last first. -/
  tokens : List Token
  lines : List LogicalLine

namespace Lexer

def start (source : Text) : Lexer := ⟨source, .start, [], true, ⟨0, 0⟩, none, [], []⟩

/-- The width of the line end that a text begins with. -/
def lineEnd? : Text → Option Nat
  | '\r' :: '\n' :: _ => some 2
  | c :: _ => if c = '\n' || c = '\r' then some 1 else none
  | [] => none

def isLineEnd (c : Char) : Bool := c = '\n' || c = '\r'

/-- Passes over some characters of the line. -/
def skip (s : Lexer) (count : Nat) : Lexer :=
  { s with rest := s.rest.drop count, position := s.position.afterText (s.rest.take count) }

/-- Ends the logical line, if it has tokens. -/
def endLine (s : Lexer) : Lexer :=
  let indentation := (s.margin?.map fun n => ⟨n, n⟩).getD s.indentation
  let lines := if s.tokens.isEmpty then s.lines else ⟨indentation, s.tokens.reverse⟩ :: s.lines
  { s with tokens := [], lines := lines, atStart := true, indentation := ⟨0, 0⟩, margin? := none }

/-- Takes a token of that many characters. -/
def take (s : Lexer) (kind : TokenKind) (width : Nat) : Lexer :=
  let token : Token := ⟨kind, s.rest.take width, s.position, s.position.offset + width⟩
  { s.skip width with tokens := token :: s.tokens, atStart := false }

/-- The operator that a text begins with. -/
def operator? (t : Text) : Option Text :=
  match longOperators.find? fun o => startsWith t o with
  | some o => some o
  | none =>
    match t with
    | c :: _ => if shortOperators.contains c then some [c] else none
    | [] => none

/-- Takes an operator and keeps account of the brackets. -/
def takeOperator? (s : Lexer) : Option Lexer := do
  let o ← operator? s.rest
  let taken := s.take .operator o.length
  match o with
  | [c] =>
    match closing? c, s.awaited with
    | some close, _ =>
      if maxNesting ≤ s.awaited.length then none
      else return { taken with awaited := close :: s.awaited }
    | none, close :: more =>
      if c = close then return { taken with awaited := more }
      else if isClosing c then none
      else return taken
    | none, [] => if isClosing c then none else return taken
  | _ => return taken

/-- Takes the name or the string literal that begins here. -/
def takeWord? (s : Lexer) : Option Lexer :=
  let word := s.rest.takeWhile isWordPart
  let behind := s.rest.dropWhile isWordPart
  let name? := if Text.isIdentifier word then some (s.take .name word.length) else none
  match LiteralMarks.of? word, behind with
  | some marks, q :: _ =>
    if q = '"' || q = '\'' then do
      let (kind, rest) ← readLiteral? marks behind
      return s.take kind (s.rest.length - rest.length)
    else name?
  | _, _ => name?

/-- The indentation after one more blank character. -/
def indentBy (i : Indentation) (c : Char) : Indentation :=
  if c = '\t' then ⟨(i.wide / 8 + 1) * 8, i.narrow + 1⟩
  else if c = ' ' then ⟨i.wide + 1, i.narrow + 1⟩
  else ⟨0, 0⟩

/-- One step: a blank, a comment, a line end or a token.  The input is not at its end.  A backslash
needs a line below it, as which a carriage return and a newline at the end of the input count. -/
def step? (s : Lexer) : Option Lexer :=
  match s.rest with
  | [] => none
  | c :: r =>
    if c = ' ' || c = '\t' || c = '\x0c' then
      let i := if s.atStart then indentBy s.indentation c else s.indentation
      some { s.skip 1 with indentation := i }
    else if c = '#' then some (s.skip (s.rest.takeWhile fun c => !isLineEnd c).length)
    else
      match lineEnd? s.rest with
      | some width =>
        let passed := s.skip width
        some (if s.awaited.isEmpty then passed.endLine else passed)
      | none =>
        if c = '\\' then do
          let width ← lineEnd? r
          let passed := s.skip (width + 1)
          if passed.rest.isEmpty && width = 1 then none
          else if s.atStart && s.margin?.isNone && 0 < s.indentation.wide then
            some { passed with margin? := some s.indentation.wide }
          else some passed
        else if c.isDigit || (c = '.' && ((r.head?.map Char.isDigit).getD false)) then
          (numberLength? s.rest).map (s.take .number)
        else if isWordPart c || c = '"' || c = '\'' then s.takeWord?
        else s.takeOperator?

/-- Steps to the end of the input.  Every step takes a character, so `fuel` is enough if it is the
length of the input. -/
def run? : Nat → Lexer → Option Lexer
  | 0, s => if s.rest.isEmpty then some s else none
  | fuel + 1, s => if s.rest.isEmpty then some s else s.step?.bind (run? fuel)

end Lexer

/-- The logical lines of a source file. -/
def logicalLines? (source : Text) : Option (List LogicalLine) := do
  if source.contains '\x00' then none
  let s ← Lexer.run? source.length (Lexer.start source)
  if s.awaited.isEmpty then some s.endLine.lines.reverse else none

/-- The tokens of an expression, which is read as if it stood in parentheses. -/
def expressionTokens? (expression : Text) : Option (List Token) := do
  match ← logicalLines? ('(' :: expression ++ [')']) with
  | [line] => some line.tokens
  | _ => none

end DocTidy.Source
