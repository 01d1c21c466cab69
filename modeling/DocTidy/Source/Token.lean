import DocTidy.Text.Normal

/-!
# Tokens of Python source

The words of a Python source file: names, numbers, operators and string literals, with the place
where each stands.
-/

namespace DocTidy.Source

open Text

/-- A place in a file: the line, counted from one, the column in bytes of UTF-8, and the number of
characters before it. -/
structure Position where
  line : Nat
  column : Nat
  offset : Nat
deriving Repr, DecidableEq

namespace Position

def start : Position := ⟨1, 0, 0⟩

/-- The place behind a character that does not end a line. -/
def after (p : Position) (c : Char) : Position :=
  { p with column := p.column + c.utf8Size, offset := p.offset + 1 }

/-- The place behind a line end of that many characters. -/
def nextLine (p : Position) (width : Nat) : Position := ⟨p.line + 1, 0, p.offset + width⟩

/-- The place behind a text; a carriage return before a newline is part of the line end. -/
def afterText : Position → Text → Position
  | p, [] => p
  | p, '\r' :: '\n' :: r => afterText (p.nextLine 2) r
  | p, c :: r => afterText (if c = '\n' || c = '\r' then p.nextLine 1 else p.after c) r

end Position

inductive TokenKind where
  | name
  | number
  | operator
  /-- A string literal, with its value. -/
  | string (value : Text)
  | bytes
  /-- A literal with replacement fields, given by the expressions in them. -/
  | formatted (fields : List Text)
deriving Repr, DecidableEq

structure Token where
  kind : TokenKind
  /-- The token as it is written. -/
  text : Text
  position : Position
  /-- The number of characters before its end. -/
  stop : Nat
deriving Repr, DecidableEq

def keywords : List Text :=
  List.map String.toList
    ["False", "None", "True", "and", "as", "assert", "async", "await", "break", "class",
     "continue", "def", "del", "elif", "else", "except", "finally", "for", "from", "global", "if",
     "import", "in", "is", "lambda", "nonlocal", "not", "or", "pass", "raise", "return", "try",
     "while", "with", "yield"]

/-- The keywords that are values. -/
def constants : List Text := ["False", "None", "True"]

/-- The operators of several characters, longer ones first. -/
def longOperators : List Text :=
  List.map String.toList
    ["**=", "//=", ">>=", "<<=", "...", "!=", "->", ":=", "==", "<=", ">=", "+=", "-=", "*=",
     "/=", "%=", "&=", "|=", "^=", "@=", "**", "//", "<<", ">>"]

/-- The operators of one character. -/
def shortOperators : Text := "()[]\x7b\x7d.,:;+-*/%@&|^~<>="

namespace Token

/-- The token is this name, keyword or operator. -/
def is (t : Token) (word : Text) : Bool :=
  (t.kind == .name || t.kind == .operator) && t.text == word

/-- A name that is no keyword. -/
def isIdentifier (t : Token) : Bool := t.kind == .name && !keywords.contains t.text

/-- The name that an identifier stands for, which is the same for all its spellings. -/
def name (t : Token) : Text := normalForm t.text

def isLiteral (t : Token) : Bool :=
  match t.kind with
  | .string _ | .bytes | .formatted _ => true
  | _ => false

def isAnyOf (t : Token) (words : List Text) : Bool := words.any t.is

end Token

/-- The bracket that closes another. -/
def closing? (c : Char) : Option Char :=
  if c = '(' then some ')'
  else if c = '[' then some ']'
  else if c = '\x7b' then some '\x7d'
  else none

def isClosing (c : Char) : Bool := c = ')' || c = ']' || c = '\x7d'

/-- The characters of which words are made; every character above ASCII counts as one. -/
def isWordPart (c : Char) : Bool := c.isAlphanum || c == '_' || 128 ≤ c.toNat

end DocTidy.Source
