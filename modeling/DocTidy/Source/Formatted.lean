import DocTidy.Source.Escape

/-!
# Replacement fields

A formatted literal is text with replacement fields in braces.  A field holds an expression, and
behind it perhaps an equals sign, a conversion and a format, in which there can be fields again.
Two braces side by side stand for one, except in a format.
-/

namespace DocTidy.Source

open Text

/-- How deep brackets may be nested. -/
def maxNesting : Nat := 200

/-- Text up to the next field or, in a format, up to the end of the field around it; `level` says
in how many fields the text is.  The first `skip` characters are part of it anyway. -/
def cutPlain? (raw : Bool) (level : Nat) : Nat → Text → Option (Text × Text)
  | _, [] => some ([], [])
  | skip + 1, c :: r => (cutPlain? raw level skip r).map fun (front, rest) => (c :: front, rest)
  | 0, c :: r =>
    let keep (skip : Nat) : Option (Text × Text) :=
      (cutPlain? raw level skip r).map fun (front, rest) => (c :: front, rest)
    if c = '\\' && !raw then
      match r with
      | 'N' :: '\x7b' :: name => keep (3 + (name.takeWhile (· ≠ '\x7d')).length)
      | d :: _ => keep (if d = '\x7b' || d = '\x7d' then 0 else 1)
      | [] => keep 0
    else if c = '\x7b' || c = '\x7d' then
      match r with
      | d :: rest =>
        if level = 0 && d = c then
          (cutPlain? raw level 0 rest).map fun (front, rest) => (c :: front, rest)
        else if level = 0 && c = '\x7d' then none
        else some ([], c :: r)
      | [] => if level = 0 && c = '\x7d' then none else some ([], [c])
    else keep 0

/-- A string literal that a character of an expression stands in: its quote, and whether that is
threefold. -/
structure Quotation where
  quote : Char
  triple : Bool
deriving Repr, DecidableEq

/-- The expression of a field, up to what ends it outside brackets and quotes: an exclamation
mark, a colon, an equals sign or a brace.  The first `skip` characters are part of it anyway. -/
def cutField? : Nat → Option Quotation → List Char → Text → Option (Text × Text)
  | _, _, _, [] => none
  | skip + 1, quotation?, awaited, c :: r =>
    (cutField? skip quotation? awaited r).map fun (front, rest) => (c :: front, rest)
  | 0, quotation?, awaited, c :: r =>
    let keep (skip : Nat) (quotation? : Option Quotation) (awaited : List Char) :
        Option (Text × Text) :=
      (cutField? skip quotation? awaited r).map fun (front, rest) => (c :: front, rest)
    let isTriple := startsWith (c :: r) [c, c, c]
    if c = '\\' then none
    else
      match quotation?, awaited with
      | some q, _ =>
        if c ≠ q.quote then keep 0 quotation? awaited
        else if !q.triple then keep 0 none awaited
        else if isTriple then keep 2 none awaited
        else keep 0 quotation? awaited
      | none, _ =>
        if c = '"' || c = '\'' then
          keep (if isTriple then 2 else 0) (some ⟨c, isTriple⟩) awaited
        else if c = '#' then none
        else
          match closing? c, awaited with
          | some close, _ =>
            if maxNesting ≤ awaited.length then none else keep 0 none (close :: awaited)
          | none, close :: more =>
            if c = close then keep 0 none more
            else if isClosing c then none
            else keep 0 none awaited
          | none, [] =>
            if (c = '!' || c = '=' || c = '<' || c = '>') && startsWith r "=" then keep 1 none []
            else if c = '!' || c = ':' || c = '=' || c = '\x7d' then some ([], c :: r)
            else if isClosing c then none
            else keep 0 none []

/-- What stands behind the equals sign of a field, if it has one. -/
def afterEquals (t : Text) : Text :=
  match t with
  | '=' :: r => r.dropWhile fun c => c = ' ' || ('\t' ≤ c && c ≤ '\r')
  | _ => t

/-- What stands behind the conversion of a field, if it has one. -/
def afterConversion? (t : Text) : Option Text :=
  match t with
  | '!' :: c :: r =>
    if (c = 's' || c = 'r' || c = 'a') && (startsWith r ":" || startsWith r "\x7d") then some r
    else none
  | '!' :: [] => none
  | _ => some t

/-- The expressions of the fields of a text, and what follows the text; `fuel` is enough if it
exceeds the length of the text.  Fields may be nested in the format of a field once. -/
def fieldsFrom? (raw : Bool) : Nat → Nat → Text → Option (List Text × Text)
  | 0, _, _ => none
  | fuel + 1, level, t => do
    let (plain, rest) ← cutPlain? raw level 0 t
    if !raw then let _ ← unescape? false plain
    match rest with
    | '\x7b' :: r => do
      if 2 ≤ level then none
      let (field, behind) ← cutField? 0 none [] r
      if field.all fun c => c = ' ' || c = '\t' || c = '\n' || c = '\x0c' then none
      let (inner, behind) ←
        match ← afterConversion? (afterEquals behind) with
        | ':' :: format => fieldsFrom? raw fuel (level + 1) format
        | behind => some ([], behind)
      match behind with
      | '\x7d' :: behind =>
        let (fields, rest) ← fieldsFrom? raw fuel level behind
        return (field :: inner ++ fields, rest)
      | _ => none
    | _ => return ([], rest)

/-- The expressions of the fields of a formatted literal with that body. -/
def fieldsOf? (raw : Bool) (body : Text) : Option (List Text) :=
  match fieldsFrom? raw (body.length + 1) 0 body with
  | some (fields, []) => some fields
  | _ => none

end DocTidy.Source
