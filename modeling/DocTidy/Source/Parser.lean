import DocTidy.Source.Simple

/-!
# Parsing a source file

Logical lines become statements.  A compound statement has a header, which ends with a colon, and
behind it statements on the same line or a block of lines that are indented more.
-/

namespace DocTidy.Source

open Rule

/-! ## Headers -/

/-- The header of a function behind its first word. -/
def functionHeader (g : Grammar) : Rule (Text × Signature) := do
  let name ← identifier
  expect "("
  let signature ← parameters g.expression (g.orStarred g.expression) true ")"
  if ← accept "->" then
    let _ ← g.expression
  expect ":"
  return (name.name, signature)

/-- The header of a class behind its first word. -/
def classHeader (g : Grammar) : Rule Text := do
  let name ← identifier
  if ← accept "(" then g.arguments false
  expect ":"
  return name.name

/-- The header of a match statement behind its first word. -/
def matchHeader (g : Grammar) : Rule Unit := do
  let list ← listed g.element
  require (list.hasComma || list.items.all fun e => !e.isStarred)
  expect ":"
  atEnd

/-- What a with statement enters, and perhaps a name for it. -/
def entered (g : Grammar) : Rule Unit := do
  let _ ← g.expression
  if ← accept "as" then g.target

/-- The header of a with statement behind its first word.  The parentheses around all that is
entered are tried first, since they could also belong to the first thing. -/
def withHeader (g : Grammar) : Rule Unit :=
  (do
    expect "("
    let _ ← listed (entered g)
    expect ")"
    expect ":") <|>
  (do
    let _ ← separated (entered g)
    expect ":")

/-- The kinds of an exception that is handled, and perhaps a name for it. -/
def handled (g : Grammar) : Rule Unit := do
  let _ ← g.expression
  if ← accept "as" then
    let _ ← identifier

/-- The header that a word begins, without that word. -/
def headerOf (g : Grammar) (word : Text) : Rule Unit := do
  if word == "with" then withHeader g
  else
    if word == "if" || word == "elif" || word == "while" then
      let _ ← g.named
    else if word == "for" then
      g.targets
      expect "in"
      let _ ← g.expressions
    else if word == "except*" then
      expect "*"
      handled g
    else if word == "except" then
      if !(← sees (·.is ":")) then handled g
    expect ":"

/-- What may come after a part of a compound statement. -/
inductive Clause where
  | branch
  | loop
  | attempt
  | handler
  | groupHandler
  | otherwise
  | last
deriving Repr, DecidableEq

namespace Clause

/-- The words of the clauses that may follow.  The handlers of an attempt are all for single
exceptions or, with a star, all for groups of them. -/
def next : Clause → List (Text × Clause)
  | branch => [("elif", branch), ("else", last)]
  | loop => [("else", last)]
  | attempt => [("except", handler), ("except*", groupHandler), ("finally", last)]
  | handler => [("except", handler), ("else", otherwise), ("finally", last)]
  | groupHandler => [("except*", groupHandler), ("else", otherwise), ("finally", last)]
  | otherwise => [("finally", last)]
  | last => []

/-- The statement that a word begins, apart from functions and classes. -/
def ofWord : List (Text × Clause) :=
  [("if", branch), ("for", loop), ("while", loop), ("try", attempt), ("with", last)]

/-- The clause that a line begins, among those that may follow. -/
def nextOf? (clause : Clause) (tokens : List Token) : Option (Text × Clause) :=
  match tokens with
  | [] => none
  | word :: behind =>
    let isStarred := word.is "except" && behind.head?.any (·.is "*")
    clause.next.find? fun (w, _) => if isStarred then w == "except*" else word.is w

end Clause

/-! ## Blocks -/

/-- How one indentation relates to another, if both ways of measuring agree. -/
def Indentation.relate? (a b : Indentation) : Option Ordering :=
  let byWide := compare a.wide b.wide
  if byWide == compare a.narrow b.narrow || byWide == .lt then some byWide else none

/-- How many blocks may be open at once. -/
def maxBlocks : Nat := 99

/-- One of the lines is in too many blocks.  `margins` says how far the open blocks are indented, the
innermost first. -/
def nestsTooDeep (margins : List Nat) : List LogicalLine → Bool
  | [] => false
  | l :: rest =>
    let width := l.indentation.wide
    let kept := margins.dropWhile (width < ·)
    let margins := if kept.headD 0 < width then width :: kept else kept
    maxBlocks < margins.length || nestsTooDeep margins rest

mutual

/-- The statements of a block, up to a line that is indented less.  Every step takes a line, so
`fuel` is enough if it exceeds the number of lines several times. -/
def block? (indentation : Indentation) :
    Nat → List LogicalLine → Option (List Statement × List LogicalLine)
  | 0, _ => none
  | _ + 1, [] => some ([], [])
  | fuel + 1, l :: rest =>
    match l.indentation.relate? indentation with
    | some .lt => some ([], l :: rest)
    | some .eq => do
      let (first, rest) ← statements? indentation fuel (l :: rest)
      let (more, rest) ← block? indentation fuel rest
      return (first ++ more, rest)
    | _ => none

/-- What stands behind the colon of a header: statements on the same line, or a block below. -/
def suite? (indentation : Indentation) (behind : List Token) :
    Nat → List LogicalLine → Option (List Statement × List LogicalLine)
  | 0, _ => none
  | fuel + 1, rest =>
    match behind, rest with
    | _ :: _, _ => do return (← readAll? (Simple.line (.of behind)) behind, rest)
    | [], [] => none
    | [], l :: more =>
      if l.indentation.relate? indentation == some .gt then block? l.indentation fuel (l :: more)
      else none

/-- The further clauses of a compound statement. -/
def clauses? (indentation : Indentation) (clause : Clause) :
    Nat → List LogicalLine → Option (List Statement × List LogicalLine)
  | 0, _ => none
  | fuel + 1, lines =>
    let stop := if clause == .attempt then none else some ([], lines)
    match lines with
    | [] => stop
    | l :: rest =>
      match clause.nextOf? l.tokens, l.indentation.relate? indentation with
      | some (word, clause), some .eq => do
        let (_, behind) ← headerOf (.of l.tokens) word l.tokens.tail
        let (body, rest) ← suite? indentation behind fuel rest
        let (more, rest) ← clauses? indentation clause fuel rest
        return (body ++ more, rest)
      | _, _ => stop

/-- The cases of a match statement. -/
def cases? (indentation : Indentation) :
    Nat → List LogicalLine → Option (List Statement × List LogicalLine)
  | 0, _ => none
  | _ + 1, [] => some ([], [])
  | fuel + 1, l :: rest =>
    match l.indentation.relate? indentation with
    | some .lt => some ([], l :: rest)
    | some .eq => do
      let header : Rule Unit := do
        expect "case"
        Case.header (.of l.tokens)
        expect ":"
      let (_, behind) ← header l.tokens
      let (body, rest) ← suite? indentation behind fuel rest
      let (more, rest) ← cases? indentation fuel rest
      return (body ++ more, rest)
    | _ => none

/-- The statements on the first line, with all that belongs to the last of them. -/
def statements? (indentation : Indentation) :
    Nat → List LogicalLine → Option (List Statement × List LogicalLine)
  | 0, _ => none
  | _ + 1, [] => none
  | fuel + 1, l :: rest =>
    let g := Grammar.of l.tokens
    match l.tokens with
    | [] => none
    | word :: behind =>
      if word.is "@" then do
        let _ ← readAll? g.named behind
        decorated? indentation fuel rest
      else if word.is "async" then
        match behind with
        | second :: behind =>
          if second.is "def" then do
            let (_, behind) ← functionHeader g behind
            let (body, rest) ← suite? indentation behind fuel rest
            return ([.coroutine body], rest)
          else if second.is "for" || second.is "with" then
            compound? indentation second behind fuel rest
          else none
        | [] => none
      else if word.is "def" then do
        let ((name, signature), behind) ← functionHeader g behind
        let (body, rest) ← suite? indentation behind fuel rest
        return ([.function name signature body], rest)
      else if word.is "class" then do
        let (name, behind) ← classHeader g behind
        let (body, rest) ← suite? indentation behind fuel rest
        return ([.classDef name body], rest)
      else if word.is "match" && (matchHeader g behind).isSome then
        match rest with
        | next :: _ =>
          if next.indentation.relate? indentation == some .gt then do
            let (body, rest) ← cases? next.indentation fuel rest
            return ([.compound body], rest)
          else none
        | [] => none
      else if word.isAnyOf (Clause.ofWord.map (·.1)) then
        compound? indentation word behind fuel rest
      else do
        return (← readAll? (Simple.line g) l.tokens, rest)

/-- A compound statement other than a function or a class. -/
def compound? (indentation : Indentation) (word : Token) (behind : List Token) :
    Nat → List LogicalLine → Option (List Statement × List LogicalLine)
  | 0, _ => none
  | fuel + 1, rest => do
    let clause ← Clause.ofWord.lookup word.text
    let (_, behind) ← headerOf (.of behind) word.text behind
    let (body, rest) ← suite? indentation behind fuel rest
    let (more, rest) ← clauses? indentation clause fuel rest
    return ([.compound (body ++ more)], rest)

/-- What follows a decorator: another one, a function or a class. -/
def decorated? (indentation : Indentation) :
    Nat → List LogicalLine → Option (List Statement × List LogicalLine)
  | 0, _ => none
  | fuel + 1, lines =>
    match lines with
    | [] => none
    | l :: _ =>
      let isDecorable :=
        match l.tokens with
        | [] => false
        | word :: behind =>
          word.isAnyOf ["@", "def", "class"] ||
            (word.is "async" && behind.head?.any (·.is "def"))
      if isDecorable && l.indentation.relate? indentation == some .eq then
        statements? indentation fuel lines
      else none

end

/-- The statements of a source file. -/
def parse? (source : Text) : Option (List Statement) := do
  let lines ← logicalLines? source
  if nestsTooDeep [] lines then none
  let (statements, rest) ← block? ⟨0, 0⟩ (8 * lines.length + 8) lines
  if rest.isEmpty then some statements else none

/-- The statements of a source file, or the error that it is no valid source. -/
def parse (source : Text) : Except Error (List Statement) :=
  match parse? source with
  | some statements => .ok statements
  | none => .error .invalidSource

end DocTidy.Source
