import DocTidy.Source.Parameters

/-!
# The grammar of expressions

An expression is read by rules that refer to each other: operators are between operands, operands
hold expressions in brackets.  The rules for what is nested are given as a record of rules, and the
record for a depth is made from that for one less, so everything is defined by recursion on the
depth.  Whatever is nested stands behind a token of its own, so the number of tokens is depth
enough.
-/

namespace DocTidy.Source

open Rule

/-- The rules for expressions. -/
structure Grammar where
  /-- An expression without commas. -/
  expression : Rule Expr
  /-- One without a condition: operands with any operators between them. -/
  disjunction : Rule Expr
  /-- One without comparisons. -/
  operation : Rule Expr
  /-- One without operators: a name, a literal or brackets, with members, items and calls. -/
  primary : Rule Expr

namespace Grammar

/-- The grammar that has no expressions. -/
def empty : Grammar := ⟨failure, failure, failure, failure⟩

/-! ## Lists of expressions -/

/-- A name with a value given to it in passing begins here. -/
def seesNamed : Rule Bool := seesTwo (·.isIdentifier) (·.is ":=")

/-- A name with a value given to it in passing, or an expression. -/
def named (g : Grammar) : Rule Expr := do
  if ← seesNamed then
    let _ ← identifier
    expect ":="
    let _ ← g.expression
    return .value
  else g.expression

/-- What `item` reads, or an operation with a star in front. -/
def orStarred (g : Grammar) (item : Rule Expr) : Rule Expr := do
  if ← accept "*" then return .starred (← g.operation) else item

/-- A member of a list in brackets. -/
def element (g : Grammar) : Rule Expr := g.orStarred g.named

/-- Expressions with commas between them, or a single one. -/
def expressions (g : Grammar) : Rule Expr := do
  let list ← listed (g.orStarred g.expression)
  match list.items, list.hasComma with
  | [e], false => return e
  | items, _ => return .sequence items

/-- Something that can be assigned to, perhaps with a star in front. -/
def target (g : Grammar) : Rule Unit := do
  let _ ← accept "*"
  let e ← g.primary
  require e.isTarget

def targets (g : Grammar) : Rule Unit := do let _ ← listed g.target

/-- A yield and what it yields. -/
def yield (g : Grammar) : Rule Unit := do
  expect "yield"
  if ← accept "from" then
    let _ ← g.expression
  else
    let _ ← (do let _ ← g.expressions) <|> pure ()

/-- The clauses of a comprehension. -/
def clauses (g : Grammar) : Rule Unit := do
  let _ ← oneOrMore do
    let _ ← accept "async"
    expect "for"
    g.targets
    expect "in"
    let _ ← g.disjunction
    many do
      expect "if"
      let _ ← g.disjunction

/-- A comprehension begins here. -/
def seesClause : Rule Bool := sees fun t => t.is "for" || t.is "async"

/-! ## Brackets -/

/-- What stands behind an opening parenthesis: nothing, a yield, a comprehension, or expressions. -/
def inParentheses (g : Grammar) : Rule Expr := do
  if ← accept ")" then return .sequence []
  else if ← sees (·.is "yield") then
    g.yield
    expect ")"
    return .value
  else
    let first ← g.element
    if ← seesClause then
      require !first.isStarred
      g.clauses
      expect ")"
      return .value
    else
      let more ← many do expect ","; g.element
      let isEnded ← accept ","
      expect ")"
      if more.isEmpty && !isEnded then
        require !first.isStarred
        return first
      else return .sequence (first :: more)

/-- What stands behind an opening square bracket that begins a list. -/
def inBrackets (g : Grammar) : Rule Expr := do
  if ← accept "]" then return .sequence []
  else
    let list ← listed g.element
    match list.items, list.hasComma, ← seesClause with
    | [e], false, true =>
      require !e.isStarred
      g.clauses
      expect "]"
      return .value
    | items, _, _ =>
      expect "]"
      return .sequence items

/-- A member of a list in braces. -/
inductive Entry where
  /-- A key and its value. -/
  | pair
  /-- Entries of another dictionary. -/
  | unpacked
  | item (isStarred : Bool)
deriving Repr, DecidableEq

/-- The entry belongs into a dictionary. -/
def Entry.isKeyed : Entry → Bool
  | .pair | .unpacked => true
  | .item _ => false

def entry (g : Grammar) : Rule Entry := do
  if ← accept "**" then
    let _ ← g.operation
    return .unpacked
  else
    let isNamed ← seesNamed
    let e ← g.element
    if isNamed || e.isStarred then return .item e.isStarred
    else if ← accept ":" then
      let _ ← g.expression
      return .pair
    else return .item false

/-- What stands behind an opening brace: the entries of a dictionary or of a set. -/
def inBraces (g : Grammar) : Rule Expr := do
  if !(← accept "\x7d") then
    let list ← listed g.entry
    match list.items, list.hasComma, ← seesClause with
    | [e], false, true =>
      require (e == .pair || e == .item false)
      g.clauses
    | items, _, _ => require (items.all (·.isKeyed) || items.all fun e => !e.isKeyed)
    expect "\x7d"
  return .value

/-! ## Calls and items -/

/-- What is passed in a call. -/
inductive Passed where
  | positional
  | starred
  | keyword
  /-- Keywords of a dictionary. -/
  | unpacked
  /-- A comprehension without parentheses of its own. -/
  | generator
deriving Repr, DecidableEq

def passed (g : Grammar) : Rule Passed := do
  if ← accept "*" then
    let _ ← g.expression
    return .starred
  else if ← accept "**" then
    let _ ← g.expression
    return .unpacked
  else if ← seesTwo (·.isIdentifier) (·.is "=") then
    let _ ← identifier
    expect "="
    let _ ← g.expression
    return .keyword
  else
    let _ ← g.named
    if ← seesClause then
      g.clauses
      return .generator
    else return .positional

/-- One thing may be passed behind another.  Positions come before keywords, and nothing but keywords
comes behind a dictionary. -/
def Passed.mayFollow (earlier later : Passed) : Bool :=
  match later with
  | .positional => earlier == .positional || earlier == .starred
  | .starred => earlier != .unpacked
  | .keyword | .unpacked => true
  | .generator => false

/-- What stands between the parentheses of a call, or of a class header, which has no lone
comprehension. -/
def arguments (g : Grammar) (isCall : Bool) : Rule Unit := do
  if !(← accept ")") then
    let list ← listed g.passed
    match list.items, list.hasComma with
    | [.generator], hasComma => require (isCall && !hasComma)
    | items, _ =>
      require (!items.contains .generator && decide (items.Pairwise fun a b => a.mayFollow b))
    expect ")"

/-- An item or a slice. -/
def slice (g : Grammar) : Rule Unit := do
  let bound : Rule Unit := do
    if !(← sees fun t => t.isAnyOf [":", ",", "]"]) then
      let _ ← g.expression
  if ← accept "*" then
    let _ ← g.expression
  else if ← seesNamed then
    let _ ← g.named
  else
    if !(← sees (·.is ":")) then
      let _ ← g.expression
    if ← accept ":" then
      bound
      if ← accept ":" then bound

/-- What follows an operand: a member, a call or an item. -/
def trailer (g : Grammar) : Rule Expr := do
  if ← accept "." then
    let _ ← identifier
    return .part
  else if ← accept "(" then
    g.arguments true
    return .value
  else
    expect "["
    let _ ← listed g.slice
    expect "]"
    return .part

/-! ## Operands -/

/-- String literals side by side, all of bytes or none.  The fields of a formatted one hold
expressions. -/
def literals (g : Grammar) : Rule Expr := do
  let tokens ← oneOrMore (next (·.isLiteral))
  require (tokens.all (·.kind == .bytes) || tokens.all (·.kind != .bytes))
  let fields := tokens.flatMap fun t => match t.kind with | .formatted fields => fields | _ => []
  require (fields.all fun f => ((expressionTokens? f).bind (readAll? g.primary)).isSome)
  match tokens.mapM fun t => match t.kind with | .string v => some v | _ => none with
  | some values => return .string values.flatten
  | none => return .value

def atom (g : Grammar) : Rule Expr := do
  if ← sees (·.isLiteral) then g.literals
  else if ← sees (·.isIdentifier) then return .name (← identifier).name
  else if ← accept "(" then g.inParentheses
  else if ← accept "[" then g.inBrackets
  else if ← accept "\x7b" then g.inBraces
  else
    let _ ← next fun t => t.kind == .number || t.isAnyOf constants || t.is "..."
    return .value

/-- An operand with all that follows it. -/
def primaryRule (g : Grammar) : Rule Expr := do
  let first ← g.atom
  return ((← many g.trailer).getLast?).getD first

/-! ## Operators -/

/-- Operands with operators between them. -/
def chain (operand : Rule Expr) (operator : Rule Unit) : Rule Expr := do
  let first ← operand
  let more ← many do operator; operand
  return if more.isEmpty then first else .value

/-- An operand with operators in front. -/
def withSigns (sign : Rule Unit) (operand : Rule Expr) : Rule Expr := do
  let signs ← many sign
  let e ← operand
  return if signs.isEmpty then e else .value

/-- One of the operators. -/
def operator (words : List Text) : Rule Unit := do let _ ← next (·.isAnyOf words)

def arithmeticWords : List Text :=
  List.map String.toList ["+", "-", "*", "/", "//", "%", "@", "&", "|", "^", "<<", ">>"]

def comparisonOperator : Rule Unit := do
  if ← accept "not" then expect "in"
  else if ← accept "is" then
    let _ ← accept "not"
  else operator ["==", "!=", "<", ">", "<=", ">=", "in"]

def operationRule (g : Grammar) : Rule Expr :=
  let operand := withSigns (operator ["+", "-", "~"]) (withAwait g.primaryRule)
  chain (chain operand (expect "**")) (operator arithmeticWords)
where
  withAwait (operand : Rule Expr) : Rule Expr := do
    if ← accept "await" then
      let _ ← operand
      return .value
    else operand

def disjunctionRule (g : Grammar) : Rule Expr :=
  let comparison := chain g.operationRule comparisonOperator
  chain (withSigns (expect "not") comparison) (operator ["and", "or"])

def expressionRule (g : Grammar) : Rule Expr := do
  if ← accept "lambda" then
    let _ ← parameters g.expression g.expression false ":"
    let _ ← g.expression
    return .value
  else
    let e ← g.disjunctionRule
    if ← accept "if" then
      let _ ← g.disjunction
      expect "else"
      let _ ← g.expression
      return .value
    else return e

/-- The grammar of expressions that are nested at most that deep. -/
def nested : Nat → Grammar
  | 0 => empty
  | depth + 1 =>
    { expression := fun ts => (nested depth).expressionRule ts
      disjunction := fun ts => (nested depth).disjunctionRule ts
      operation := fun ts => (nested depth).operationRule ts
      primary := fun ts => (nested depth).primaryRule ts }

/-- How deep the expressions among some tokens can be nested: every token can hold one more, and so
can every character of a replacement field. -/
def depthOf (tokens : List Token) : Nat :=
  tokens.foldl (fun depth t => depth +
    match t.kind with
    | .formatted fields => 1 + fields.flatten.length + 2 * fields.length
    | _ => 1) 0

/-- The grammar that is enough for some tokens. -/
def of (tokens : List Token) : Grammar := nested (depthOf tokens + 1)

end Grammar
end DocTidy.Source
