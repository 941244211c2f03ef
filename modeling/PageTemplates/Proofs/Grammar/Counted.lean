import PageTemplates.Proofs.Grammar.Reading
import PageTemplates.Proofs.Grammar.Soundness

/-! # Counting the nesting

The rules of a depth are built from those of the next deeper one. A parser may as well keep
one count for all its functions: add one to it where a function goes a level deeper, refuse
where it passes the limit, and take one off behind what was read there. Such a parser does
what the rules do, and whatever it has read, the count is what it was before.

The functions need no bound on their rounds and calls, as every round takes a token and every
call adds to the count: with any bounds that are large enough they come to the same.
-/

namespace PageTemplates.Grammar

/-- The tokens that are left, and the count. -/
structure Cursor where
  tokens : Tokens
  depth : Nat

/-- What reads at a cursor and moves it. -/
abbrev Counted (α : Type) := StateT Cursor (Except Refusal) α

namespace Counted

variable {α : Type}

/-! ## Steps -/

def refuse (cause : ParseCause) : Counted α := fun cursor =>
  Grammar.refuse cause cursor.tokens

def unexpected (what : Expectation) : Counted α := fun cursor =>
  Grammar.unexpected what cursor.tokens

def skip : Counted Unit := fun cursor => .ok ((), { cursor with tokens := cursor.tokens.tail })

def peek (spelling : String) : Counted Bool := fun cursor =>
  .ok ((eat? spelling cursor.tokens).isSome, cursor)

def eat (spelling : String) : Counted Bool := fun cursor =>
  match eat? spelling cursor.tokens with
  | some rest => .ok (true, { cursor with tokens := rest })
  | none => .ok (false, cursor)

def expect (spelling : String) : Counted Unit := fun cursor =>
  (Grammar.expect spelling cursor.tokens).map fun rest => ((), { cursor with tokens := rest })

/-- What the tokens begin with, if it is known. -/
def take? (known : Tokens → Option (α × Tokens)) : Counted (Option α) := fun cursor =>
  match known cursor.tokens with
  | some (found, rest) => .ok (some found, { cursor with tokens := rest })
  | none => .ok (none, cursor)

def refuseMixed (start : Tokens) : Counted Unit := fun cursor =>
  (Grammar.refuseMixed start cursor.tokens).map fun _ => ((), cursor)

def descend : Counted Unit := do
  modify fun cursor => { cursor with depth := cursor.depth + 1 }
  if nestingLimit < (← get).depth then refuse .nestedTooDeeply

def ascend : Counted Unit :=
  modify fun cursor => { cursor with depth := cursor.depth - 1 }

/-- A function one level deeper. Where it refuses, the count is left as it stands. -/
def nested (body : Counted α) : Counted α := do
  descend
  let value ← body
  ascend
  return value

/-! ## Functions -/

def chainFrom (joint : Joint) (operand : Counted Expr) : (rounds : Nat) → Expr → Counted Expr
  | 0, left => return left
  | rounds + 1, left => do
      match ← take? joint with
      | none => return left
      | some join => do
          let right ← operand
          chainFrom joint operand rounds (join left right)

def chain (rounds : Nat) (joint : Joint) (operand : Counted Expr) : Counted Expr := do
  let first ← operand
  chainFrom joint operand rounds first

def binary (rounds : Nat) (operand : Counted Expr) : List (List BinaryOperator) → Counted Expr
  | [] => operand
  | level :: tighter => chain rounds (levelJoint level) (binary rounds operand tighter)

def conjunction (rounds : Nat) (operand : Counted Expr) : Counted Expr :=
  chain rounds (logicalJoint .and) (binary rounds operand BinaryOperator.levels)

def disjunction (rounds : Nat) (operand : Counted Expr) : Counted Expr :=
  chain rounds (logicalJoint .or) (conjunction rounds operand)

def coalesceFrom (operand : Counted Expr) : (rounds : Nat) → Expr → Counted Expr
  | 0, left => return left
  | rounds + 1, left => do
      if ← eat "??" then
        let start ← get
        let right ← operand
        refuseMixed start.tokens
        coalesceFrom operand rounds (.logical .coalesce left right)
      else
        return left

def coalesce (rounds : Nat) (operand : Counted Expr) : Counted Expr := do
  let start ← get
  let first ← operand
  if ← peek "??" then
    refuseMixed start.tokens
    coalesceFrom operand rounds first
  else
    return first

def conditionalWith (condition branch : Counted Expr) : Counted Expr := do
  let test ← condition
  if ← eat "?" then
    let consequent ← branch
    expect ":"
    let alternate ← branch
    return .conditional test consequent alternate
  else
    return test

def powerWith (base exponent : Counted Expr) : Counted Expr := do
  let start ← get
  let left ← base
  if ← peek "**" then
    if (unaryOperator? start.tokens).isSome then
      refuse .unaryBase
    else
      skip
      let right ← exponent
      return .binary .power left right
  else
    return left

def unaryWith (operand other : Counted Expr) : Counted Expr := do
  match ← take? unaryOperator? with
  | some operator => do
      let inner ← operand
      return .unary operator inner
  | none => other

def propertiesFrom : (rounds : Nat) → Expr → Counted Expr
  | 0, base => return base
  | rounds + 1, base => do
      if ← eat "." then
        match next? (← get).tokens with
        | some (.word name) => do
            skip
            propertiesFrom rounds (.member base name)
        | _ => unexpected .propertyName
      else
        return base

def properties (rounds : Nat) (base : Counted Expr) : Counted Expr := do
  let first ← base
  propertiesFrom rounds first

def elements (element : Counted Expr) : (rounds : Nat) → Counted (List (Option Expr))
  | 0 => unexpected (.symbol "]")
  | rounds + 1 => do
      if ← eat "]" then
        return []
      else if ← eat "," then
        let others ← elements element rounds
        return none :: others
      else
        let first ← element
        if ← eat "," then
          let others ← elements element rounds
          return some first :: others
        else
          expect "]"
          return [some first]

def arrayWith (rounds : Nat) (element : Counted Expr) : Counted Expr := do
  let items ← elements element rounds
  return .array items

def entry (value : Counted Expr) : Counted (String × Expr) := do
  match (next? (← get).tokens).bind entryKey? with
  | none => refuse .propertyKey
  | some (key, alone) => do
      skip
      if ← eat ":" then
        let tree ← value
        return (key, tree)
      else
        let comma ← peek ","
        let brace ← peek "\x7d"
        if alone && (comma || brace) then
          return (key, .identifier key)
        else
          unexpected (.symbol ":")

def entries (value : Counted Expr) : (rounds : Nat) → Counted (List (String × Expr))
  | 0 => unexpected (.symbol "\x7d")
  | rounds + 1 => do
      if ← eat "\x7d" then
        return []
      else
        let first ← entry value
        if ← eat "," then
          let others ← entries value rounds
          return first :: others
        else
          expect "\x7d"
          return [first]

def objectWith (rounds : Nat) (value : Counted Expr) : Counted Expr := do
  let fields ← entries value rounds
  return .object fields

def primaryWith (bracketed array object : Counted Expr) : Counted Expr := do
  match next? (← get).tokens with
  | none => unexpected .expression
  | some (.number value) => do
      skip
      return .literal (.number value)
  | some (.string value) => do
      skip
      return .literal (.string value)
  | some (.word name) =>
      if name = "true" then do
        skip
        return .literal (.boolean true)
      else if name = "false" then do
        skip
        return .literal (.boolean false)
      else if name = "null" then do
        skip
        return .literal .null
      else if Token.isReserved name then
        refuse (.reservedWord name)
      else do
        skip
        return .identifier name
  | some (.symbol spelling) =>
      if spelling = "(" then do
        skip
        let inner ← bracketed
        expect ")"
        return inner
      else if spelling = "[" then do
        skip
        array
      else if spelling = "\x7b" then do
        skip
        object
      else
        unexpected .expression

/-! ## Calls -/

/-- The functions that call each other. `whole` is what `conditional` does a level deeper. -/
structure Functions where
  conditional : Counted Expr
  power : Counted Expr
  unary : Counted Expr
  primary : Counted Expr
  array : Counted Expr
  object : Counted Expr
  whole : Counted Expr

/-- The functions, from those that they call a level deeper. -/
def functionsOver (rounds : Nat) (inner : Functions) : Functions :=
  let conditional := nested inner.whole
  let array := nested (arrayWith rounds inner.conditional)
  let object := nested (objectWith rounds inner.conditional)
  let primary := primaryWith conditional array object
  let unary := unaryWith (nested inner.unary) (properties rounds primary)
  let power := powerWith unary (nested inner.power)
  { conditional, power, unary, primary, array, object
    whole := conditionalWith (coalesce rounds (disjunction rounds power)) conditional }

/-- The functions, where a loop may go some rounds and calls may stand inside each other so
many times. -/
def functions (rounds : Nat) : (calls : Nat) → Functions
  | 0 =>
      let stuck : Counted Expr := refuse .nestedTooDeeply
      ⟨stuck, stuck, stuck, stuck, stuck, stuck, stuck⟩
  | calls + 1 => functionsOver rounds (functions rounds calls)

end Counted

inductive ParseFunction
  | conditional
  | coalesce
  | or
  | and
  /-- The binary operators of some levels, the loosest first. -/
  | binary (levels : List (List BinaryOperator))
  | power
  | unary
  | member
  | primary
  /-- What follows the opening bracket of an array. -/
  | array
  /-- What follows the opening brace of an object. -/
  | object

namespace ParseFunction

/-- The function as it counts. -/
def counted (rounds calls : Nat) (function : ParseFunction) : Counted Expr :=
  let functions := Counted.functions rounds calls
  match function with
  | conditional => functions.conditional
  | coalesce => Counted.coalesce rounds (Counted.disjunction rounds functions.power)
  | or => Counted.disjunction rounds functions.power
  | and => Counted.conjunction rounds functions.power
  | binary levels => Counted.binary rounds functions.power levels
  | power => functions.power
  | unary => functions.unary
  | member => Counted.properties rounds functions.primary
  | primary => functions.primary
  | array => functions.array
  | object => functions.object

/-- The rule that does the same where `levels` deeper levels are left. -/
def rule (levels : Nat) : ParseFunction → Rule
  | conditional => (rules levels).conditional
  | coalesce => Grammar.coalesce (disjunction (rules levels).power)
  | or => disjunction (rules levels).power
  | and => logical .and (Grammar.binary (rules levels).power BinaryOperator.levels)
  | binary operators => Grammar.binary (rules levels).power operators
  | power => (rules levels).power
  | unary => (rules levels).unary
  | member => properties (primaryAt levels)
  | primary => primaryAt levels
  | array => deeper (inner? levels) fun rules => arrayWith rules.conditional
  | object => deeper (inner? levels) fun rules => objectWith rules.conditional

end ParseFunction

end PageTemplates.Grammar
