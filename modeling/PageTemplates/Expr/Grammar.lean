import PageTemplates.Expr.Scan
import PageTemplates.Expr.Tree

/-! # The grammar of expressions

A rule reads a tree from the start of a token list and returns what it leaves. The rules
of one nesting level are built from those of the next deeper level, so the number of
levels bounds how deep an expression nests. Operators bind in the order of
`BinaryOperator.levels`, all to the left but the power.
-/

namespace PageTemplates

/-- The levels of binary operators, the loosest first. -/
def BinaryOperator.levels : List (List BinaryOperator) :=
  [[.bitOr],
   [.bitXor],
   [.bitAnd],
   [.strictEqual, .strictUnequal, .looseEqual, .looseUnequal],
   [.lessOrEqual, .greaterOrEqual, .less, .greater, .within],
   [.shiftRightZero, .shiftLeft, .shiftRight],
   [.add, .subtract],
   [.multiply, .divide, .remainder]]

def BinaryOperator.token : BinaryOperator → Token
  | .within => .word "in"
  | operator => .symbol operator.symbol

def UnaryOperator.token : UnaryOperator → Token
  | .typeOf => .word "typeof"
  | .void => .word "void"
  | operator => .symbol operator.symbol

namespace Grammar

abbrev Tokens := List Token.Placed

/-- A refusal at a token, or at the end of the tokens. -/
structure Refusal where
  cause : ParseCause
  position? : Option Nat
  deriving Repr, DecidableEq

/-- What reads a tree and returns the tokens it leaves. -/
abbrev Rule := Tokens → Except Refusal (Expr × Tokens)

/-! ## Single tokens -/

def next? (tokens : Tokens) : Option Token :=
  tokens.head?.map (·.token)

def refuse {α : Type} (cause : ParseCause) (tokens : Tokens) : Except Refusal α :=
  .error ⟨cause, tokens.head?.map (·.start)⟩

/-- Refuse the first of the tokens, where the grammar needs something else. -/
def unexpected {α : Type} (what : Expectation) (tokens : Tokens) : Except Refusal α :=
  refuse (.expected what (next? tokens)) tokens

/-- What follows a symbol, if the tokens begin with it. -/
def eat? (spelling : String) (tokens : Tokens) : Option Tokens :=
  if next? tokens = some (.symbol spelling) then some tokens.tail else none

def expect (spelling : String) (tokens : Tokens) : Except Refusal Tokens :=
  match eat? spelling tokens with
  | some rest => .ok rest
  | none => unexpected (.symbol spelling) tokens

/-- The operator of a list that the tokens begin with, and what follows it. -/
def binaryOperator? (operators : List BinaryOperator) (tokens : Tokens) :
    Option (BinaryOperator × Tokens) :=
  (operators.find? fun operator => next? tokens = some operator.token).map
    fun operator => (operator, tokens.tail)

def unaryOperator? (tokens : Tokens) : Option (UnaryOperator × Tokens) :=
  (UnaryOperator.all.find? fun operator => next? tokens = some operator.token).map
    fun operator => (operator, tokens.tail)

/-! ## Chains to the left -/

/-- What reads an operator between two operands: how it joins them, and what follows. -/
abbrev Joint := Tokens → Option ((Expr → Expr → Expr) × Tokens)

/-- Operands joined by the operators that `operator?` knows, after the first operand.
Every round takes an operator, so `fuel` need not exceed the number of tokens. -/
def chainFrom (operator? : Joint) (operand : Rule) : (fuel : Nat) → Expr → Rule
  | 0, left, tokens => .ok (left, tokens)
  | fuel + 1, left, tokens =>
      match operator? tokens with
      | none => .ok (left, tokens)
      | some (join, rest) => do
          let (right, after) ← operand rest
          chainFrom operator? operand fuel (join left right) after

def chain (operator? : Joint) (operand : Rule) : Rule := fun tokens => do
  let (first, rest) ← operand tokens
  chainFrom operator? operand rest.length first rest

/-- The binary levels from a list, over the rule for what binds tighter than all. -/
def binary (operand : Rule) : List (List BinaryOperator) → Rule
  | [] => operand
  | level :: tighter =>
      chain
        (fun tokens => (binaryOperator? level tokens).map
          fun (operator, rest) => (Expr.binary operator, rest))
        (binary operand tighter)

def logical (operator : LogicalOperator) (operand : Rule) : Rule :=
  chain
    (fun tokens => (eat? operator.symbol tokens).map
      fun rest => (Expr.logical operator, rest))
    operand

/-- The rule for `||`, which holds those for `&&` and the binary levels. -/
def disjunction (operand : Rule) : Rule :=
  logical .or (logical .and (binary operand BinaryOperator.levels))

/-! ## Coalescing -/

/-- The place of the first `||` or `&&` outside brackets, `depth` brackets being open. -/
def mixedAt? : (depth : Nat) → Tokens → Option Nat
  | _, [] => none
  | depth, placed :: rest =>
      match placed.token with
      | .symbol spelling =>
          if spelling ∈ ["(", "[", "\x7b"] then mixedAt? (depth + 1) rest
          else if spelling ∈ [")", "]", "\x7d"] then mixedAt? (depth - 1) rest
          else if spelling ∈ ["||", "&&"] ∧ depth = 0 then some placed.start
          else mixedAt? depth rest
      | _ => mixedAt? depth rest

/-- Refuse `||` and `&&` outside brackets among the tokens that were read: from `before`
up to `after`. -/
def refuseMixed (before after : Tokens) : Except Refusal Unit :=
  match mixedAt? 0 (before.take (before.length - after.length)) with
  | some position => .error ⟨.mixedCoalesce, some position⟩
  | none => .ok ()

/-- Operands of `??` after the first one. -/
def coalesceFrom (operand : Rule) : (fuel : Nat) → Expr → Rule
  | 0, left, tokens => .ok (left, tokens)
  | fuel + 1, left, tokens =>
      match eat? "??" tokens with
      | none => .ok (left, tokens)
      | some rest => do
          let (right, after) ← operand rest
          refuseMixed rest after
          coalesceFrom operand fuel (.logical .coalesce left right) after

/-- A chain of `??`, no operand of which holds `||` or `&&` outside brackets; or what the
operand alone is. -/
def coalesce (operand : Rule) : Rule := fun tokens => do
  let (first, rest) ← operand tokens
  if (eat? "??" rest).isSome then
    refuseMixed tokens rest
    coalesceFrom operand rest.length first rest
  else
    return (first, rest)

/-! ## Conditionals, powers and unary operators -/

/-- A condition with its two branches, which are `branch`es; or the condition alone. -/
def conditionalWith (condition branch : Rule) : Rule := fun tokens => do
  let (test, rest) ← condition tokens
  match eat? "?" rest with
  | none => return (test, rest)
  | some rest => do
      let (consequent, rest) ← branch rest
      let rest ← expect ":" rest
      let (alternate, rest) ← branch rest
      return (.conditional test consequent alternate, rest)

/-- A base with its exponent, or the base alone. A base with an exponent does not begin
with a unary operator. -/
def powerWith (base exponent : Rule) : Rule := fun tokens => do
  let (left, rest) ← base tokens
  match eat? "**" rest with
  | none => return (left, rest)
  | some after =>
      if (unaryOperator? tokens).isSome then
        refuse .unaryBase rest
      else do
        let (right, rest) ← exponent after
        return (.binary .power left right, rest)

/-- A unary operator with its operand, or an `other` expression. -/
def unaryWith (operand other : Rule) : Rule := fun tokens =>
  match unaryOperator? tokens with
  | some (operator, rest) => do
      let (inner, rest) ← operand rest
      return (.unary operator inner, rest)
  | none => other tokens

/-! ## Properties -/

/-- Properties after a base. Any word may name one. -/
def propertiesFrom : (fuel : Nat) → Expr → Rule
  | 0, base, tokens => .ok (base, tokens)
  | fuel + 1, base, tokens =>
      match eat? "." tokens with
      | none => .ok (base, tokens)
      | some rest =>
          match next? rest with
          | some (.word name) => propertiesFrom fuel (.member base name) rest.tail
          | _ => unexpected .propertyName rest

def properties (base : Rule) : Rule := fun tokens => do
  let (first, rest) ← base tokens
  propertiesFrom rest.length first rest

/-! ## Arrays and objects -/

/-- The elements of an array up to its closing bracket. A comma where an element may
begin is a hole; a last comma may stand before the bracket. -/
def elements (element : Rule) :
    (fuel : Nat) → Tokens → Except Refusal (List (Option Expr) × Tokens)
  | 0, tokens => unexpected (.symbol "]") tokens
  | fuel + 1, tokens =>
      match eat? "]" tokens with
      | some rest => .ok ([], rest)
      | none =>
          match eat? "," tokens with
          | some rest => do
              let (others, after) ← elements element fuel rest
              return (none :: others, after)
          | none => do
              let (first, rest) ← element tokens
              match eat? "," rest with
              | some rest => do
                  let (others, after) ← elements element fuel rest
                  return (some first :: others, after)
              | none => do
                  let rest ← expect "]" rest
                  return ([some first], rest)

def arrayWith (element : Rule) : Rule := fun tokens => do
  let (items, rest) ← elements element (tokens.length + 1) tokens
  return (.array items, rest)

/-- The key that a token is, and whether it may stand alone as a variable. -/
def entryKey? : Token → Option (String × Bool)
  | .word name => some (name, !Token.isReserved name)
  | .string value => some (value, false)
  | .number value => some (Number.text value, false)
  | .symbol _ => none

/-- An entry of an object: a key with its value, or a variable that is both. -/
def entry (value : Rule) (tokens : Tokens) : Except Refusal ((String × Expr) × Tokens) :=
  match (next? tokens).bind entryKey? with
  | none => refuse .propertyKey tokens
  | some (key, alone) =>
      let afterKey := tokens.tail
      match eat? ":" afterKey with
      | some rest => do
          let (tree, rest) ← value rest
          return ((key, tree), rest)
      | none =>
          if alone && ((eat? "," afterKey).isSome || (eat? "\x7d" afterKey).isSome) then
            .ok ((key, .identifier key), afterKey)
          else
            unexpected (.symbol ":") afterKey

/-- The entries of an object up to its closing brace. A last comma may stand before the
brace. -/
def entries (value : Rule) :
    (fuel : Nat) → Tokens → Except Refusal (List (String × Expr) × Tokens)
  | 0, tokens => unexpected (.symbol "\x7d") tokens
  | fuel + 1, tokens =>
      match eat? "\x7d" tokens with
      | some rest => .ok ([], rest)
      | none => do
          let (first, rest) ← entry value tokens
          match eat? "," rest with
          | some rest => do
              let (others, after) ← entries value fuel rest
              return (first :: others, after)
          | none => do
              let rest ← expect "\x7d" rest
              return ([first], rest)

def objectWith (value : Rule) : Rule := fun tokens => do
  let (fields, rest) ← entries value (tokens.length + 1) tokens
  return (.object fields, rest)

/-! ## Primary expressions -/

/-- A literal, a variable, or an expression in brackets of some kind. -/
def primaryWith (bracketed array object : Rule) : Rule := fun tokens =>
  match tokens with
  | [] => unexpected .expression tokens
  | placed :: rest =>
      match placed.token with
      | .number value => .ok (.literal (.number value), rest)
      | .string value => .ok (.literal (.string value), rest)
      | .word name =>
          if name = "true" then .ok (.literal (.boolean true), rest)
          else if name = "false" then .ok (.literal (.boolean false), rest)
          else if name = "null" then .ok (.literal .null, rest)
          else if Token.isReserved name then refuse (.reservedWord name) tokens
          else .ok (.identifier name, rest)
      | .symbol spelling =>
          if spelling = "(" then do
            let (inner, rest) ← bracketed rest
            let rest ← expect ")" rest
            return (inner, rest)
          else if spelling = "[" then array rest
          else if spelling = "\x7b" then object rest
          else unexpected .expression tokens

/-! ## Nesting -/

/-- The rules at one depth. `whole` reads what stands inside brackets there; `conditional`
is such an expression one level deeper. -/
structure Rules where
  conditional : Rule
  unary : Rule
  power : Rule
  whole : Rule

/-- A rule one level deeper, where there is a deeper level. -/
def deeper (inner : Option Rules) (rule : Rules → Rule) : Rule :=
  match inner with
  | some rules => rule rules
  | none => refuse .nestedTooDeeply

/-- The rules at a depth, from those of the next deeper one. -/
def rulesOver (inner : Option Rules) : Rules :=
  let conditional := deeper inner Rules.whole
  let primary :=
    primaryWith conditional
      (deeper inner fun rules => arrayWith rules.conditional)
      (deeper inner fun rules => objectWith rules.conditional)
  let unary := unaryWith (deeper inner Rules.unary) (properties primary)
  let power := powerWith unary (deeper inner Rules.power)
  { conditional, unary, power
    whole := conditionalWith (coalesce (disjunction power)) conditional }

/-- The rules where `levels` deeper levels are left. -/
def rules : (levels : Nat) → Rules
  | 0 => rulesOver none
  | levels + 1 => rulesOver (some (rules levels))

/-- How many levels an expression may nest. -/
def nestingLimit : Nat := 96

end Grammar

namespace Expr

def ofTokens (tokens : Grammar.Tokens) : Except Grammar.Refusal Expr :=
  match (Grammar.rules Grammar.nestingLimit).conditional tokens with
  | .error refusal => .error refusal
  | .ok (tree, []) => .ok tree
  | .ok (_, extra :: rest) => Grammar.refuse (.trailing extra.token) (extra :: rest)

/-- Read a source as exactly one expression. A refusal at the end of the tokens is placed
at the end of the source. -/
def parse (source : String) : Except ParseError Expr :=
  match Token.scan source with
  | .error error => .error error
  | .ok tokens =>
      match ofTokens tokens with
      | .ok tree => .ok tree
      | .error refusal =>
          .error ⟨refusal.cause, refusal.position?.getD (Token.byteLength source.toList)⟩

end Expr

end PageTemplates
