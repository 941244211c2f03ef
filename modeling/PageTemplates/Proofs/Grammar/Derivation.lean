import PageTemplates.Expr.Grammar

/-! # Derivations of expressions

The grammar that the rules read, as productions over tokens. The productions say which
stretches of tokens are expressions of which rank, what tree each stands for, and how
deep it nests. They say nothing about how a stretch is found.
-/

namespace PageTemplates.Grammar

/-- The layers of expressions. An expression of a tighter rank is one of the looser ranks
too, except that only operands without `||` and `&&` are `coalesced`. -/
inductive Rank
  | conditional
  | coalescing
  /-- Operands with `??` between them, or one operand alone. -/
  | coalesced
  | disjunction
  | conjunction
  /-- The binary operators of some levels, the loosest first. -/
  | binary (levels : List (List BinaryOperator))
  | power
  | unary
  | member
  | primary

/-- The rank of the operands of `??` and `&&`: everything that binds tighter than the
logical operators. -/
abbrev Rank.operand : Rank :=
  .binary
    [[.bitOr], [.bitXor], [.bitAnd],
     [.strictEqual, .strictUnequal, .looseEqual, .looseUnequal],
     [.lessOrEqual, .greaterOrEqual, .less, .greater, .within],
     [.shiftRightZero, .shiftLeft, .shiftRight],
     [.add, .subtract],
     [.multiply, .divide, .remainder]]

/-- What a stretch of tokens is read as. -/
inductive Phrase
  | expression (rank : Rank) (tree : Expr)
  /-- What stands between the brackets of an array. -/
  | elements (items : List (Option Expr))
  | entry (key : String) (value : Expr)
  /-- What stands between the braces of an object. -/
  | entries (fields : List (String × Expr))

/-- The tokens that stand for a constant. -/
inductive Constant : Token → Literal → Prop
  | number (value : Float) : Constant (.number value) (.number value)
  | string (value : String) : Constant (.string value) (.string value)
  | true : Constant (.word "true") (.boolean Bool.true)
  | false : Constant (.word "false") (.boolean Bool.false)
  | null : Constant (.word "null") .null

/-- The tokens that name the key of an entry. Any word does, also a reserved one. -/
inductive Names : Token → String → Prop
  | word (name : String) : Names (.word name) name
  | string (value : String) : Names (.string value) value
  | number (value : Float) : Names (.number value) (Number.text value)

/-- `Derives phrase words depth`: the productions make `words` the `phrase`, with `depth`
levels of nesting. A conditional, an array, an object, an operand of a unary operator and
an exponent each nest one level deeper than what they hold. -/
inductive Derives : Phrase → List Token → Nat → Prop
  | test {tree words depth} :
      Derives (.expression .coalescing tree) words depth →
      Derives (.expression .conditional tree) words (depth + 1)
  | branches {test consequent alternate testWords consequentWords alternateWords
      testDepth consequentDepth alternateDepth} :
      Derives (.expression .coalescing test) testWords testDepth →
      Derives (.expression .conditional consequent) consequentWords consequentDepth →
      Derives (.expression .conditional alternate) alternateWords alternateDepth →
      Derives (.expression .conditional (.conditional test consequent alternate))
        (testWords ++ .symbol "?" :: (consequentWords ++ .symbol ":" :: alternateWords))
        (max testDepth (max consequentDepth alternateDepth) + 1)
  | uncoalesced {tree words depth} :
      Derives (.expression .disjunction tree) words depth →
      Derives (.expression .coalescing tree) words depth
  | coalesced {left right leftWords rightWords leftDepth rightDepth} :
      Derives (.expression .coalesced left) leftWords leftDepth →
      Derives (.expression .operand right) rightWords rightDepth →
      Derives (.expression .coalescing (.logical .coalesce left right))
        (leftWords ++ .symbol "??" :: rightWords) (max leftDepth rightDepth)
  | coalescedOperand {tree words depth} :
      Derives (.expression .operand tree) words depth →
      Derives (.expression .coalesced tree) words depth
  | coalescedMore {left right leftWords rightWords leftDepth rightDepth} :
      Derives (.expression .coalesced left) leftWords leftDepth →
      Derives (.expression .operand right) rightWords rightDepth →
      Derives (.expression .coalesced (.logical .coalesce left right))
        (leftWords ++ .symbol "??" :: rightWords) (max leftDepth rightDepth)
  | conjunction {tree words depth} :
      Derives (.expression .conjunction tree) words depth →
      Derives (.expression .disjunction tree) words depth
  | or {left right leftWords rightWords leftDepth rightDepth} :
      Derives (.expression .disjunction left) leftWords leftDepth →
      Derives (.expression .conjunction right) rightWords rightDepth →
      Derives (.expression .disjunction (.logical .or left right))
        (leftWords ++ .symbol "||" :: rightWords) (max leftDepth rightDepth)
  | operand {tree words depth} :
      Derives (.expression .operand tree) words depth →
      Derives (.expression .conjunction tree) words depth
  | and {left right leftWords rightWords leftDepth rightDepth} :
      Derives (.expression .conjunction left) leftWords leftDepth →
      Derives (.expression .operand right) rightWords rightDepth →
      Derives (.expression .conjunction (.logical .and left right))
        (leftWords ++ .symbol "&&" :: rightWords) (max leftDepth rightDepth)
  | power {tree words depth} :
      Derives (.expression .power tree) words depth →
      Derives (.expression (.binary []) tree) words depth
  | tighter {level tighter tree words depth} :
      Derives (.expression (.binary tighter) tree) words depth →
      Derives (.expression (.binary (level :: tighter)) tree) words depth
  | binary {level tighter operator left right leftWords rightWords leftDepth rightDepth} :
      operator ∈ level →
      Derives (.expression (.binary (level :: tighter)) left) leftWords leftDepth →
      Derives (.expression (.binary tighter) right) rightWords rightDepth →
      Derives (.expression (.binary (level :: tighter)) (.binary operator left right))
        (leftWords ++ operator.token :: rightWords) (max leftDepth rightDepth)
  | unary {tree words depth} :
      Derives (.expression .unary tree) words depth →
      Derives (.expression .power tree) words depth
  | raise {base exponent baseWords exponentWords baseDepth exponentDepth} :
      Derives (.expression .member base) baseWords baseDepth →
      Derives (.expression .power exponent) exponentWords exponentDepth →
      Derives (.expression .power (.binary .power base exponent))
        (baseWords ++ .symbol "**" :: exponentWords) (max baseDepth (exponentDepth + 1))
  | member {tree words depth} :
      Derives (.expression .member tree) words depth →
      Derives (.expression .unary tree) words depth
  | apply {tree words depth} (operator : UnaryOperator) :
      Derives (.expression .unary tree) words depth →
      Derives (.expression .unary (.unary operator tree)) (operator.token :: words)
        (depth + 1)
  | primary {tree words depth} :
      Derives (.expression .primary tree) words depth →
      Derives (.expression .member tree) words depth
  | property {base words depth} (name : String) :
      Derives (.expression .member base) words depth →
      Derives (.expression .member (.member base name))
        (words ++ [.symbol ".", .word name]) depth
  | constant {token literal} :
      Constant token literal →
      Derives (.expression .primary (.literal literal)) [token] 0
  | identifier {name} :
      Token.isReserved name = false →
      Derives (.expression .primary (.identifier name)) [.word name] 0
  | bracketed {tree words depth} :
      Derives (.expression .conditional tree) words depth →
      Derives (.expression .primary tree) (.symbol "(" :: (words ++ [.symbol ")"])) depth
  | array {items words depth} :
      Derives (.elements items) words depth →
      Derives (.expression .primary (.array items))
        (.symbol "[" :: (words ++ [.symbol "]"])) (depth + 1)
  | object {fields words depth} :
      Derives (.entries fields) words depth →
      Derives (.expression .primary (.object fields))
        (.symbol "\x7b" :: (words ++ [.symbol "\x7d"])) (depth + 1)
  | noElements : Derives (.elements []) [] 0
  | hole {items words depth} :
      Derives (.elements items) words depth →
      Derives (.elements (none :: items)) (.symbol "," :: words) depth
  | element {tree items words otherWords depth otherDepth} :
      Derives (.expression .conditional tree) words depth →
      Derives (.elements items) otherWords otherDepth →
      Derives (.elements (some tree :: items)) (words ++ .symbol "," :: otherWords)
        (max depth otherDepth)
  | lastElement {tree words depth} :
      Derives (.expression .conditional tree) words depth →
      Derives (.elements [some tree]) words depth
  | keyed {token key value words depth} :
      Names token key →
      Derives (.expression .conditional value) words depth →
      Derives (.entry key value) (token :: .symbol ":" :: words) depth
  | shorthand {name} :
      Token.isReserved name = false →
      Derives (.entry name (.identifier name)) [.word name] 0
  | noEntries : Derives (.entries []) [] 0
  | field {key value fields words otherWords depth otherDepth} :
      Derives (.entry key value) words depth →
      Derives (.entries fields) otherWords otherDepth →
      Derives (.entries ((key, value) :: fields)) (words ++ .symbol "," :: otherWords)
        (max depth otherDepth)
  | lastField {key value words depth} :
      Derives (.entry key value) words depth →
      Derives (.entries [(key, value)]) words depth

end PageTemplates.Grammar
