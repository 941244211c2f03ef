import PageTemplates.Number.Style
import PageTemplates.Text.Quoted

/-! # Tokens of expressions -/

namespace PageTemplates

inductive Token
  | number (value : Float)
  | string (value : String)
  | word (name : String)
  | symbol (spelling : String)
  deriving Repr, DecidableEq, Inhabited

namespace Token

def described : Token → String
  | .number value => "Number(" ++ Number.Style.message.write value ++ ")"
  | .string value => "Str(" ++ Text.quoted value ++ ")"
  | .word name => "Ident(" ++ Text.quoted name ++ ")"
  | .symbol spelling => "Punct(" ++ Text.quoted spelling ++ ")"

example : (number 1).described = "Number(1.0)" := by decide +kernel

example : (symbol "(").described = "Punct(\"(\")" := by decide +kernel

/-- The spellings of symbols, a longer one before any that begins it. Assignments and
updates are tokens so that the grammar refuses them: `a++b` is not `a + +b`. -/
def symbols : List String :=
  [">>>=",
   "...", "===", "!==", "**=", "<<=", ">>=", ">>>", "&&=", "||=", "??=",
   "=>", "==", "!=", "<=", ">=", "&&", "||", "??", "**", "<<", ">>", "++", "--",
   "+=", "-=", "*=", "/=", "%=", "&=", "|=", "^=",
   "(", ")", "[", "]", "\x7b", "\x7d", ";", ",", "<", ">", "+", "-", "*", "/", "%",
   "&", "|", "^", "!", "~", "?", ":", "=", "."]

/-- Words that no variable has for a name. They may name a property. -/
def reserved : List String :=
  ["await", "break", "case", "catch", "class", "const", "continue", "debugger",
   "default", "delete", "do", "else", "enum", "export", "extends", "finally",
   "for", "function", "if", "implements", "import", "in", "instanceof",
   "interface", "let", "new", "package", "private", "protected", "public",
   "return", "static", "super", "switch", "throw", "try", "var", "while",
   "with", "yield", "typeof", "void", "true", "false", "null"]

def isReserved (name : String) : Bool :=
  reserved.contains name

/-- A token and the bytes of the source that it takes, from `start` to before `stop`. -/
structure Placed where
  token : Token
  start : Nat
  stop : Nat
  deriving Repr, DecidableEq

end Token

/-! ## Refusals -/

/-- What the grammar needs where it finds something else. -/
inductive Expectation
  | symbol (spelling : String)
  | propertyName
  | expression
  deriving Repr, DecidableEq

def Expectation.text : Expectation → String
  | .symbol spelling => "`" ++ spelling ++ "`"
  | .propertyName => "property name"
  | .expression => "expression"

inductive ParseCause
  | unexpectedCharacter (character : Char)
  | unterminatedComment
  | unterminatedString
  | lineBreakInString
  | octalEscape
  | invalidHexadecimalEscape
  | invalidUnicodeEscape
  | invalidCodePoint
  | legacyOctal
  | missingRadixDigits
  | missingExponent
  | unreadableNumber
  | wordAfterNumber
  | expected (what : Expectation) (found : Option Token)
  | trailing (found : Token)
  | reservedWord (name : String)
  | propertyKey
  | unaryBase
  | mixedCoalesce
  | nestedTooDeeply
  deriving Repr, DecidableEq

def ParseCause.text : ParseCause → String
  | .unexpectedCharacter character =>
      "unexpected character `" ++ String.singleton character ++ "`"
  | .unterminatedComment => "unterminated comment"
  | .unterminatedString => "unterminated string"
  | .lineBreakInString => "line break in string"
  | .octalEscape => "octal escape sequence"
  | .invalidHexadecimalEscape => "invalid hexadecimal escape"
  | .invalidUnicodeEscape => "invalid unicode escape"
  | .invalidCodePoint => "invalid code point"
  | .legacyOctal => "legacy octal literal"
  | .missingRadixDigits => "missing digits after radix prefix"
  | .missingExponent => "missing exponent"
  | .unreadableNumber => "invalid float literal"
  | .wordAfterNumber => "identifier directly after number"
  | .expected what found =>
      "expected " ++ what.text ++ ", found " ++
        (match found with
        | some token => token.described
        | none => "end of input")
  | .trailing found => "unexpected " ++ found.described ++ " after expression"
  | .reservedWord name => "reserved word `" ++ name ++ "`"
  | .propertyKey => "expected property key"
  | .unaryBase => "unary operand of `**` must be parenthesized"
  | .mixedCoalesce => "`??` mixed with `||` or `&&` needs parentheses"
  | .nestedTooDeeply => "expression nested too deeply"

/-- A refusal, with the byte of the source where it arose. -/
structure ParseError where
  cause : ParseCause
  position : Nat
  deriving Repr, DecidableEq

def ParseError.text (error : ParseError) : String :=
  error.cause.text

def ParseError.message (error : ParseError) : String :=
  error.text ++ " at offset " ++ Nat.repr error.position

end PageTemplates
