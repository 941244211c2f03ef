import PageTemplates.Expr.Grammar
import PageTemplates.Text.Blank
import PageTemplates.Text.Letter
import PageTemplates.Text.Split
import PageTemplates.Text.Units

/-! # Segments

What the code of a tag asks for: the text of another view, the value at the end of a
dotted path, or the value of an expression. Code that is none of these, that is too
long or that mentions a denied name is rejected and renders nothing.
-/

namespace PageTemplates

inductive IncludeTarget
  /-- In single or double quotes. -/
  | quoted (text : String)
  /-- Without quotes, like a dotted path. -/
  | bare (text : String)
  deriving Repr, DecidableEq

def IncludeTarget.text : IncludeTarget → String
  | quoted text => text
  | bare text => text

inductive Segment
  | text (content : String)
  | path (names : List String)
  | inclusion (target : IncludeTarget)
  | expression (value : SafeExpr)
  | rejected

namespace Segment

def isPathCharacter (character : Char) : Bool :=
  Text.isAsciiWord character || character = '_' || character = '.'

/-- The argument at the start of a text, and what follows it. -/
def cutTarget? : List Char → Option (IncludeTarget × List Char)
  | [] => none
  | first :: rest =>
      if first = '\'' || first = '"' then
        match rest.takeWhile (· != first), rest.dropWhile (· != first) with
        | content@(_ :: _), _ :: after => some (.quoted (String.ofList content), after)
        | _, _ => none
      else
        match (first :: rest).takeWhile isPathCharacter with
        | [] => none
        | name => some (.bare (String.ofList name), (first :: rest).dropWhile isPathCharacter)

def dropWord? (word text : List Char) : Option (List Char) :=
  if word.isPrefixOf text then some (text.drop word.length) else none

/-- The argument of code of the include form: the word `include`, the argument in
parentheses and perhaps a semicolon, with blanks anywhere between. -/
def includeTarget? (code : List Char) : Option IncludeTarget := do
  let call ← dropWord? "include".toList code
  let inside ← dropWord? ['('] (Text.trimStart call)
  let (target, after) ← cutTarget? (Text.trimStart inside)
  let tail ← dropWord? [')'] (Text.trimStart after)
  if Text.trimStart tail = [] || Text.trimStart tail = [';'] then some target else none

example : includeTarget? "include ( 'a.b' ) ;".toList = some (.quoted "a.b") := by decide +kernel

example : includeTarget? "include(a.b)".toList = some (.bare "a.b") := by decide +kernel

example : includeTarget? "include('a\")".toList = none := by decide +kernel

def isPath (code : List Char) : Bool :=
  !code.isEmpty && code.all isPathCharacter

/-- The greatest length of an expression, in UTF-16 units. -/
def expressionLimit : Nat := 800

/-- The expression that code spells, if it is short enough and safe. -/
def safeExpression? (code : String) : Option SafeExpr :=
  if expressionLimit < Text.unitCount code then
    none
  else
    match Expr.parse code with
    | .ok tree => SafeExpr.ofTree? tree
    | .error _ => none

def ofCode (code : List Char) : Segment :=
  match includeTarget? code with
  | some target => .inclusion target
  | none =>
      if isPath code then
        .path ((Text.splitAt '.' code).map String.ofList)
      else
        match safeExpression? (String.ofList code) with
        | some found => .expression found
        | none => .rejected

def isInclusion : Segment → Bool
  | inclusion _ => true
  | _ => false

end Segment

end PageTemplates
