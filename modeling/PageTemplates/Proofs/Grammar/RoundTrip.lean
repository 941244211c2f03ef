import PageTemplates.Proofs.Grammar.Printing

/-! # Parsing printed expressions

The texts of the tokens of a printed tree, with spaces between them, are scanned as those
tokens and parsed as the tree.
-/

namespace PageTemplates.Expr

open Grammar (nestingLimit Derives)

/-! ## The tokens of a printed form -/

/-- Only tokens that the scanner can find. -/
def Lexable (words : List Token) : Prop :=
  ∀ token ∈ words, Token.isLexable token = true

namespace Lexable

theorem nil : Lexable [] := nofun

theorem cons {token : Token} {words : List Token} (first : Token.isLexable token = true)
    (others : Lexable words) : Lexable (token :: words) :=
  List.forall_mem_cons.mpr ⟨first, others⟩

theorem append {left right : List Token} (first : Lexable left) (second : Lexable right) :
    Lexable (left ++ right) :=
  List.forall_mem_append.mpr ⟨first, second⟩

theorem word {name : String} {words : List Token} (isName : Token.isName name.toList = true)
    (others : Lexable words) : Lexable (.word name :: words) :=
  others.cons isName

/-- The symbols that are no operators. -/
theorem symbol {spelling : String} {words : List Token} (others : Lexable words)
    (known : spelling ∈ ["(", ")", "[", "]", "\x7b", "\x7d", "?", ":", ",", "."]) :
    Lexable (.symbol spelling :: words) := by
  have all : ∀ spelling ∈ ["(", ")", "[", "]", "\x7b", "\x7d", "?", ":", ",", "."],
      Token.isLexable (.symbol spelling) = true := by decide +kernel
  exact others.cons (all spelling known)

theorem enclosed {left right : String} {words : List Token} (inner : Lexable words)
    (knownLeft : left ∈ ["(", ")", "[", "]", "\x7b", "\x7d", "?", ":", ",", "."])
    (knownRight : right ∈ ["(", ")", "[", "]", "\x7b", "\x7d", "?", ":", ",", "."]) :
    Lexable (.symbol left :: (words ++ [.symbol right])) :=
  (inner.append (nil.symbol knownRight)).symbol knownLeft

theorem placed {tree : Expr} {words : List Token} (lexable : Lexable words) (least : Nat) :
    Lexable (tree.placed least words) := by
  rw [Expr.placed]
  split
  · exact lexable.enclosed (by decide) (by decide)
  · exact lexable

end Lexable

theorem isLexable_binaryOperator (operator : BinaryOperator) :
    Token.isLexable operator.token = true := by
  cases operator <;> decide +kernel

theorem isLexable_unaryOperator (operator : UnaryOperator) :
    Token.isLexable operator.token = true := by
  cases operator <;> decide +kernel

theorem isLexable_logicalOperator (operator : LogicalOperator) :
    Token.isLexable (.symbol operator.symbol) = true := by
  cases operator <;> decide +kernel

theorem isLexable_literal (literal : Literal) : Token.isLexable literal.token = true := by
  cases literal with
  | null => decide +kernel
  | number | string => rfl
  | boolean value => cases value <;> decide +kernel

mutual

theorem lexable_words : (tree : Expr) → tree.isPrintable = true → Lexable tree.words
  | .literal value, _ => Lexable.nil.cons (isLexable_literal value)
  | .identifier name, printable => by
      rw [isPrintable, Bool.and_eq_true] at printable
      exact Lexable.nil.word printable.1
  | .member base property, printable => by
      rw [isPrintable, Bool.and_eq_true] at printable
      rw [words]
      exact ((lexable_words base printable.2).placed 14).append
        ((Lexable.nil.word printable.1).symbol (by decide))
  | .unary operator operand, printable => by
      rw [isPrintable] at printable
      rw [words]
      exact ((lexable_words operand printable).placed 13).cons
        (isLexable_unaryOperator operator)
  | .binary operator left right, printable => by
      rw [isPrintable, Bool.and_eq_true] at printable
      rw [words]
      exact ((lexable_words left printable.1).placed _).append
        (((lexable_words right printable.2).placed _).cons (isLexable_binaryOperator operator))
  | .logical operator left right, printable => by
      rw [isPrintable, Bool.and_eq_true] at printable
      rw [words]
      exact ((lexable_words left printable.1).placed _).append
        (((lexable_words right printable.2).placed _).cons
          (isLexable_logicalOperator operator))
  | .conditional test consequent alternate, printable => by
      rw [isPrintable, Bool.and_eq_true, Bool.and_eq_true] at printable
      rw [words]
      exact ((lexable_words test printable.1.1).placed 1).append
        (((lexable_words consequent printable.1.2).append
          ((lexable_words alternate printable.2).symbol (by decide))).symbol (by decide))
  | .array elements, printable => by
      rw [isPrintable] at printable
      rw [words]
      exact (lexable_elements elements printable).enclosed (by decide) (by decide)
  | .object entries, printable => by
      rw [isPrintable] at printable
      rw [words]
      exact (lexable_entries entries printable).enclosed (by decide) (by decide)

theorem lexable_elements :
    (elements : List (Option Expr)) → elementsPrintable elements = true →
      Lexable (elementsWords elements)
  | [], _ => Lexable.nil
  | none :: rest, printable => by
      rw [elementsPrintable] at printable
      exact (lexable_elements rest printable).symbol (by decide)
  | some element :: rest, printable => by
      rw [elementsPrintable, Bool.and_eq_true] at printable
      rw [elementsWords]
      exact (lexable_words element printable.1).append
        ((lexable_elements rest printable.2).symbol (by decide))

theorem lexable_entries :
    (entries : List (String × Expr)) → entriesPrintable entries = true →
      Lexable (entriesWords entries)
  | [], _ => Lexable.nil
  | (key, value) :: rest, printable => by
      rw [entriesPrintable, Bool.and_eq_true] at printable
      have others : Lexable
          (if rest.isEmpty then [] else .symbol "," :: entriesWords rest) := by
        split
        · exact Lexable.nil
        · exact (lexable_entries rest printable.2).symbol (by decide)
      rw [entriesWords]
      exact (((lexable_words value printable.1).append others).symbol (by decide)).cons rfl

end

/-! ## The round trip -/

end PageTemplates.Expr
