import PageTemplates.Proofs.Grammar.Derivation

/-! # Names among the tokens

No name is lost between the tokens of an expression and its tree: every word is a name of
the tree or one of the grammar's own words, and so is every string that stands as a key.
A tree without denied names therefore comes from tokens without them.
-/

namespace PageTemplates.Grammar

/-- Whether no name in the trees of a phrase is denied. -/
def Phrase.isSafe : Phrase → Bool
  | .expression _ tree => tree.isSafe
  | .elements items => Expr.elementsSafe items
  | .entry key value => !isDenied key && value.isSafe
  | .entries fields => Expr.entriesSafe fields

/-! ## Words -/

/-- Tokens of which no word is denied. -/
def AllowedWords (words : List Token) : Prop :=
  ∀ name, .word name ∈ words → isDenied name = false

namespace AllowedWords

theorem nil : AllowedWords [] := nofun

theorem append {left right : List Token} (first : AllowedWords left)
    (second : AllowedWords right) : AllowedWords (left ++ right) := by
  intro name member
  rcases List.mem_append.mp member with member | member
  · exact first name member
  · exact second name member

theorem cons {token : Token} {words : List Token}
    (allowed : ∀ name, token = .word name → isDenied name = false)
    (others : AllowedWords words) : AllowedWords (token :: words) := by
  intro name member
  rcases List.mem_cons.mp member with equal | member
  · exact allowed name equal.symm
  · exact others name member

theorem symbol {spelling : String} {words : List Token} (others : AllowedWords words) :
    AllowedWords (.symbol spelling :: words) :=
  others.cons nofun

theorem word {name : String} {words : List Token} (allowed : isDenied name = false)
    (others : AllowedWords words) : AllowedWords (.word name :: words) := by
  apply others.cons
  intro other equal
  cases equal
  exact allowed

end AllowedWords

theorem BinaryOperator.token_allowed (operator : BinaryOperator) (name : String)
    (spelled : operator.token = .word name) : isDenied name = false := by
  cases operator <;> cases spelled
  decide

theorem UnaryOperator.token_allowed (operator : UnaryOperator) (name : String)
    (spelled : operator.token = .word name) : isDenied name = false := by
  cases operator <;> cases spelled <;> decide

theorem Constant.allowed {token : Token} {literal : Literal}
    (constant : Constant token literal) (name : String) (spelled : token = .word name) :
    isDenied name = Bool.false := by
  subst spelled
  cases constant <;> decide

theorem Names.allowed {token : Token} {key : String} (names : Names token key)
    (allowed : isDenied key = false) (name : String) (spelled : token = .word name) :
    isDenied name = false := by
  subst spelled
  cases names
  exact allowed

/-- By induction on the derivation: what is safe as a whole is safe in its parts, and the
words that a production adds are names of the tree or words of the grammar. -/
theorem Derives.allowedWords {phrase : Phrase} {words : List Token} {depth : Nat}
    (derived : Derives phrase words depth) (safe : phrase.isSafe = true) :
    AllowedWords words := by
  induction derived with
  | test _ induction | uncoalesced _ induction | coalescedOperand _ induction
  | conjunction _ induction | operand _ induction | power _ induction | tighter _ induction
  | unary _ induction | member _ induction | primary _ induction => exact induction safe
  | branches _ _ _ test consequent alternate =>
      simp only [Phrase.isSafe, Expr.isSafe, Bool.and_eq_true] at safe
      exact (test safe.1.1).append
        (.symbol ((consequent safe.1.2).append (.symbol (alternate safe.2))))
  | coalesced _ _ left right | coalescedMore _ _ left right | or _ _ left right
  | and _ _ left right | raise _ _ left right =>
      simp only [Phrase.isSafe, Expr.isSafe, Bool.and_eq_true] at safe
      exact (left safe.1).append (.symbol (right safe.2))
  | binary _ _ _ left right =>
      simp only [Phrase.isSafe, Expr.isSafe, Bool.and_eq_true] at safe
      exact (left safe.1).append ((right safe.2).cons (BinaryOperator.token_allowed _))
  | apply operator _ induction =>
      exact (induction safe).cons (UnaryOperator.token_allowed operator)
  | property name _ induction =>
      simp only [Phrase.isSafe, Expr.isSafe, Bool.and_eq_true, Bool.not_eq_true'] at safe
      exact (induction safe.2).append (.symbol (.word safe.1 .nil))
  | constant constant => exact AllowedWords.nil.cons constant.allowed
  | identifier _ =>
      simp only [Phrase.isSafe, Expr.isSafe, Bool.not_eq_true'] at safe
      exact .word safe .nil
  | bracketed _ induction => exact .symbol ((induction safe).append (.symbol .nil))
  | array _ induction | object _ induction =>
      simp only [Phrase.isSafe, Expr.isSafe] at safe
      exact .symbol ((induction safe).append (.symbol .nil))
  | noElements | noEntries => exact .nil
  | hole _ induction => exact .symbol (induction safe)
  | element _ _ first others =>
      simp only [Phrase.isSafe, Expr.elementsSafe, Bool.and_eq_true] at safe
      exact (first safe.1).append (.symbol (others safe.2))
  | lastElement _ induction =>
      simp only [Phrase.isSafe, Expr.elementsSafe, Bool.and_true] at safe
      exact induction safe
  | keyed names _ induction =>
      simp only [Phrase.isSafe, Bool.and_eq_true, Bool.not_eq_true'] at safe
      exact (AllowedWords.symbol (induction safe.2)).cons (names.allowed safe.1)
  | shorthand _ =>
      simp only [Phrase.isSafe, Bool.and_eq_true, Bool.not_eq_true'] at safe
      exact .word safe.1 .nil
  | field _ _ first others =>
      simp only [Phrase.isSafe, Expr.entriesSafe, Bool.and_eq_true] at safe first
      exact (first safe.1).append (.symbol (others safe.2))
  | lastField _ induction =>
      simp only [Phrase.isSafe, Expr.entriesSafe, Bool.and_true] at safe induction
      exact induction safe

/-! ## Keys that are strings

A string is the key of an entry where it stands between the brace of an object, or a
comma, and a colon. A string after a comma in an array is followed by something else, and
one that a colon of a conditional follows has something else before it.
-/

/-- The symbols that the key of an entry may follow. -/
def opensEntry : Token → Bool
  | .symbol spelling => spelling = "\x7b" || spelling = ","
  | _ => false

/-- Whether a string stands among the tokens as the key of an entry. -/
def StandsAsKey (key : String) (words : List Token) : Prop :=
  ∃ opener, opensEntry opener = true ∧ [opener, .string key, .symbol ":"] <:+: words

/-- Tokens of which no string that stands as a key is denied. -/
def AllowedKeys (words : List Token) : Prop :=
  ∀ key, StandsAsKey key words → isDenied key = false

/-- The tokens that are no part of any key: no string, no colon, and nothing that a key
follows. -/
def isNeutral : Token → Bool
  | .symbol spelling => spelling != "\x7b" && spelling != "," && spelling != ":"
  | .string _ => false
  | _ => true

theorem not_opensEntry_of_isNeutral {token : Token} (neutral : isNeutral token = true) :
    opensEntry token = false := by
  cases token <;> simp_all [isNeutral, opensEntry]

@[simp]
theorem BinaryOperator.token_isNeutral (operator : BinaryOperator) :
    isNeutral operator.token = true := by
  cases operator <;> decide

@[simp]
theorem UnaryOperator.token_isNeutral (operator : UnaryOperator) :
    isNeutral operator.token = true := by
  cases operator <;> decide

theorem symbol_ne_string (spelling key : String) : Token.symbol spelling ≠ .string key :=
  nofun

/-- Three tokens in a row whose middle is not `token` stand before it or after it, perhaps
with it at the end. -/
theorem infix_append_cons {first middle last token : Token} {left right : List Token}
    (other : token ≠ middle) (inside : [first, middle, last] <:+: left ++ token :: right) :
    [first, middle, last] <:+: left ++ [token] ∨
      [first, middle, last] <:+: token :: right := by
  induction left with
  | nil => exact .inr inside
  | cons head left induction =>
      rw [List.cons_append, List.infix_cons_iff] at inside
      rcases inside with starts | inside
      · left
        rcases left with - | ⟨second, - | ⟨third, left⟩⟩
        · simp [List.cons_prefix_cons, other.symm] at starts
        · simp only [List.cons_append, List.nil_append, List.cons_prefix_cons,
            List.nil_prefix, and_true] at starts
          rcases starts with ⟨rfl, rfl, rfl⟩
          exact List.infix_refl _
        · simp only [List.cons_append, List.cons_prefix_cons, List.nil_prefix,
            and_true] at starts
          rcases starts with ⟨rfl, rfl, rfl⟩
          exact ⟨[], left ++ [token], rfl⟩
      · rcases induction inside with before | after
        · exact .inl (List.infix_cons_iff.mpr (.inr before))
        · exact .inr after

namespace AllowedKeys

theorem mono {words others : List Token} (included : words <:+: others)
    (allowed : AllowedKeys others) : AllowedKeys words := by
  rintro key ⟨opener, opens, inside⟩
  exact allowed key ⟨opener, opens, inside.trans included⟩

theorem append_cons (left : List Token) {token : Token} {right : List Token}
    (noString : ∀ key, token ≠ .string key) (before : AllowedKeys (left ++ [token]))
    (after : AllowedKeys (token :: right)) : AllowedKeys (left ++ token :: right) := by
  rintro key ⟨opener, opens, inside⟩
  rcases infix_append_cons (noString key) inside with inside | inside
  · exact before key ⟨opener, opens, inside⟩
  · exact after key ⟨opener, opens, inside⟩

theorem cons {token : Token} {words : List Token} (closed : opensEntry token = false)
    (others : AllowedKeys words) : AllowedKeys (token :: words) := by
  rintro key ⟨opener, opens, inside⟩
  rcases List.infix_cons_iff.mp inside with starts | inside
  · rw [List.cons_prefix_cons] at starts
    rw [starts.1, closed] at opens
    cases opens
  · exact others key ⟨opener, opens, inside⟩

theorem concat {token : Token} {words : List Token} (other : token ≠ .symbol ":")
    (others : AllowedKeys words) : AllowedKeys (words ++ [token]) := by
  rintro key ⟨opener, opens, inside⟩
  rcases List.infix_concat_iff.mp inside with ends | inside
  · have last := ends.getLast (by simp)
    simp at last
    exact absurd last.symm other
  · exact others key ⟨opener, opens, inside⟩

theorem of_length_le {words : List Token} (short : words.length ≤ 2) :
    AllowedKeys words := by
  rintro key ⟨opener, -, inside⟩
  have := inside.length_le
  simp only [List.length_cons, List.length_nil] at this
  omega

/-- A comma allows every key at the start of what follows it, so any token may stand in
its place. -/
theorem reopen {words : List Token} (token : Token)
    (allowed : AllowedKeys (.symbol "," :: words)) : AllowedKeys (token :: words) := by
  rintro key ⟨opener, opens, inside⟩
  rcases List.infix_cons_iff.mp inside with starts | inside
  · rw [List.cons_prefix_cons] at starts
    have next : [.symbol ",", .string key, .symbol ":"] <+: .symbol "," :: words :=
      List.cons_prefix_cons.mpr ⟨rfl, starts.2⟩
    exact allowed key ⟨.symbol ",", rfl, next.isInfix⟩
  · exact allowed key ⟨opener, opens, List.infix_cons_iff.mpr (.inr inside)⟩

theorem listed (left : List Token) {right : List Token}
    (first : AllowedKeys (.symbol "," :: left)) (others : AllowedKeys (.symbol "," :: right)) :
    AllowedKeys (.symbol "," :: (left ++ .symbol "," :: right)) :=
  append_cons (.symbol "," :: left) (symbol_ne_string _)
    (first.concat (by decide +kernel)) others

end AllowedKeys

/-- What the tokens of an expression have: no denied key stands among them, also if a comma
precedes them or a colon follows them. -/
structure Keyed (words : List Token) : Prop where
  opened : AllowedKeys (.symbol "," :: words)
  closed : AllowedKeys (words ++ [.symbol ":"])

namespace Keyed

theorem of_length_le {words : List Token} (short : words.length ≤ 1) : Keyed words where
  opened := .of_length_le (by simpa using short)
  closed := .of_length_le (by simpa using short)

theorem joined (left : List Token) {token : Token} {right : List Token}
    (neutral : isNeutral token = true) (first : Keyed left) (second : Keyed right) :
    Keyed (left ++ token :: right) := by
  have noString (key : String) : token ≠ .string key := by
    rintro rfl
    cases neutral
  have noColon : token ≠ .symbol ":" := by
    rintro rfl
    simp [isNeutral] at neutral
  have before : AllowedKeys (.symbol "," :: (left ++ [token])) := first.opened.concat noColon
  constructor
  · exact .append_cons (.symbol "," :: left) noString before (second.opened.reopen token)
  · rw [List.append_assoc]
    exact .append_cons left noString (before.mono (List.suffix_cons _ _).isInfix)
      (second.closed.cons (not_opensEntry_of_isNeutral neutral))

theorem enclosed {left right : String} {words : List Token} (other : right ≠ ":")
    (inside : AllowedKeys (.symbol "," :: words)) :
    Keyed (.symbol left :: (words ++ [.symbol right])) := by
  have noColon : Token.symbol right ≠ .symbol ":" := by simpa using other
  have within : AllowedKeys (.symbol left :: (words ++ [.symbol right])) :=
    (inside.reopen (.symbol left)).concat noColon
  constructor
  · exact .append_cons [.symbol ","] (symbol_ne_string _) (.of_length_le (by simp)) within
  · rw [List.cons_append, List.append_assoc]
    exact .append_cons (.symbol left :: words) (symbol_ne_string _) within
      (.of_length_le (by simp))

/-- The colon of a conditional ends an expression, so what precedes it is no key. -/
theorem branches {test consequent alternate : List Token} (first : Keyed test)
    (second : Keyed consequent) (third : Keyed alternate) :
    Keyed (test ++ .symbol "?" :: (consequent ++ .symbol ":" :: alternate)) := by
  have before : AllowedKeys (.symbol "," :: (test ++ [.symbol "?"])) :=
    first.opened.concat (by decide +kernel)
  have between : AllowedKeys (.symbol "?" :: (consequent ++ [.symbol ":"])) :=
    second.closed.cons (by decide)
  constructor
  · exact .append_cons (.symbol "," :: test) (symbol_ne_string _) before
      (.append_cons (.symbol "?" :: consequent) (symbol_ne_string _) between
        (third.opened.reopen (.symbol ":")))
  · rw [List.append_assoc, List.cons_append, List.append_assoc]
    exact .append_cons test (symbol_ne_string _) (before.mono (List.suffix_cons _ _).isInfix)
      (.append_cons (.symbol "?" :: consequent) (symbol_ne_string _) between
        (third.closed.cons (by decide)))

end Keyed

theorem Names.allowedKeys {token : Token} {key : String} {words : List Token}
    (names : Names token key) (allowed : isDenied key = false)
    (value : AllowedKeys (.symbol ":" :: words)) :
    AllowedKeys (.symbol "," :: token :: .symbol ":" :: words) := by
  have closed : opensEntry token = false := by cases names <;> rfl
  rintro other ⟨opener, opens, inside⟩
  rcases List.infix_cons_iff.mp inside with starts | inside
  · simp only [List.cons_prefix_cons] at starts
    rcases starts with ⟨-, rfl, -⟩
    cases names
    exact allowed
  · exact value.cons closed other ⟨opener, opens, inside⟩

/-- What the tokens of a phrase have if its trees are safe. -/
def Phrase.Keyed : Phrase → List Token → Prop
  | .expression _ _, words => Grammar.Keyed words
  | _, words => AllowedKeys (.symbol "," :: words)

/-- By induction on the derivation. A production for entries adds a key of its tree; no
other production puts a colon behind a string that follows a comma or a brace. -/
theorem Derives.keyedSafely {phrase : Phrase} {words : List Token} {depth : Nat}
    (derived : Derives phrase words depth) (safe : phrase.isSafe = true) :
    phrase.Keyed words := by
  induction derived with
  | test _ induction | uncoalesced _ induction | coalescedOperand _ induction
  | conjunction _ induction | operand _ induction | power _ induction | tighter _ induction
  | unary _ induction | member _ induction | primary _ induction => exact induction safe
  | branches _ _ _ test consequent alternate =>
      simp only [Phrase.isSafe, Expr.isSafe, Bool.and_eq_true] at safe
      exact .branches (test safe.1.1) (consequent safe.1.2) (alternate safe.2)
  | coalesced _ _ left right | coalescedMore _ _ left right | or _ _ left right
  | and _ _ left right | raise _ _ left right =>
      simp only [Phrase.isSafe, Expr.isSafe, Bool.and_eq_true] at safe
      exact .joined _ (by decide) (left safe.1) (right safe.2)
  | binary _ _ _ left right =>
      simp only [Phrase.isSafe, Expr.isSafe, Bool.and_eq_true] at safe
      exact .joined _ (BinaryOperator.token_isNeutral _) (left safe.1) (right safe.2)
  | apply operator _ induction =>
      exact .joined [] (UnaryOperator.token_isNeutral operator)
        (.of_length_le (by simp)) (induction safe)
  | property name _ induction =>
      simp only [Phrase.isSafe, Expr.isSafe, Bool.and_eq_true] at safe
      exact .joined _ (by decide) (induction safe.2) (.of_length_le (by simp))
  | constant _ | identifier _ => exact .of_length_le (by simp)
  | bracketed _ induction => exact .enclosed (by decide) (induction safe).opened
  | array _ induction | object _ induction =>
      simp only [Phrase.isSafe, Expr.isSafe] at safe
      exact .enclosed (by decide) (induction safe)
  | noElements | noEntries | shorthand _ => exact AllowedKeys.of_length_le (by simp)
  | hole _ induction =>
      exact .listed [] (.of_length_le (by simp)) (induction safe)
  | element _ _ first others =>
      simp only [Phrase.isSafe, Expr.elementsSafe, Bool.and_eq_true] at safe
      exact (first safe.1).opened.listed _ (others safe.2)
  | lastElement _ induction =>
      simp only [Phrase.isSafe, Expr.elementsSafe, Bool.and_true] at safe
      exact (induction safe).opened
  | keyed names _ induction =>
      simp only [Phrase.isSafe, Bool.and_eq_true, Bool.not_eq_true'] at safe
      exact names.allowedKeys safe.1 ((induction safe.2).opened.reopen _)
  | field _ _ first others =>
      simp only [Phrase.isSafe, Expr.entriesSafe, Bool.and_eq_true] at safe first
      exact (first safe.1).listed _ (others safe.2)
  | lastField _ induction =>
      simp only [Phrase.isSafe, Expr.entriesSafe, Bool.and_true] at safe induction
      exact induction safe

theorem Derives.allowedKeys {rank : Rank} {tree : Expr} {words : List Token} {depth : Nat}
    (derived : Derives (.expression rank tree) words depth) (safe : tree.isSafe = true) :
    AllowedKeys words :=
  (derived.keyedSafely safe).opened.mono (List.suffix_cons _ _).isInfix

end PageTemplates.Grammar
