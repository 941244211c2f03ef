import PageTemplates.Proofs.Grammar.Derivation

/-! # Logical operators outside brackets

What `mixedAt?` finds among the tokens of a derived phrase. Brackets come in pairs, so the
scan leaves a phrase with as many open brackets as it entered it with. An operand holds no
`||` and no `&&` outside brackets, and a disjunction that is not an operand holds one.
-/

namespace PageTemplates.Grammar

/-- Whether a phrase never holds `||` or `&&` outside brackets. -/
def Phrase.isTight : Phrase → Bool
  | .expression .coalesced _ => true
  | .expression (.binary _) _ => true
  | .expression .power _ | .expression .unary _ => true
  | .expression .member _ | .expression .primary _ => true
  | _ => false

/-- The scan passes over these words without finding anything, `opened` brackets being
open before them and after them. -/
def Skips (opened : Nat) (words : List Token) : Prop :=
  ∀ read rest : Tokens, read.map (·.token) = words →
    mixedAt? opened (read ++ rest) = mixedAt? opened rest

/-- The scan finds something among these words, no bracket being open before them. -/
def Mixed (words : List Token) : Prop :=
  ∀ read rest : Tokens, read.map (·.token) = words → (mixedAt? 0 (read ++ rest)).isSome

/-- The tokens that neither open nor close a bracket and are no `||` and no `&&`. -/
def Plain (token : Token) : Prop :=
  ∀ spelling, token = .symbol spelling →
    spelling ∉ ["(", "[", "\x7b", ")", "]", "\x7d", "||", "&&"]

namespace Skips

theorem nil (opened : Nat) : Skips opened [] := by
  intro read rest spelled
  rw [List.map_eq_nil_iff.mp spelled]
  rfl

theorem append {opened : Nat} {left right : List Token}
    (first : Skips opened left) (second : Skips opened right) :
    Skips opened (left ++ right) := by
  intro read rest spelled
  rcases List.map_eq_append_iff.mp spelled with
    ⟨before, after, rfl, leftSpelled, rightSpelled⟩
  rw [List.append_assoc, first before _ leftSpelled, second after _ rightSpelled]

theorem cons {opened : Nat} {token : Token} {words : List Token}
    (plain : Plain token) (skips : Skips opened words) : Skips opened (token :: words) := by
  intro read rest spelled
  rcases List.map_eq_cons_iff.mp spelled with ⟨placed, after, rfl, spelling, others⟩
  rw [List.cons_append, ← skips after rest others, mixedAt?]
  split
  · rename_i symbol isSymbol
    have ordinary := plain symbol (spelling.symm.trans isSymbol)
    simp only [List.mem_cons, List.not_mem_nil, or_false, not_or] at ordinary
    simp [ordinary]
  · rfl

theorem cons_logical {opened : Nat} {symbol : String} {words : List Token}
    (inside : 0 < opened) (logical : symbol ∈ ["||", "&&"]) (skips : Skips opened words) :
    Skips opened (.symbol symbol :: words) := by
  intro read rest spelled
  rcases List.map_eq_cons_iff.mp spelled with ⟨placed, after, rfl, spelling, others⟩
  rw [List.cons_append, ← skips after rest others, mixedAt?]
  simp only [List.mem_cons, List.not_mem_nil, or_false] at logical
  rcases logical with rfl | rfl <;> simp [spelling, Nat.ne_of_gt inside]

theorem bracketed {opened : Nat} {opening closing : String} {words : List Token}
    (opens : opening ∈ ["(", "[", "\x7b"]) (closes : closing ∈ [")", "]", "\x7d"])
    (skips : Skips (opened + 1) words) :
    Skips opened (.symbol opening :: (words ++ [.symbol closing])) := by
  intro read rest spelled
  rcases List.map_eq_cons_iff.mp spelled with ⟨first, inner, rfl, firstSpelled, others⟩
  rcases List.map_eq_append_iff.mp others with
    ⟨inside, ending, rfl, insideSpelled, endingSpelled⟩
  rcases List.map_eq_singleton_iff.mp endingSpelled with ⟨last, rfl, lastSpelled⟩
  have entered : mixedAt? opened (first :: (inside ++ last :: rest)) =
      mixedAt? (opened + 1) (inside ++ last :: rest) := by
    rw [mixedAt?]
    simp [firstSpelled, opens]
  have left : mixedAt? (opened + 1) (last :: rest) = mixedAt? opened rest := by
    rw [mixedAt?]
    simp only [List.mem_cons, List.not_mem_nil, or_false] at closes
    rcases closes with rfl | rfl | rfl <;> simp [lastSpelled]
  rw [List.cons_append, List.append_assoc, List.singleton_append, entered,
    skips inside _ insideSpelled, left]

end Skips

namespace Mixed

theorem append {left right : List Token} (mixed : Mixed left) : Mixed (left ++ right) := by
  intro read rest spelled
  rcases List.map_eq_append_iff.mp spelled with ⟨before, after, rfl, leftSpelled, _⟩
  rw [List.append_assoc]
  exact mixed before _ leftSpelled

theorem of_skips {symbol : String} {left right : List Token}
    (skips : Skips 0 left) (logical : symbol ∈ ["||", "&&"]) :
    Mixed (left ++ .symbol symbol :: right) := by
  intro read rest spelled
  rcases List.map_eq_append_iff.mp spelled with
    ⟨before, after, rfl, leftSpelled, others⟩
  rcases List.map_eq_cons_iff.mp others with ⟨placed, later, rfl, spelling, _⟩
  rw [List.append_assoc, skips before _ leftSpelled, List.cons_append, mixedAt?]
  simp only [List.mem_cons, List.not_mem_nil, or_false] at logical
  rcases logical with rfl | rfl <;> simp [spelling]

end Mixed

/-! ## Tokens that the scan passes over -/

theorem Plain.word (name : String) : Plain (.word name) := by
  intro spelling equal
  cases equal

theorem Plain.symbol {spelling : String}
    (ordinary : spelling ∉ ["(", "[", "\x7b", ")", "]", "\x7d", "||", "&&"]) :
    Plain (.symbol spelling) := by
  intro other equal
  cases equal
  exact ordinary

theorem Plain.binaryOperator (operator : BinaryOperator) : Plain operator.token := by
  cases operator <;> first | exact Plain.word _ | exact Plain.symbol (by decide)

theorem Plain.unaryOperator (operator : UnaryOperator) : Plain operator.token := by
  cases operator <;> first | exact Plain.word _ | exact Plain.symbol (by decide)

theorem Constant.plain {token : Token} {literal : Literal} (constant : Constant token literal) :
    Plain token := by
  intro spelling equal
  subst equal
  cases constant

theorem Names.plain {token : Token} {key : String} (names : Names token key) :
    Plain token := by
  intro spelling equal
  subst equal
  cases names

/-! ## Derived phrases -/

theorem Derives.skips {phrase : Phrase} {words : List Token} {depth : Nat}
    (derived : Derives phrase words depth) :
    ∀ opened, (phrase.isTight = false → 0 < opened) → Skips opened words := by
  have ordinary (symbol : String)
      (out : symbol ∉ ["(", "[", "\x7b", ")", "]", "\x7d", "||", "&&"]) :
      Plain (.symbol symbol) := Plain.symbol out
  induction derived with
  | test _ induction | uncoalesced _ induction | conjunction _ induction =>
      exact fun opened inside => induction opened fun _ => inside rfl
  | operand _ induction => exact fun opened _ => induction opened nofun
  | coalescedOperand _ induction | power _ induction | tighter _ induction
  | unary _ induction | member _ induction | primary _ induction =>
      exact fun opened _ => induction opened nofun
  | branches _ _ _ test consequent alternate =>
      intro opened inside
      have inside := inside rfl
      exact (test opened fun _ => inside).append
        (((consequent opened fun _ => inside).append
          ((alternate opened fun _ => inside).cons (ordinary ":" (by decide)))).cons
          (ordinary "?" (by decide)))
  | coalesced _ _ left right | coalescedMore _ _ left right =>
      exact fun opened _ => (left opened nofun).append
        ((right opened nofun).cons (ordinary "??" (by decide)))
  | or _ _ left right =>
      exact fun opened inside => (left opened inside).append
        (.cons_logical (inside rfl) (by decide) (right opened fun _ => inside rfl))
  | and _ _ left right =>
      exact fun opened inside => (left opened inside).append
        (.cons_logical (inside rfl) (by decide) (right opened nofun))
  | binary _ _ _ left right =>
      exact fun opened _ => (left opened nofun).append
        ((right opened nofun).cons (Plain.binaryOperator _))
  | raise _ _ base exponent =>
      exact fun opened _ => (base opened nofun).append
        ((exponent opened nofun).cons (ordinary "**" (by decide)))
  | apply operator _ induction =>
      exact fun opened _ => (induction opened nofun).cons (Plain.unaryOperator operator)
  | property name _ induction =>
      exact fun opened _ => (induction opened nofun).append
        (((Skips.nil opened).cons (Plain.word name)).cons (ordinary "." (by decide)))
  | constant constant => exact fun opened _ => (Skips.nil opened).cons constant.plain
  | identifier _ => exact fun opened _ => (Skips.nil opened).cons (Plain.word _)
  | bracketed _ induction | array _ induction | object _ induction =>
      exact fun opened _ => .bracketed (by decide) (by decide)
        (induction (opened + 1) fun _ => Nat.succ_pos opened)
  | noElements | noEntries => exact fun opened _ => Skips.nil opened
  | hole _ induction =>
      exact fun opened inside => (induction opened inside).cons (ordinary "," (by decide))
  | element _ _ first others | field _ _ first others =>
      exact fun opened inside => (first opened fun _ => inside rfl).append
        ((others opened inside).cons (ordinary "," (by decide)))
  | lastElement _ induction | lastField _ induction =>
      exact fun opened inside => induction opened fun _ => inside rfl
  | keyed names _ induction =>
      exact fun opened inside => ((induction opened fun _ => inside rfl).cons
        (ordinary ":" (by decide))).cons names.plain
  | shorthand _ => exact fun opened _ => (Skips.nil opened).cons (Plain.word _)

/-- What the scan says of a phrase: a disjunction or conjunction is an operand, or the
scan finds its logical operator. -/
private def Phrase.Sorted : Phrase → List Token → Nat → Prop
  | .expression .disjunction tree, words, depth
  | .expression .conjunction tree, words, depth =>
      Derives (.expression .operand tree) words depth ∨ Mixed words
  | _, _, _ => True

private theorem Derives.sorted {phrase : Phrase} {words : List Token} {depth : Nat}
    (derived : Derives phrase words depth) : phrase.Sorted words depth := by
  induction derived with
  | conjunction _ induction => exact induction
  | operand derived => exact .inl derived
  | or _ _ left _ | and _ _ left _ =>
      rcases left with operand | mixed
      · exact .inr (.of_skips (operand.skips 0 nofun) (by decide))
      · exact .inr mixed.append
  | _ => trivial

theorem Derives.operand_of_mixedAt?_eq_none {tree : Expr} {read : Tokens} {depth : Nat}
    (derived : Derives (.expression .disjunction tree) (read.map (·.token)) depth)
    (unmixed : mixedAt? 0 read = none) :
    Derives (.expression .operand tree) (read.map (·.token)) depth := by
  rcases derived.sorted with operand | mixed
  · exact operand
  · have found := mixed read [] rfl
    rw [List.append_nil, unmixed] at found
    cases found

end PageTemplates.Grammar
