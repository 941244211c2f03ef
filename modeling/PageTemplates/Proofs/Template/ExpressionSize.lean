import PageTemplates.Proofs.Grammar.Counter
import PageTemplates.Proofs.Grammar.Printing
import PageTemplates.Proofs.Template.Classification
import PageTemplates.Proofs.Template.Texts

/-! # How large expressions are

An expression has no more nodes than its source has code units, so the limit on the length of
a tag's code is a limit on the nodes of its tree. How deep an expression may nest does not
depend on what stands beside it.
-/

namespace PageTemplates

namespace Grammar

variable {levels : Nat}

theorem Derivable.elements {items : List (Expr × List Token)}
    (all : ∀ item ∈ items, Derivable levels (.expression .conditional item.1) item.2) :
    Derivable levels (.elements (items.map fun item => some item.1))
      (items.flatMap fun item => item.2 ++ [.symbol ","]) := by
  induction items with
  | nil => exact ⟨0, .noElements, Nat.zero_le _⟩
  | cons item rest induction =>
      rw [List.forall_mem_cons] at all
      rw [List.map_cons, List.flatMap_cons, List.append_assoc]
      exact all.1.both (induction all.2) .element

/-- An array nests two levels deeper than the deepest of its elements, however many there
are. -/
theorem Derivable.array {items : List (Expr × List Token)}
    (all : ∀ item ∈ items, Derivable levels (.expression .conditional item.1) item.2) :
    Derivable (levels + 2)
      (.expression .conditional (.array (items.map fun item => some item.1)))
      (.symbol "[" :: (items.flatMap (fun item => item.2 ++ [.symbol ","]) ++
        [.symbol "]"])) := by
  have primary := (Derivable.elements all).nested .array
  refine primary.nested fun derived => .test ?_
  exact Derives.loosenedTo Nat.one_pos (by decide : 1 ≤ 15) (Nat.le_refl 15) derived

end Grammar

theorem Segment.isExpression_of_ofCode {code : List Char} {value : SafeExpr}
    (becomes : ofCode code = .expression value) : IsExpression code value.tree := by
  rw [ofCode] at becomes
  split at becomes
  · cases becomes
  · split at becomes
    · cases becomes
    · split at becomes <;> cases becomes
      next found => exact safeExpression?_eq_some_iff.mp found

namespace Template

theorem exists_code_of_expression_mem {source : String} {value : SafeExpr}
    (member : .expression value ∈ (compile source).segments) :
    ∃ code, Segment.ofCode code = .expression value := by
  revert member
  apply segmentsOf_induction (motive := fun segments =>
    .expression value ∈ segments → ∃ code, Segment.ofCode code = .expression value)
  case nil => exact nofun
  case one => exact fun _ _ _ member => nomatch List.mem_singleton.mp member
  case tag =>
    intro code segments induction member
    rcases List.mem_cons.mp member with same | member
    · exact ⟨code, same.symm⟩
    · exact induction member
  case textTag =>
    intro before code segments _ _ induction member
    rcases List.mem_cons.mp member with same | member
    · cases same
    rcases List.mem_cons.mp member with same | member
    · exact ⟨code, same.symm⟩
    · exact induction member

open Grammar

/-- A source that is parsed has at least as many tokens as its tree has nodes, and at least as
many code units as tokens. The parser's functions may keep one count of the nesting: with any
bounds that are large enough a function does what its rule does with the levels that are left,
and where it succeeds it has taken a token at least, no token that is not there, no fewer
tokens than there are nodes in what it read, and put the count back. So however many elements
an array has, each may nest as deep as if it stood alone, and an expression of a template has
no more nodes than its code may have units. -/
theorem expression_sizes :
    (∀ {source : String} {tree : Expr}, Expr.parse source = .ok tree →
      ∃ tokens, Token.scan source = .ok tokens ∧ tree.size ≤ tokens.length ∧
        tokens.length ≤ Text.unitCount source) ∧
    (∀ {rounds calls : Nat} {tokens : Tokens}, tokens.length < rounds → nestingLimit < calls →
      Expr.ofTokens tokens =
        match ParseFunction.conditional.counted rounds calls ⟨tokens, 0⟩ with
        | .error refusal => .error refusal
        | .ok (tree, ⟨[], _⟩) => .ok tree
        | .ok (_, ⟨extra :: rest, _⟩) => refuse (.trailing extra.token) (extra :: rest)) ∧
    (∀ {rounds calls depth levels : Nat} {tokens : Tokens} (function : ParseFunction),
      depth + levels = nestingLimit → tokens.length < rounds → levels < calls →
        function.counted rounds calls ⟨tokens, depth⟩ =
            (function.rule levels tokens).map (atDepth depth) ∧
          ∀ {tree : Expr} {after : Cursor},
            function.counted rounds calls ⟨tokens, depth⟩ = .ok (tree, after) →
              after.depth = depth ∧
                ∃ read, read ≠ [] ∧ tokens = read ++ after.tokens ∧
                  tree.size ≤ read.length) ∧
    (∀ {items : List (Expr × List Token)} {tokens : Tokens},
      (∀ item ∈ items, Derivable (nestingLimit - 2) (.expression .conditional item.1) item.2) →
      tokens.map (·.token) =
        .symbol "[" :: (items.flatMap (fun item => item.2 ++ [.symbol ","]) ++ [.symbol "]"]) →
      Expr.ofTokens tokens = .ok (.array (items.map fun item => some item.1))) ∧
    ∀ {source : String} {value : SafeExpr},
      .expression value ∈ (compile source).segments → value.tree.size ≤ 800 := by
  refine ⟨Expr.sizes_of_parse, Expr.ofTokens_eq_counted, ?_, ?_, ?_⟩
  · intro rounds calls depth levels tokens function sum enoughRounds enoughCalls
    have mirrors := function.mirrors sum enoughCalls tokens enoughRounds
    refine ⟨mirrors, fun {tree after} found => ?_⟩
    rw [mirrors] at found
    rcases Token.exists_of_map_eq_ok found with ⟨⟨other, rest⟩, read, same⟩
    cases same
    rcases function.consumes levels read with ⟨taken, whole, size⟩
    refine ⟨rfl, taken, ?_, whole, size⟩
    rintro rfl
    exact absurd size (Nat.not_le.mpr other.size_pos)
  · intro items tokens all spelled
    rw [Expr.ofTokens_eq_ok_iff, spelled]
    exact Derivable.array all
  · intro source value member
    rcases exists_code_of_expression_mem member with ⟨code, becomes⟩
    rcases Segment.isExpression_of_ofCode becomes with ⟨fits, parsed, -⟩
    rcases Expr.sizes_of_parse parsed with ⟨tokens, -, nodes, units⟩
    rw [Segment.unitCount_ofList] at units
    omega

/-- An array with a hole; an operand that is read at the last level but one; and two elements
at once. -/
theorem expression_sizes_of_hole :
    let tree : Expr := .array [some (.identifier "a"), none, some (.identifier "b")]
    let minus : Tokens := [⟨.symbol "-", 0, 1⟩, ⟨.word "x", 1, 2⟩, ⟨.symbol ",", 2, 3⟩]
    let pair : Tokens := [⟨.symbol "[", 0, 1⟩, ⟨.word "a", 1, 2⟩, ⟨.symbol ",", 2, 3⟩,
      ⟨.word "a", 3, 4⟩, ⟨.symbol ",", 4, 5⟩, ⟨.symbol "]", 5, 6⟩]
    (∃ tokens, Token.scan "[a,,b]" = .ok tokens ∧ tree.size ≤ tokens.length ∧
      tokens.length ≤ Text.unitCount "[a,,b]") ∧
    (∃ after, ParseFunction.unary.counted 4 2 ⟨minus, 95⟩ =
        .ok (.unary .negate (.identifier "x"), after) ∧ after.depth = 95 ∧
      ∃ read, read ≠ [] ∧ minus = read ++ after.tokens ∧ 2 ≤ read.length) ∧
    Expr.ofTokens pair = .ok (.array [some (.identifier "a"), some (.identifier "a")]) ∧
    ParseFunction.conditional.counted 7 97 ⟨pair, 0⟩ =
      .ok (.array [some (.identifier "a"), some (.identifier "a")], ⟨[], 0⟩) ∧
    ∃ value, .expression value ∈ (compile "\x7b\x7b [a,,b] \x7d\x7d").segments ∧
      value.tree = tree ∧ value.tree.size ≤ 800 := by
  intro tree minus pair
  have scanned : Token.scan "[a,,b]" = .ok [⟨.symbol "[", 0, 1⟩, ⟨.word "a", 1, 2⟩,
      ⟨.symbol ",", 2, 3⟩, ⟨.symbol ",", 3, 4⟩, ⟨.word "b", 4, 5⟩, ⟨.symbol "]", 5, 6⟩] := by
    decide +kernel
  have parsed : Expr.parse "[a,,b]" = .ok tree :=
    Expr.parse_eq_ok_iff.mpr ⟨_, scanned, by rfl⟩
  have negated : ParseFunction.unary.counted 4 2 ⟨minus, 95⟩ =
      .ok (.unary .negate (.identifier "x"), ⟨[⟨.symbol ",", 2, 3⟩], 95⟩) := by rfl
  have alone : Derives (.expression .conditional (.identifier "a")) [.word "a"] 1 :=
    .test (Derives.loosenedTo Nat.one_pos (by decide : 1 ≤ 15) (Nat.le_refl 15)
      (.identifier rfl))
  have pieces : Piece.all "\x7b\x7b [a,,b] \x7d\x7d".toList =
      [.tag "\x7b\x7b [a,,b] \x7d\x7d".toList "[a,,b]".toList] := by decide +kernel
  have accepted : Segment.safeExpression? "[a,,b]" = some ⟨tree, rfl⟩ := by
    rw [Segment.safeExpression?, if_neg (by decide), parsed]
    rfl
  have member : .expression ⟨tree, rfl⟩ ∈ (compile "\x7b\x7b [a,,b] \x7d\x7d").segments := by
    have becomes : Segment.ofCode "[a,,b]".toList = .expression ⟨tree, rfl⟩ := by
      have noInclude : Segment.includeTarget? "[a,,b]".toList = none := by rfl
      have noPath : Segment.isPath "[a,,b]".toList = false := by rfl
      rw [Segment.ofCode, noInclude, noPath, String.ofList_toList, accepted]
      rfl
    rw [compile, pieces, segmentsOf, becomes]
    exact List.mem_cons_self
  have items : ∀ item ∈ [(Expr.identifier "a", [Token.word "a"]), (.identifier "a", [.word "a"])],
      Derivable (nestingLimit - 2) (.expression .conditional item.1) item.2 := by
    intro item member
    simp only [List.mem_cons, List.not_mem_nil, or_false, or_self] at member
    rw [member]
    exact ⟨1, alone, by decide⟩
  refine ⟨expression_sizes.1 parsed, ⟨_, negated, ?_⟩,
    expression_sizes.2.2.2.1 items rfl, by rfl, ⟨tree, rfl⟩, member, rfl,
    expression_sizes.2.2.2.2 member⟩
  have sum : 95 + 1 = nestingLimit := rfl
  exact (expression_sizes.2.2.1 .unary sum (by decide) (by decide)).2 negated

end Template

end PageTemplates
