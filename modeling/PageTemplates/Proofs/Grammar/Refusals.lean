import PageTemplates.Proofs.Grammar.Soundness
import PageTemplates.Proofs.Scan.Layout

/-! # Where the grammar refuses

A rule leaves an end of the tokens that it was given, or refuses at one of them or after them
all. Each way of building rules keeps this, so a whole source is refused where one of its
characters starts, or at its end.
-/

namespace PageTemplates.Grammar

/-- What comes of reading some tokens: a value with a property, or a refusal at one of the
tokens or after them all. -/
def Within {α : Type} (tokens : Tokens) (holds : α → Prop) : Except Refusal α → Prop
  | .ok value => holds value
  | .error refusal =>
      ∀ position ∈ refusal.position?, ∃ placed ∈ tokens, placed.start = position

/-- From any end of some tokens, the reader leaves an end of them or refuses within them. -/
def Stays {α : Type} (reader : Tokens → Except Refusal (α × Tokens)) : Prop :=
  ∀ ⦃tokens rest : Tokens⦄, rest <:+ tokens →
    Within tokens (fun read => read.2 <:+ tokens) (reader rest)

theorem Within.bind {α β : Type} {tokens : Tokens} {holds : α → Prop} {holdsNext : β → Prop}
    {found : Except Refusal α} {next : α → Except Refusal β} (first : Within tokens holds found)
    (second : ∀ value, holds value → Within tokens holdsNext (next value)) :
    Within tokens holdsNext (found >>= next) := by
  cases found with
  | error refusal => exact first
  | ok value => exact second value first

section

variable {α : Type} {tokens rest : Tokens} {holds : α → Prop}

/-! ## Single tokens -/

theorem within_refuse (cause : ParseCause) (ends : rest <:+ tokens) :
    Within tokens holds (refuse cause rest) := by
  intro position isPosition
  rcases Option.map_eq_some_iff.mp isPosition with ⟨placed, first, start⟩
  exact ⟨placed, ends.subset (List.mem_of_head? first), start⟩

theorem suffix_of_eat? {spelling : String} (eaten : eat? spelling tokens = some rest) :
    rest <:+ tokens := by
  rcases exists_of_eat?_eq_some eaten with ⟨placed, rfl, -⟩
  exact List.suffix_cons _ _

theorem within_expect (spelling : String) (ends : rest <:+ tokens) :
    Within tokens (· <:+ tokens) (expect spelling rest) := by
  unfold expect
  split
  next eaten => exact (suffix_of_eat? eaten).trans ends
  next => exact within_refuse _ ends

/-! ## Chains -/

theorem stays_chainFrom {joint : Joint} {operand : Rule}
    (joins : ∀ {tokens join rest}, joint tokens = some (join, rest) → rest <:+ tokens)
    (stays : Stays operand) (fuel : Nat) (left : Expr) :
    Stays (chainFrom joint operand fuel left) := by
  induction fuel generalizing left with
  | zero => exact fun _ _ ends => ends
  | succ fuel induction =>
      intro tokens rest ends
      rw [chainFrom]
      split
      next => exact ends
      next found =>
        exact (stays ((joins found).trans ends)).bind fun _ ends => induction _ ends

theorem stays_chain {joint : Joint} {operand : Rule}
    (joins : ∀ {tokens join rest}, joint tokens = some (join, rest) → rest <:+ tokens)
    (stays : Stays operand) : Stays (chain joint operand) := by
  intro tokens rest ends
  exact (stays ends).bind fun _ ends => stays_chainFrom joins stays _ _ ends

theorem stays_binary {operand : Rule} (stays : Stays operand) :
    ∀ levels, Stays (binary operand levels)
  | [] => stays
  | level :: tighter => by
      refine stays_chain ?_ (stays_binary stays tighter)
      intro tokens join rest found
      rcases Option.map_eq_some_iff.mp found with ⟨⟨operator, after⟩, search, equal⟩
      cases equal
      rcases exists_of_binaryOperator?_eq_some search with ⟨-, placed, rfl, -⟩
      exact List.suffix_cons _ _

theorem stays_logical (operator : LogicalOperator) {operand : Rule} (stays : Stays operand) :
    Stays (logical operator operand) := by
  refine stays_chain ?_ stays
  intro tokens join rest found
  rcases Option.map_eq_some_iff.mp found with ⟨after, eaten, equal⟩
  cases equal
  exact suffix_of_eat? eaten

theorem stays_disjunction {operand : Rule} (stays : Stays operand) :
    Stays (disjunction operand) :=
  stays_logical .or (stays_logical .and (stays_binary stays _))

/-! ## Coalescing -/

theorem exists_of_mixedAt? {depth position : Nat} (mixed : mixedAt? depth tokens = some position) :
    ∃ placed ∈ tokens, placed.start = position := by
  induction tokens generalizing depth with
  | nil => cases mixed
  | cons placed rest induction =>
      have later {depth : Nat} (mixed : mixedAt? depth rest = some position) :
          ∃ other ∈ placed :: rest, other.start = position := by
        rcases induction mixed with ⟨other, member, start⟩
        exact ⟨other, List.mem_cons_of_mem _ member, start⟩
      rw [mixedAt?] at mixed
      split at mixed
      next =>
        split_ifs at mixed
        · exact later mixed
        · exact later mixed
        · exact ⟨placed, List.mem_cons_self, Option.some.inj mixed⟩
        · exact later mixed
      next => exact later mixed

theorem within_refuseMixed (ends : rest <:+ tokens) (after : Tokens) :
    Within tokens (fun _ => True) (refuseMixed rest after) := by
  unfold refuseMixed
  split
  next position mixed =>
    rintro _ ⟨⟩
    rcases exists_of_mixedAt? mixed with ⟨placed, member, start⟩
    exact ⟨placed, ends.subset (List.mem_of_mem_take member), start⟩
  next => trivial

theorem stays_coalesceFrom {operand : Rule} (stays : Stays operand) (fuel : Nat) (left : Expr) :
    Stays (coalesceFrom operand fuel left) := by
  induction fuel generalizing left with
  | zero => exact fun _ _ ends => ends
  | succ fuel induction =>
      intro tokens rest ends
      rw [coalesceFrom]
      split
      next => exact ends
      next eaten =>
        have operandEnds := (suffix_of_eat? eaten).trans ends
        exact (stays operandEnds).bind fun _ ends =>
          (within_refuseMixed operandEnds _).bind fun _ _ => induction _ ends

theorem stays_coalesce {operand : Rule} (stays : Stays operand) : Stays (coalesce operand) := by
  intro tokens rest ends
  refine (stays ends).bind fun read readEnds => ?_
  dsimp only
  split
  · exact (within_refuseMixed ends _).bind fun _ _ => stays_coalesceFrom stays _ _ readEnds
  · exact readEnds

/-! ## Conditionals, powers, unary operators and properties -/

theorem stays_conditionalWith {condition branch : Rule} (stays : Stays condition)
    (branchStays : Stays branch) : Stays (conditionalWith condition branch) := by
  intro tokens rest ends
  refine (stays ends).bind fun read ends => ?_
  dsimp only
  split
  next => exact ends
  next eaten =>
    exact (branchStays ((suffix_of_eat? eaten).trans ends)).bind fun _ ends =>
      (within_expect ":" ends).bind fun _ ends =>
        (branchStays ends).bind fun _ ends => ends

theorem stays_powerWith {base exponent : Rule} (stays : Stays base)
    (exponentStays : Stays exponent) : Stays (powerWith base exponent) := by
  intro tokens rest ends
  refine (stays ends).bind fun read ends => ?_
  dsimp only
  split
  next => exact ends
  next eaten =>
    split
    · exact within_refuse _ ends
    · exact (exponentStays ((suffix_of_eat? eaten).trans ends)).bind fun _ ends => ends

theorem stays_unaryWith {operand other : Rule} (stays : Stays operand)
    (otherStays : Stays other) : Stays (unaryWith operand other) := by
  intro tokens rest ends
  unfold unaryWith
  split
  next found =>
    rcases exists_of_unaryOperator?_eq_some found with ⟨placed, rfl, -⟩
    exact (stays ((List.suffix_cons _ _).trans ends)).bind fun _ ends => ends
  next => exact otherStays ends

theorem stays_propertiesFrom (fuel : Nat) (base : Expr) : Stays (propertiesFrom fuel base) := by
  induction fuel generalizing base with
  | zero => exact fun _ _ ends => ends
  | succ fuel induction =>
      intro tokens rest ends
      rw [propertiesFrom]
      split
      next => exact ends
      next eaten =>
        have nameEnds := (suffix_of_eat? eaten).trans ends
        split
        next => exact induction _ ((List.tail_suffix _).trans nameEnds)
        next => exact within_refuse _ nameEnds

theorem stays_properties {base : Rule} (stays : Stays base) : Stays (properties base) := by
  intro tokens rest ends
  exact (stays ends).bind fun _ ends => stays_propertiesFrom _ _ ends

/-! ## Arrays and objects -/

theorem stays_elements {element : Rule} (stays : Stays element) (fuel : Nat) :
    Stays (elements element fuel) := by
  induction fuel with
  | zero => exact fun _ _ ends => within_refuse _ ends
  | succ fuel induction =>
      intro tokens rest ends
      rw [elements]
      split
      next closed => exact (suffix_of_eat? closed).trans ends
      next =>
        split
        next comma =>
          exact (induction ((suffix_of_eat? comma).trans ends)).bind fun _ ends => ends
        next =>
          refine (stays ends).bind fun read ends => ?_
          dsimp only
          split
          next comma =>
            exact (induction ((suffix_of_eat? comma).trans ends)).bind fun _ ends => ends
          next => exact (within_expect "]" ends).bind fun _ ends => ends

theorem stays_arrayWith {element : Rule} (stays : Stays element) :
    Stays (arrayWith element) := by
  intro tokens rest ends
  exact (stays_elements stays _ ends).bind fun _ ends => ends

theorem stays_entry {value : Rule} (stays : Stays value) : Stays (entry value) := by
  intro tokens rest ends
  have keyEnds := (List.tail_suffix rest).trans ends
  unfold entry
  split
  next => exact within_refuse _ ends
  next =>
    dsimp only
    split
    next colon => exact (stays ((suffix_of_eat? colon).trans keyEnds)).bind fun _ ends => ends
    next =>
      split
      · exact keyEnds
      · exact within_refuse _ keyEnds

theorem stays_entries {value : Rule} (stays : Stays value) (fuel : Nat) :
    Stays (entries value fuel) := by
  induction fuel with
  | zero => exact fun _ _ ends => within_refuse _ ends
  | succ fuel induction =>
      intro tokens rest ends
      rw [entries]
      split
      next closed => exact (suffix_of_eat? closed).trans ends
      next =>
        refine (stays_entry stays ends).bind fun read ends => ?_
        dsimp only
        split
        next comma =>
          exact (induction ((suffix_of_eat? comma).trans ends)).bind fun _ ends => ends
        next => exact (within_expect "\x7d" ends).bind fun _ ends => ends

theorem stays_objectWith {value : Rule} (stays : Stays value) : Stays (objectWith value) := by
  intro tokens rest ends
  exact (stays_entries stays _ ends).bind fun _ ends => ends

/-! ## Nesting -/

theorem stays_primaryWith {bracketed array object : Rule} (stays : Stays bracketed)
    (arrayStays : Stays array) (objectStays : Stays object) :
    Stays (primaryWith bracketed array object) := by
  intro tokens rest ends
  unfold primaryWith
  split
  next => exact within_refuse _ ends
  next placed rest =>
    have inner := (List.suffix_cons placed rest).trans ends
    split
    next => exact inner
    next => exact inner
    next =>
      split_ifs
      · exact inner
      · exact inner
      · exact inner
      · exact within_refuse _ ends
      · exact inner
    next =>
      split_ifs
      · exact (stays inner).bind fun _ ends => (within_expect ")" ends).bind fun _ ends => ends
      · exact arrayStays inner
      · exact objectStays inner
      · exact within_refuse _ ends

structure Rules.Stay (rules : Rules) : Prop where
  conditional : Stays rules.conditional
  unary : Stays rules.unary
  power : Stays rules.power
  whole : Stays rules.whole

theorem stays_deeper {inner : Option Rules} {rule : Rules → Rule}
    (stays : ∀ rules ∈ inner, Stays (rule rules)) : Stays (deeper inner rule) := by
  cases inner with
  | none => exact fun _ _ ends => within_refuse _ ends
  | some rules => exact stays rules rfl

theorem stay_rulesOver {inner : Option Rules} (stay : ∀ rules ∈ inner, rules.Stay) :
    (rulesOver inner).Stay := by
  have conditional : Stays (deeper inner Rules.whole) :=
    stays_deeper fun rules member => (stay rules member).whole
  have primary := stays_primaryWith conditional
    (stays_deeper fun rules member => stays_arrayWith (stay rules member).conditional)
    (stays_deeper fun rules member => stays_objectWith (stay rules member).conditional)
  have unary := stays_unaryWith
    (stays_deeper fun rules member => (stay rules member).unary) (stays_properties primary)
  have power := stays_powerWith unary
    (stays_deeper fun rules member => (stay rules member).power)
  exact ⟨conditional, unary, power,
    stays_conditionalWith (stays_coalesce (stays_disjunction power)) conditional⟩

theorem stay_rules (levels : Nat) : (rules levels).Stay := by
  induction levels with
  | zero => exact stay_rulesOver nofun
  | succ levels induction =>
      refine stay_rulesOver ?_
      rintro _ ⟨⟩
      exact induction

theorem within_ofTokens (tokens : Tokens) :
    Within tokens (fun _ => True) (Expr.ofTokens tokens) := by
  have read := (stay_rules nestingLimit).conditional (List.suffix_refl tokens)
  unfold Expr.ofTokens
  split
  next refused =>
    rw [refused] at read
    exact read
  next => trivial
  next found =>
    rw [found] at read
    exact within_refuse _ read

end

end PageTemplates.Grammar

namespace PageTemplates.Expr

/-- A source is refused between two of its characters, or at an end of it. -/
theorem isBoundary_of_parse {source : String} {error : ParseError}
    (refused : parse source = .error error) :
    Token.IsBoundary 0 source.toList error.position := by
  unfold parse at refused
  split at refused
  next scanned =>
    cases refused
    exact Token.isBoundary_of_scan scanned
  next tokens scanned =>
    rcases Token.exists_layout_of_scan scanned with ⟨texts, layout, -⟩
    have within := Grammar.within_ofTokens tokens
    split at refused
    next => cases refused
    next refusal found =>
      cases refused
      rw [found] at within
      cases position : refusal.position? with
      | none => exact ⟨source.toList, List.prefix_refl _, (Nat.zero_add _).symm⟩
      | some start =>
          rcases within start position with ⟨placed, member, rfl⟩
          exact (layout.boundaries placed member).1

/-- Tokens stand in a source in their order and apart from one another, between boundaries of
characters, and nothing but blanks and comments stands outside them; single spaces between
their texts do as well. A source is refused at such a boundary too. -/
theorem positions_in_source :
    (∀ {source : String} {placed : List Token.Placed}, Token.scan source = .ok placed →
      ∃ texts, Token.Layout 0 source.toList placed texts ∧
        placed.Pairwise (fun one next => one.start < next.start ∧ one.stop ≤ next.start) ∧
        (∀ token ∈ placed, token.start < token.stop ∧
          String.Pos.Raw.IsValid source ⟨token.start⟩ ∧
          String.Pos.Raw.IsValid source ⟨token.stop⟩) ∧
        ∃ spaced, Token.scan (" ".intercalate texts) = .ok spaced ∧
          spaced.map (·.token) = placed.map (·.token)) ∧
      ∀ {source : String} {error : ParseError}, parse source = .error error →
        String.Pos.Raw.IsValid source ⟨error.position⟩ ∧
          error.position ≤ source.utf8ByteSize := by
  refine ⟨fun {source placed} scanned => ?_, fun refused => ?_⟩
  · rcases Token.exists_layout_of_scan scanned with ⟨texts, layout, spaced⟩
    refine ⟨texts, layout, ?_, fun token member => ?_, spaced⟩
    · refine layout.pairwise.imp_of_mem fun {one next} isOne _ apart => ⟨?_, apart⟩
      exact Nat.lt_of_lt_of_le (layout.start_lt_stop one isOne) apart
    · rcases layout.boundaries token member with ⟨start, stop⟩
      exact ⟨layout.start_lt_stop token member, start.isValid, stop.isValid⟩
  · have valid := (isBoundary_of_parse refused).isValid
    exact ⟨valid, valid.le_utf8ByteSize⟩

/-! A comment of either kind, a blank beyond ASCII and a point before a fraction; and a quote
that nothing closes. -/

theorem positions_in_source_of_comments :
    (∃ texts,
      Token.Layout 0 "a/* \u00e9 */\u3000..5// end".toList
        [⟨.word "a", 0, 1⟩, ⟨.symbol ".", 12, 13⟩, ⟨.number 0.5, 13, 15⟩] texts ∧
      ∃ spaced, Token.scan (" ".intercalate texts) = .ok spaced ∧
        spaced.map (·.token) = [.word "a", .symbol ".", .number 0.5]) ∧
      parse "a + '\u00e9" = .error ⟨.unterminatedString, 7⟩ ∧
      String.Pos.Raw.IsValid "a + '\u00e9" ⟨7⟩ := by
  have scanned : Token.scan "a/* \u00e9 */\u3000..5// end" =
      .ok [⟨.word "a", 0, 1⟩, ⟨.symbol ".", 12, 13⟩, ⟨.number 0.5, 13, 15⟩] := by
    decide +kernel
  have unclosed : Token.scan "a + '\u00e9" = .error ⟨.unterminatedString, 7⟩ := by
    decide +kernel
  have refused : parse "a + '\u00e9" = .error ⟨.unterminatedString, 7⟩ := by
    rw [parse, unclosed]
  rcases positions_in_source.1 scanned with ⟨texts, layout, -, -, spaced⟩
  exact ⟨⟨texts, layout, spaced⟩, refused, (positions_in_source.2 refused).1⟩

end PageTemplates.Expr
