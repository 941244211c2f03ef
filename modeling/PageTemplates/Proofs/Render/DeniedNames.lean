import PageTemplates.Proofs.Grammar.Acceptance
import PageTemplates.Proofs.Grammar.Names
import PageTemplates.Proofs.Render.Reference
import PageTemplates.Proofs.Template.PathTokens

/-! # Denied names in the code of a tag

Code whose tokens hold a denied name never runs. Tokenized code is rejected as an
expression because no name is lost on the way to the tree that is checked, and a path has
the name among its parts, where the lookup refuses it.
-/

namespace PageTemplates

/-! ## Segments that add nothing -/

/-- A segment without which every rendering is the same: the same output, the same errors
and the same session. -/
def Segment.AddsNothing (part : Segment) : Prop :=
  ∀ {World : Type} (follow : IncludeTarget → Session World → Rendered × Session World)
    (context : Context) (before after : List Segment) (session : Session World),
    Render.segments follow context (before ++ part :: after) session =
      Render.segments follow context (before ++ after) session

theorem Segment.addsNothing_of_segment {part : Segment}
    (silent : ∀ {World : Type}
      (follow : IncludeTarget → Session World → Rendered × Session World)
      (context : Context) (session : Session World),
      Render.segment follow context session part = (.nothing, session)) :
    part.AddsNothing := by
  intro World follow context before after session
  induction before generalizing session with
  | nil =>
      simp [Render.segments, silent]
  | cons first before induction =>
      simp only [List.cons_append, Render.segments, induction]

theorem Segment.rejected_addsNothing : Segment.rejected.AddsNothing :=
  addsNothing_of_segment fun _ _ _ => rfl

theorem Segment.path_addsNothing {names : List String} (denied : names.any isDenied = true) :
    (Segment.path names).AddsNothing := by
  apply addsNothing_of_segment
  intro World follow context session
  simp only [Render.segment, Context.lookup, denied, if_true]
  rfl

namespace Segment

/-! ## Where denied names are noticed -/

/-- Code whose tokens hold no denied word and no denied key. -/
def AllowsTokens (tokens : List Token.Placed) : Prop :=
  Grammar.AllowedWords (tokens.map (·.token)) ∧ Grammar.AllowedKeys (tokens.map (·.token))

theorem allowsTokens_of_safeExpression? {code : String} {value : SafeExpr}
    {tokens : List Token.Placed} (scanned : Token.scan code = .ok tokens)
    (accepted : safeExpression? code = some value) : AllowsTokens tokens := by
  unfold safeExpression? at accepted
  split at accepted
  · cases accepted
  · split at accepted
    · rename_i tree parsed
      simp only [SafeExpr.ofTree?, Option.dite_none_right_eq_some] at accepted
      rcases accepted with ⟨safe, -⟩
      rcases Expr.parse_eq_ok_iff.mp parsed with ⟨found, rescanned, read⟩
      rw [scanned] at rescanned
      cases rescanned
      rcases Expr.ofTokens_eq_ok_iff.mp read with ⟨depth, derived, -⟩
      exact ⟨derived.allowedWords safe, derived.allowedKeys safe⟩
    · cases accepted

theorem inPath_of_isPath {code : List Char} (path : isPath code = true) :
    Token.InPath code := by
  simp only [isPath, Bool.and_eq_true] at path
  exact List.all_eq_true.mp path.2

/-- A token of a path is a part of it, if it is a word at all. -/
theorem isPart_of_inPath {code : List Char} {tokens : List Token.Placed} {token : Token}
    (inPath : Token.InPath code) (scanned : Token.scan (String.ofList code) = .ok tokens)
    (member : token ∈ tokens.map (·.token)) : Token.IsPart code token := by
  rcases List.mem_map.mp member with ⟨placed, placedMember, rfl⟩
  have part := Token.scan_of_inPath (by rwa [String.toList_ofList]) scanned placed
    placedMember
  rwa [String.toList_ofList] at part

theorem mem_names_of_isPart {code : List Char} {name : String} (denied : isDenied name = true)
    (part : Token.IsPart code (.word name)) :
    name ∈ (Text.splitAt '.' code).map String.ofList := by
  rcases part with empty | part
  · rw [String.toList_eq_nil_iff] at empty
    subst empty
    cases denied
  · exact List.mem_map.mpr ⟨_, part, String.ofList_toList⟩

/-- Code that is no include becomes a path of its parts, an expression whose tokens are
allowed, or nothing. -/
theorem ofCode_cases {code : List Char} {tokens : List Token.Placed}
    (plain : includeTarget? code = none)
    (scanned : Token.scan (String.ofList code) = .ok tokens) :
    (ofCode code = .path ((Text.splitAt '.' code).map String.ofList) ∧ Token.InPath code) ∨
      AllowsTokens tokens ∨ ofCode code = .rejected := by
  simp only [ofCode, plain]
  split
  · rename_i path
    exact .inl ⟨rfl, inPath_of_isPath path⟩
  · right
    split
    · rename_i accepted
      exact .inl (allowsTokens_of_safeExpression? scanned accepted)
    · exact .inr rfl

/-- Code that is no include and names a denied word anywhere among its tokens is rejected
or a path with a denied part, and code with a denied string for a key is rejected. Both
add nothing to any rendering. -/
theorem ofCode_of_denied_name {code : List Char} {tokens : List Token.Placed}
    (plain : includeTarget? code = none)
    (scanned : Token.scan (String.ofList code) = .ok tokens) {name : String}
    (denied : isDenied name = true) :
    (.word name ∈ tokens.map (·.token) →
      (ofCode code = .rejected ∨
        ∃ names, ofCode code = .path names ∧ name ∈ names) ∧
      (ofCode code).AddsNothing) ∧
    (Grammar.StandsAsKey name (tokens.map (·.token)) →
      ofCode code = .rejected ∧ (ofCode code).AddsNothing) := by
  constructor
  · intro member
    rcases ofCode_cases plain scanned with ⟨path, inPath⟩ | allowed | rejected
    · have named := mem_names_of_isPart denied (isPart_of_inPath inPath scanned member)
      refine ⟨.inr ⟨_, path, named⟩, ?_⟩
      rw [path]
      exact path_addsNothing (List.any_eq_true.mpr ⟨name, named, denied⟩)
    · rw [allowed.1 name member] at denied
      cases denied
    · rw [rejected]
      exact ⟨.inl rfl, rejected_addsNothing⟩
  · rintro ⟨opener, opens, inside⟩
    rcases ofCode_cases plain scanned with ⟨path, inPath⟩ | allowed | rejected
    · have member : .string name ∈ tokens.map (·.token) := inside.mem (by simp)
      cases isPart_of_inPath inPath scanned member
    · rw [allowed.2 name ⟨opener, opens, inside⟩] at denied
      cases denied
    · rw [rejected]
      exact ⟨rfl, rejected_addsNothing⟩

/-- A path, a branch that is not taken, and a key. -/
theorem ofCode_of_constructor :
    (ofCode "page.constructor".toList).AddsNothing ∧
    (ofCode "true ? page : (page).constructor".toList).AddsNothing ∧
    ofCode "\x7b 'constructor': page \x7d".toList = .rejected := by
  have path : Token.scan (String.ofList "page.constructor".toList) =
      .ok [⟨.word "page", 0, 4⟩, ⟨.symbol ".", 4, 5⟩, ⟨.word "constructor", 5, 16⟩] := by
    decide +kernel
  have branch : Token.scan (String.ofList "true ? page : (page).constructor".toList) =
      .ok [⟨.word "true", 0, 4⟩, ⟨.symbol "?", 5, 6⟩, ⟨.word "page", 7, 11⟩,
        ⟨.symbol ":", 12, 13⟩, ⟨.symbol "(", 14, 15⟩, ⟨.word "page", 15, 19⟩,
        ⟨.symbol ")", 19, 20⟩, ⟨.symbol ".", 20, 21⟩, ⟨.word "constructor", 21, 32⟩] := by
    decide +kernel
  have key : Token.scan (String.ofList "\x7b 'constructor': page \x7d".toList) =
      .ok [⟨.symbol "\x7b", 0, 1⟩, ⟨.string "constructor", 2, 15⟩, ⟨.symbol ":", 15, 16⟩,
        ⟨.word "page", 17, 21⟩, ⟨.symbol "\x7d", 22, 23⟩] := by
    decide +kernel
  have denied : isDenied "constructor" = true := by decide
  have first := (ofCode_of_denied_name (by decide +kernel) path denied).1 (by simp)
  have second := (ofCode_of_denied_name (by decide +kernel) branch denied).1 (by simp)
  have third := (ofCode_of_denied_name (by decide +kernel) key denied).2
    ⟨.symbol "\x7b", rfl, [], [.word "page", .symbol "\x7d"], rfl⟩
  exact ⟨first.2, second.2, third.1⟩

end Segment

end PageTemplates
