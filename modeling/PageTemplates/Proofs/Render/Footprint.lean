import PageTemplates.Proofs.Dictionary
import PageTemplates.Proofs.Render.Agreement

/-! # The names that a render reads

Of a context a render reads no more than the top-level names that the segments within
reach mention and that are not denied. What the data has under any other name makes no
difference, whatever views the data leads to.
-/

namespace PageTemplates

variable {World : Type}

/-! ## Mentioned names -/

namespace Expr

mutual

/-- The variables of a tree, in whatever branch they stand. -/
def identifiers : Expr → List String
  | .literal _ => []
  | .identifier name => [name]
  | .member base _ => base.identifiers
  | .unary _ operand => operand.identifiers
  | .binary _ left right => left.identifiers ++ right.identifiers
  | .logical _ left right => left.identifiers ++ right.identifiers
  | .conditional test consequent alternate =>
      test.identifiers ++ (consequent.identifiers ++ alternate.identifiers)
  | .array elements => elementIdentifiers elements
  | .object entries => entryIdentifiers entries

def elementIdentifiers : List (Option Expr) → List String
  | [] => []
  | none :: rest => elementIdentifiers rest
  | some element :: rest => element.identifiers ++ elementIdentifiers rest

def entryIdentifiers : List (String × Expr) → List String
  | [] => []
  | (_, value) :: rest => value.identifiers ++ entryIdentifiers rest

end

end Expr

/-- The top-level names that a segment mentions: those of its variables, and the first
component of its path or of a target that has the form of a path, in quotes or not. -/
def Segment.mentioned : Segment → List String
  | .text _ | .rejected => []
  | .path names => names.take 1
  | .inclusion target =>
      if isPath target.text.toList then (Context.namesOf target.text).take 1 else []
  | .expression value => value.tree.identifiers

def Template.mentioned (template : Template) : List String :=
  template.segments.flatMap Segment.mentioned

/-- Two contexts have the same under every name of a list that is not denied: the same
value, or none in either. -/
def Context.AgreeOn (names : List String) (left right : Context) : Prop :=
  ∀ name ∈ names, isDenied name = false → left.get? name = right.get? name

/-! ## Reading mentioned names -/

namespace Context

variable {left right : Context}

theorem AgreeOn.mono {names others : List String} (agree : AgreeOn names left right)
    (fewer : ∀ name ∈ others, name ∈ names) : AgreeOn others left right :=
  fun name member => agree name (fewer name member)

theorem AgreeOn.append {names others : List String}
    (agree : AgreeOn (names ++ others) left right) :
    AgreeOn names left right ∧ AgreeOn others left right :=
  ⟨agree.mono fun _ => List.mem_append_left _, agree.mono fun _ => List.mem_append_right _⟩

theorem variable_eq_of_agreeOn {name : String} (agree : AgreeOn [name] left right) :
    left.variable name = right.variable name := by
  unfold Context.variable
  cases denied : isDenied name with
  | false => rw [agree name List.mem_cons_self denied]
  | true => cases left.get? name <;> cases right.get? name <;> rfl

theorem lookup_eq_of_agreeOn {path : List String} (agree : AgreeOn (path.take 1) left right) :
    left.lookup path = right.lookup path := by
  cases path with
  | nil => rfl
  | cons first rest =>
      rw [lookup, lookup]
      split
      next => rfl
      next allowed =>
        simp only [List.any_cons, Bool.or_eq_true, not_or, Bool.not_eq_true] at allowed
        rw [agree first List.mem_cons_self allowed.1]

end Context

theorem IncludeTarget.resolve_eq_of_agreeOn {left right : Context} {target : IncludeTarget}
    (agree : Context.AgreeOn (Segment.mentioned (.inclusion target)) left right) :
    target.resolve left = target.resolve right := by
  unfold resolve
  split
  next isPath =>
    rw [Segment.mentioned, if_pos isPath] at agree
    rw [Context.lookupDotted, Context.lookupDotted, Context.lookup_eq_of_agreeOn agree]
  next => rfl

namespace Expr

variable {left right : Context}

/-! By recursion on the tree: only a variable reads the context. -/

mutual

theorem reduce_eq_of_agreeOn : (tree : Expr) → Context.AgreeOn tree.identifiers left right →
    tree.reduce left = tree.reduce right
  | .literal _, _ => rfl
  | .identifier _, agree => congrArg Except.ok (Context.variable_eq_of_agreeOn agree)
  | .member base _, agree => by
      simp only [reduce, reduce_eq_of_agreeOn base agree]
  | .unary _ operand, agree => by
      simp only [reduce, reduce_eq_of_agreeOn operand agree]
  | .binary _ first second, agree => by
      have agree := Context.AgreeOn.append agree
      simp only [reduce, reduce_eq_of_agreeOn first agree.1,
        reduce_eq_of_agreeOn second agree.2]
  | .logical _ first second, agree => by
      have agree := Context.AgreeOn.append agree
      simp only [reduce, reduce_eq_of_agreeOn first agree.1,
        reduce_eq_of_agreeOn second agree.2]
  | .conditional test consequent alternate, agree => by
      have agree := Context.AgreeOn.append agree
      have branches := Context.AgreeOn.append agree.2
      simp only [reduce, reduce_eq_of_agreeOn test agree.1,
        reduce_eq_of_agreeOn consequent branches.1, reduce_eq_of_agreeOn alternate branches.2]
  | .array elements, agree => by
      simp only [reduce, reduceElements_eq_of_agreeOn elements agree]
  | .object entries, agree => by
      simp only [reduce, reduceEntries_eq_of_agreeOn entries agree]

theorem reduceElements_eq_of_agreeOn : (elements : List (Option Expr)) →
    Context.AgreeOn (elementIdentifiers elements) left right →
    reduceElements left elements = reduceElements right elements
  | [], _ => rfl
  | none :: rest, agree => by
      simp only [reduceElements, reduceElements_eq_of_agreeOn rest agree]
  | some element :: rest, agree => by
      have agree := Context.AgreeOn.append agree
      simp only [reduceElements, reduce_eq_of_agreeOn element agree.1,
        reduceElements_eq_of_agreeOn rest agree.2]

theorem reduceEntries_eq_of_agreeOn : (entries : List (String × Expr)) →
    Context.AgreeOn (entryIdentifiers entries) left right →
    reduceEntries left entries = reduceEntries right entries
  | [], _ => rfl
  | (_, value) :: rest, agree => by
      have agree := Context.AgreeOn.append agree
      simp only [reduceEntries, reduce_eq_of_agreeOn value agree.1,
        reduceEntries_eq_of_agreeOn rest agree.2]

end

end Expr

theorem Segment.sameIn_of_agreeOn {left right : Context} {part : Segment}
    (agree : Context.AgreeOn part.mentioned left right) : part.SameIn left right := by
  cases part with
  | text | rejected => trivial
  | path names => exact congrArg Rendered.ofValue (Context.lookup_eq_of_agreeOn agree)
  | inclusion target => exact target.resolve_eq_of_agreeOn agree
  | expression value =>
      have reduced := value.tree.reduce_eq_of_agreeOn agree
      simp only [SameIn, SafeExpr.evaluate, Expr.evaluateTree, reduced]

theorem Template.sameIn_of_agreeOn {left right : Context} {template : Template}
    (agree : Context.AgreeOn template.mentioned left right) : template.SameIn left right :=
  fun part member => Segment.sameIn_of_agreeOn
    (agree.mono fun _ mentioned => List.mem_flatMap.mpr ⟨part, member, mentioned⟩)

/-! ## Changing other names -/

/-- The context with nothing under a name. -/
def Context.remove (context : Context) (name : String) : Context where
  entries := Dictionary.erase name context.entries
  ordered := Json.isOrdered_filter context.ordered _

@[simp]
theorem Context.get?_insert (context : Context) (name : String) (value : Data)
    (asked : String) :
    (context.insert name value).get? asked =
      if name = asked then some value.json else context.get? asked := by
  simp [insert, get?]

@[simp]
theorem Context.get?_remove (context : Context) (name asked : String) :
    (context.remove name).get? asked = if name = asked then none else context.get? asked := by
  simp [remove, get?]

/-- The template does not read the name: it is denied, or no segment mentions it. -/
def Template.Ignores (name : String) (template : Template) : Prop :=
  isDenied name = true ∨ name ∉ template.mentioned

theorem Template.Ignores.agreeOn {name : String} {template : Template}
    (ignores : template.Ignores name) {left right : Context}
    (elsewhere : ∀ asked, name ≠ asked → left.get? asked = right.get? asked) :
    Context.AgreeOn template.mentioned left right := by
  intro asked mentioned allowed
  refine elsewhere asked ?_
  rintro rfl
  rcases ignores with denied | unmentioned
  · rw [denied] at allowed
    cases allowed
  · exact unmentioned mentioned

/-! ## Footprint -/

/-- Two contexts that agree on the mentioned names within reach that are not denied are
rendered alike: the same output, errors, calls to the storage and caches. So to insert or
to remove a name that is denied or that nothing within reach mentions changes nothing. -/
theorem Template.render_footprint :
    (∀ {World : Type} (storage : Storage World) (template : Template) (left right : Context)
      (session : Session (Storage.Traced World)),
      Context.AgreeOn template.mentioned left right →
      session.OnlyMeets storage.traced
        (fun source => Context.AgreeOn (compile source).mentioned left right) →
      template.render storage.traced left session =
        template.render storage.traced right session) ∧
    ∀ {World : Type} (storage : Storage World) (template : Template) (context : Context)
      (name : String) (session : Session (Storage.Traced World)), template.Ignores name →
      session.OnlyMeets storage.traced (fun source => (compile source).Ignores name) →
      (∀ value, template.render storage.traced (context.insert name value) session =
        template.render storage.traced context session) ∧
      template.render storage.traced (context.remove name) session =
        template.render storage.traced context session := by
  have agreeing {World : Type} (storage : Storage World) {template : Template}
      {left right : Context} {session : Session (Storage.Traced World)}
      (agree : Context.AgreeOn template.mentioned left right)
      (meets : session.OnlyMeets storage.traced
        (fun source => Context.AgreeOn (compile source).mentioned left right)) :
      template.render storage.traced left session =
        template.render storage.traced right session :=
    render_sameIn storage.traced (sameIn_of_agreeOn agree)
      (meets.imp fun _ => sameIn_of_agreeOn)
  have changing {World : Type} (storage : Storage World) {template : Template}
      {name : String} {session : Session (Storage.Traced World)}
      (ignores : template.Ignores name)
      (meets : session.OnlyMeets storage.traced fun source => (compile source).Ignores name)
      {left right : Context}
      (elsewhere : ∀ asked, name ≠ asked → left.get? asked = right.get? asked) :
      template.render storage.traced left session =
        template.render storage.traced right session :=
    agreeing storage (ignores.agreeOn elsewhere)
      (meets.imp fun _ unread => unread.agreeOn elsewhere)
  refine ⟨fun storage _ _ _ _ agree meets => agreeing storage agree meets, ?_⟩
  intro World storage template context name session ignores meets
  exact ⟨fun value => changing storage ignores meets fun asked other => by simp [other],
    changing storage ignores meets fun asked other => by simp [other]⟩

/-! A page that shows a title and includes the view that the data names. -/

namespace Footprint

def viewSource : String := "+\x7b\x7b user.name \x7d\x7d"

def template : Template := ⟨[.path ["page", "title"], .inclusion (.bare "page.view")]⟩

def data : Context where
  entries := [("page", .object [("title", .string "home"), ("view", .string "card")]),
    ("user", .object [("name", .string "Ann")])]
  ordered := by decide +kernel

/-- The same data with an entry that is denied and one that nothing mentions. -/
def moreData : Context where
  entries := ("constructor", .null) :: ("extra", .boolean true) :: data.entries
  ordered := by decide +kernel

def session : Session (Storage.Traced FileTable) where
  templates := .empty
  views := ⟨some ⟨"views"⟩, .empty 1, .empty false⟩
  world := ⟨FileTable.empty.write ⟨"views/card.html"⟩ ⟨viewSource, 0, none⟩, []⟩

theorem mentioned_viewSource : (Template.compile viewSource).mentioned = ["user"] := by
  decide +kernel

theorem session_onlyMeets {accepts : String → Prop} (view : accepts viewSource) :
    session.OnlyMeets FileTable.storage.traced accepts := by
  have joined : Text.normalizeLines viewSource = viewSource := by decide +kernel
  refine ⟨TemplateCache.faithful_empty, nofun, .traced (FileTable.onlyReads ?_)⟩
  exact Dictionary.forall_get?_put nofun (joined.symm ▸ view)

end Footprint

open Footprint in
theorem Template.render_footprint_of_card :
    template.render FileTable.storage.traced data session =
        template.render FileTable.storage.traced moreData session ∧
      template.render FileTable.storage.traced (data.insert "extra" ⟨.null, rfl⟩) session =
        template.render FileTable.storage.traced data session ∧
      (template.render FileTable.storage.traced data session).1.output = "home+Ann" := by
  have mentioned : template.mentioned = ["page", "page"] := by decide +kernel
  have agree : Context.AgreeOn ["page", "page", "user"] data moreData := by
    intro name member _
    simp only [List.mem_cons, List.not_mem_nil, or_false] at member
    rcases member with rfl | rfl | rfl <;> rfl
  have unread {source : Template} {names : List String} (same : source.mentioned = names)
      (absent : "extra" ∉ names) : source.Ignores "extra" :=
    .inr (same ▸ absent)
  refine ⟨?_, ?_, by decide +kernel⟩
  · refine render_footprint.1 FileTable.storage template data moreData session ?_
      (session_onlyMeets ?_)
    · exact agree.mono (by simp [mentioned])
    · exact agree.mono (by simp [mentioned_viewSource])
  · exact (render_footprint.2 FileTable.storage template data "extra" session
      (unread mentioned (by decide))
      (session_onlyMeets (unread mentioned_viewSource (by decide)))).1 ⟨.null, rfl⟩

end PageTemplates
