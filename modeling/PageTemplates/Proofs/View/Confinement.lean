import PageTemplates.Engine
import PageTemplates.Proofs.Path
import PageTemplates.Proofs.Render.Invariant

/-! # Views stay under their root

A name that is accepted goes down from the root and nowhere else. Every call that a load
or a render makes to the storage is on the path of such a name, whatever the data, the
views and the caches hold; and without a root there is no call at all.
-/

namespace PageTemplates

/-! ## Names -/

/-- The names that lead down from a directory. -/
structure ViewName.Descends (name : String) : Prop where
  nonempty : name ≠ ""
  relative : name.toList.head? ≠ some '/'
  plain : ∀ character ∈ name.toList,
    character.isAlphanum = true ∨ character = '_' ∨ character = '-' ∨ character = '/'

theorem ViewName.descends_of_refusal? {name : String} (accepted : refusal? name = none) :
    Descends name := by
  unfold refusal? at accepted
  split at accepted
  · cases accepted
  next inside =>
    split at accepted
    · cases accepted
    next allowed =>
      simp only [Bool.or_eq_true, not_or, Bool.not_eq_true, Bool.not_eq_false',
        List.all_eq_true, leadsOut, decide_eq_true_eq] at inside allowed
      refine ⟨?_, inside.1.2, fun character member => ?_⟩
      · rintro rfl
        exact absurd allowed.1 (by decide)
      · have isAllowed := allowed.2 character member
        simpa only [ViewName.isAllowed, Text.isAsciiWord, Char.isAlphanum, Bool.or_eq_true,
          decide_eq_true_eq, or_assoc] using isAllowed

namespace ViewName.Descends

variable {name : String}

theorem exists_eq_cons (descends : Descends name) :
    ∃ first rest, name.toList = first :: rest ∧ first ≠ '/' ∧ first ≠ '.' := by
  rcases descends with ⟨nonempty, relative, plain⟩
  cases text : name.toList with
  | nil => exact absurd (String.toList_eq_nil_iff.mp text) nonempty
  | cons first rest =>
      rw [text] at relative plain
      refine ⟨first, rest, rfl, fun slash => relative (by rw [slash]; rfl), ?_⟩
      rintro rfl
      exact absurd (plain '.' List.mem_cons_self) (by decide)

theorem point_not_mem (descends : Descends name) : '.' ∉ name.toList :=
  fun member => absurd (descends.plain '.' member) (by decide)

/-- The first part of the file of a name. It is neither empty nor a point. -/
theorem exists_splitAt_file (descends : Descends name) :
    ∃ first part parts, first ≠ '.' ∧
      Text.splitAt '/' (name ++ Views.ending).toList = (first :: part) :: parts := by
  rcases descends.exists_eq_cons with ⟨first, rest, text, notSlash, notPoint⟩
  rcases Text.exists_splitAt_eq_cons '/' (rest ++ Views.ending.toList) with
    ⟨part, parts, cut⟩
  rw [String.toList_append, text, List.cons_append]
  exact ⟨first, part, parts, notPoint, Text.splitAt_cons_of_ne notSlash cut⟩

theorem start_file (descends : Descends name) :
    Path.start (name ++ Views.ending).toList = [] := by
  rcases descends.exists_splitAt_file with ⟨first, part, parts, notPoint, cut⟩
  rw [Path.start_of_splitAt cut]
  simp [notPoint]

theorem parent_not_mem (descends : Descends name) :
    ['.', '.'] ∉ Text.splitAt '/' (name ++ Views.ending).toList := by
  intro member
  have count := (Text.sublist_of_mem_splitAt member).count_le '.'
  rw [String.toList_append, List.count_append,
    List.count_eq_zero_of_not_mem descends.point_not_mem] at count
  exact absurd count (by decide)

theorem names_ne_nil (descends : Descends name) :
    Path.names (name ++ Views.ending).toList ≠ [] := by
  rcases descends.exists_splitAt_file with ⟨first, part, parts, notPoint, cut⟩
  apply List.ne_nil_of_mem (a := String.ofList (first :: part))
  rw [Path.mem_names, cut, String.toList_ofList]
  refine ⟨List.mem_cons_self, ?_, ?_⟩
  · simp [← String.toList_inj]
  · simp [← String.toList_inj, notPoint]

/-- The file of a name lies below a root: its components are those of the root and then
names alone. -/
theorem components_join (descends : Descends name) (root : Path) :
    ∃ names : List String, names ≠ [] ∧
      (root.join ⟨name ++ Views.ending⟩).components = root.components ++ names.map .name ∧
      ∀ part ∈ names, part ≠ "" ∧ part ≠ "." ∧ part ≠ ".." := by
  refine ⟨Path.names (name ++ Views.ending).toList, descends.names_ne_nil, ?_, ?_⟩
  · rw [Path.components_join root descends.start_file,
      Path.components_eq ⟨name ++ Views.ending⟩, descends.start_file, List.nil_append,
      Path.inner_eq_map_name descends.parent_not_mem]
  · intro part member
    rcases Path.mem_names.mp member with ⟨among, nonempty, notPoint⟩
    refine ⟨nonempty, notPoint, ?_⟩
    rintro rfl
    exact descends.parent_not_mem among

end ViewName.Descends

theorem Views.pathOf_eq_ok {views : Views} {name : String} {path : Path}
    (accepted : views.pathOf name = .ok path) :
    ∃ root, views.root? = some root ∧ ViewName.Descends name ∧
      path = root.join ⟨name ++ ending⟩ := by
  unfold pathOf at accepted
  split at accepted
  · cases accepted
  next root configured =>
    split at accepted
    · cases accepted
    next allowed =>
      cases accepted
      exact ⟨root, configured, ViewName.descends_of_refusal? allowed, rfl⟩

/-! ## Calls -/

namespace Storage

variable {World : Type}

def Call.path : Call → Path
  | .modified path => path
  | .read path => path

/-- Between two moments calls were made on paths of this kind alone. -/
def Traced.CallsOn (allowed : Path → Prop) (before after : Traced World) : Prop :=
  ∃ made, after.calls = before.calls ++ made ∧ ∀ call ∈ made, allowed call.path

namespace Traced.CallsOn

variable {allowed : Path → Prop} {before between after : Traced World}

theorem refl (state : Traced World) : CallsOn allowed state state :=
  ⟨[], (List.append_nil _).symm, nofun⟩

theorem trans (first : CallsOn allowed before between)
    (second : CallsOn allowed between after) : CallsOn allowed before after := by
  rcases first with ⟨made, calls, on⟩
  rcases second with ⟨others, moreCalls, moreOn⟩
  refine ⟨made ++ others, by rw [moreCalls, calls, List.append_assoc], ?_⟩
  intro call member
  rcases List.mem_append.mp member with member | member
  · exact on call member
  · exact moreOn call member

end Traced.CallsOn

theorem traced_modified_callsOn (storage : Storage World) {allowed : Path → Prop}
    {path : Path} (holds : allowed path) (state : Traced World) :
    state.CallsOn allowed (storage.traced.modified path state).2 :=
  ⟨[.modified path], rfl, by simpa [Call.path] using holds⟩

theorem traced_read_callsOn (storage : Storage World) {allowed : Path → Prop}
    {path : Path} (holds : allowed path) (state : Traced World) :
    state.CallsOn allowed (storage.traced.read path state).2 :=
  ⟨[.read path], rfl, by simpa [Call.path] using holds⟩

end Storage

namespace Views

variable {World : Type}

@[simp]
theorem fetch_root? (storage : Storage World) (path : Path) (views : Views)
    (world : World) : (fetch storage path views world).2.1.root? = views.root? := by
  unfold fetch
  split
  · rfl
  · split
    · rfl
    · split <;> rfl

@[simp]
theorem load_root? (storage : Storage World) (name : String) (views : Views)
    (world : World) : (views.load storage name world).2.1.root? = views.root? := by
  unfold load
  split
  · rfl
  · simp

theorem fetch_callsOn (storage : Storage World) {allowed : Path → Prop} {path : Path}
    (holds : allowed path) (views : Views) (state : Storage.Traced World) :
    state.CallsOn allowed (fetch storage.traced path views state).2.2 := by
  have asked := storage.traced_modified_callsOn holds state
  unfold fetch
  generalize storage.traced.modified path state = answer at asked ⊢
  rcases answer with ⟨outcome, next⟩
  cases outcome with
  | error failure => exact asked
  | ok time =>
      dsimp only
      cases views.cache.fresh? path time (storage.traced.clock next) with
      | some content => exact asked
      | none =>
          have reread := asked.trans (storage.traced_read_callsOn holds next)
          dsimp only
          generalize storage.traced.read path next = answer at reread ⊢
          rcases answer with ⟨outcome, later⟩
          cases outcome <;> exact reread

/-- The paths of views under a root. -/
def Reaches (root? : Option Path) (path : Path) : Prop :=
  ∃ root name, root? = some root ∧ ViewName.Descends name ∧
    path = root.join ⟨name ++ ending⟩

theorem load_callsOn (storage : Storage World) (name : String) (views : Views)
    (state : Storage.Traced World) :
    state.CallsOn (Reaches views.root?) (views.load storage.traced name state).2.2 := by
  unfold load
  cases found : views.pathOf name with
  | error problem => exact .refl state
  | ok path =>
      rcases pathOf_eq_ok found with ⟨root, configured, descends, equal⟩
      exact fetch_callsOn storage ⟨root, name, configured, descends, equal⟩ _ state

end Views

/-! ## Loads and renders -/

/-- A session that keeps the root of the views and has made calls under it alone. -/
structure Session.Confined {World : Type} (root? : Option Path)
    (start : Storage.Traced World) (session : Session (Storage.Traced World)) : Prop where
  root : session.views.root? = root?
  calls : start.CallsOn (Views.Reaches root?) session.world

theorem Session.Confined.load {World : Type} {root? : Option Path}
    {start : Storage.Traced World} {session : Session (Storage.Traced World)}
    (confined : session.Confined root? start) (storage : Storage World) (name : String) :
    (session.load storage.traced name).2.Confined root? start where
  root := (Views.load_root? ..).trans confined.root
  calls := confined.calls.trans (confined.root ▸ Views.load_callsOn storage name _ _)

theorem Session.Confined.keeps {World : Type} (storage : Storage World)
    (root? : Option Path) (start : Storage.Traced World) :
    Render.Keeps storage.traced (Session.Confined root? start) where
  load name _ confined := confined.load storage name
  compile _ _ confined := ⟨confined.root, confined.calls⟩

namespace Engine

variable {World : Type}

theorem session_confined (engine : Engine) (state : Storage.Traced World) :
    (engine.session state).Confined engine.views.root? state :=
  ⟨rfl, .refl state⟩

theorem render_callsOn (storage : Storage World) (engine : Engine) (template : Template)
    (context : Context) (state : Storage.Traced World) :
    state.CallsOn (Views.Reaches engine.views.root?)
      (engine.render storage.traced template context state).2.2 :=
  (Render.template_keeps (Session.Confined.keeps storage engine.views.root? state) context
    includeLevels template _ (engine.session_confined state)).calls

@[simp]
theorem schemeTemplate_root? (engine : Engine) (name : String) :
    (engine.schemeTemplate name).2.views.root? = engine.views.root? := by
  unfold schemeTemplate
  split
  · rfl
  · split <;> rfl

theorem renderPage_callsOn (storage : Storage World) (engine : Engine) (view : String)
    (context : Context) (scheme? : Option String) (state : Storage.Traced World) :
    state.CallsOn (Views.Reaches engine.views.root?)
      (engine.renderPage storage.traced view context scheme? state).2.2 := by
  have root := engine.schemeTemplate_root? (engine.schemeName context scheme?)
  unfold renderPage
  generalize engine.schemeTemplate (engine.schemeName context scheme?) = outcome at root ⊢
  rcases outcome with ⟨result, next⟩
  cases result with
  | error problem => exact .refl state
  | ok compiled => exact root ▸ render_callsOn storage next compiled.template _ state

end Engine

/-! ## Confinement -/

/-- Between two moments every call was on the file of a name that leads down from the
root, so that names alone follow the components of the root. Without a root there was no
call. -/
def Storage.Traced.StaysBelow {World : Type} (root? : Option Path)
    (before after : Storage.Traced World) : Prop :=
  ∃ made, after.calls = before.calls ++ made ∧ (root? = none → made = []) ∧
    ∀ call ∈ made, ∃ root name, root? = some root ∧ ViewName.Descends name ∧
      call.path = root.join ⟨name ++ Views.ending⟩ ∧
      ∃ names : List String, names ≠ [] ∧
        call.path.components = root.components ++ names.map .name ∧
        ∀ part ∈ names, part ≠ "" ∧ part ≠ "." ∧ part ≠ ".."

theorem Storage.Traced.CallsOn.staysBelow {World : Type} {root? : Option Path}
    {before after : Storage.Traced World}
    (calls : before.CallsOn (Views.Reaches root?) after) :
    before.StaysBelow root? after := by
  rcases calls with ⟨made, equal, reached⟩
  refine ⟨made, equal, ?_, fun call member => ?_⟩
  · rintro rfl
    apply List.eq_nil_iff_forall_not_mem.mpr
    intro call member
    rcases reached call member with ⟨root, name, configured, _⟩
    cases configured
  · rcases reached call member with ⟨root, name, configured, descends, path⟩
    exact ⟨root, name, configured, descends, path, path ▸ descends.components_join root⟩

/-- No render and no load leaves the root of the views. -/
theorem Engine.calls_stay_below_root {World : Type} (storage : Storage World)
    (engine : Engine) (state : Storage.Traced World) :
    (∀ template context, state.StaysBelow engine.views.root?
      (engine.render storage.traced template context state).2.2) ∧
    (∀ name, state.StaysBelow engine.views.root?
      (engine.load storage.traced name state).2.2) ∧
    (∀ view context scheme?, state.StaysBelow engine.views.root?
      (engine.renderPage storage.traced view context scheme? state).2.2) := by
  refine ⟨fun template context => ?_, fun name => ?_, fun view context scheme? => ?_⟩
  · exact (engine.render_callsOn storage template context state).staysBelow
  · exact (engine.session_confined state |>.load storage name).calls.staysBelow
  · exact (engine.renderPage_callsOn storage view context scheme? state).staysBelow

end PageTemplates
