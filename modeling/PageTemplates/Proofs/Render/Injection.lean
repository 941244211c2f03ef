import PageTemplates.Proofs.Text.Markup
import PageTemplates.Proofs.View.Reachable

/-! # Data adds no markup

The output of a render is put together from text segments, of the template and of the views
within reach, and from escaped values. So a property that texts hand on to what is put
together from them, and that every escaped text has, holds of the output as soon as it
holds of the text segments, whatever the data and the expressions give.
-/

namespace PageTemplates

variable {World : Type}

/-- A property of every escaped text, and of what is put together from texts with the
property. -/
structure Text.Composable (holds : List Char → Prop) : Prop where
  nil : holds []
  append : ∀ {left right}, holds left → holds right → holds (left ++ right)
  escaped : ∀ text, holds (escapeMarkup text).toList

theorem Text.composable_not_mem {marked : Char} (isMarkup : marked ∈ ['<', '>', '"', '\'']) :
    Composable (marked ∉ ·) where
  nil := List.not_mem_nil
  append left right := by simp [left, right]
  escaped := not_mem_escapeMarkup isMarkup

theorem Text.composable_ampersandsEscaped : Composable AmpersandsEscaped where
  nil := .of_not_mem List.not_mem_nil
  append := .append
  escaped := .escapeMarkup

namespace Template

/-- The text segments of the template. -/
def texts (template : Template) : List String :=
  template.segments.filterMap fun
    | .text content => some content
    | _ => none

@[simp]
theorem mem_texts {template : Template} {content : String} :
    content ∈ template.texts ↔ .text content ∈ template.segments := by
  rw [texts, List.mem_filterMap]
  constructor
  · rintro ⟨part, member, shown⟩
    split at shown <;> cases shown
    exact member
  · exact fun member => ⟨.text content, member, rfl⟩

/-- Every text segment of the template has the property. -/
def TextsHave (holds : List Char → Prop) (template : Template) : Prop :=
  ∀ content ∈ template.texts, holds content.toList

/-- Sources whose text segments have the property, once they are compiled. -/
def CompilesTo (holds : List Char → Prop) (source : String) : Prop :=
  (compile source).TextsHave holds

end Template

/-! ## What the output is put together from -/

namespace Render

variable {holds : List Char → Prop} {invariant : Session World → Prop}
  {follow : IncludeTarget → Session World → Rendered × Session World}

theorem output_ofValue (composable : Text.Composable holds) (value : Value) :
    holds (Rendered.ofValue value).output.toList := by
  unfold Rendered.ofValue
  cases value.shown? with
  | none => exact composable.nil
  | some text => exact composable.escaped text

theorem segment_output (composable : Text.Composable holds) {part : Segment}
    {session : Session World}
    (follows : ∀ target, holds (follow target session).1.output.toList)
    (text : ∀ content, part = .text content → holds content.toList) (context : Context) :
    holds (segment follow context session part).1.output.toList := by
  cases part with
  | text content => exact text content rfl
  | path names => exact output_ofValue composable _
  | inclusion target => exact follows target
  | expression value =>
      rw [segment]
      cases value.evaluate context with
      | ok found => exact output_ofValue composable found
      | error problem => exact composable.nil
  | rejected => exact composable.nil

theorem segments_output (composable : Text.Composable holds)
    (follows : ∀ target session, invariant session →
      holds (follow target session).1.output.toList)
    (keeps : ∀ target session, invariant session → invariant (follow target session).2)
    {parts : List Segment} (texts : ∀ content, .text content ∈ parts → holds content.toList)
    (context : Context) {session : Session World} (satisfied : invariant session) :
    holds (segments follow context parts session).1.output.toList := by
  induction parts generalizing session with
  | nil => exact composable.nil
  | cons first rest induction =>
      have own := segment_output composable (follows · session satisfied)
        (fun content equal => texts content (equal ▸ List.mem_cons_self)) context
      have others := induction
        (fun content member => texts content (List.mem_cons_of_mem first member))
        (segment_keeps keeps context first session satisfied)
      have joined := composable.append own others
      rwa [← String.toList_append] at joined

/-- By induction on the levels that are left: what is loaded is within reach, so the texts
of its compilation have the property too. -/
theorem inclusion_output (composable : Text.Composable holds) (storage : Storage World)
    (context : Context) (levels : Nat) (target : IncludeTarget) (session : Session World)
    (meets : session.OnlyMeets storage (Template.CompilesTo holds)) :
    holds (inclusion storage context levels target session).1.output.toList := by
  induction levels generalizing target session with
  | zero => exact composable.nil
  | succ levels induction =>
      have keeps := Session.OnlyMeets.keeps storage (Template.CompilesTo holds)
      have loaded := keeps.load (target.resolve context) session meets
      have accepted (content : String)
          (found : (session.load storage (target.resolve context)).1 = .ok content) :
          Template.CompilesTo holds content :=
        meets.content_of_load found
      rw [inclusion]
      generalize session.load storage (target.resolve context) = outcome at loaded accepted ⊢
      rcases outcome with ⟨result, after⟩
      cases result with
      | error problem => exact composable.nil
      | ok content =>
          have compiled : (after.compile content).1 = Template.compile content :=
            (loaded.templates.get content).1
          have texts : (after.compile content).1.TextsHave holds :=
            compiled ▸ accepted content rfl
          exact segments_output composable induction (inclusion_keeps keeps context levels)
            (fun text member => texts text (Template.mem_texts.mpr member)) context
            (keeps.compile content after loaded)

end Render

theorem Template.output_of_texts {holds : List Char → Prop}
    (composable : Text.Composable holds) (storage : Storage World) (template : Template)
    (context : Context) (session : Session World) (texts : template.TextsHave holds)
    (meets : session.OnlyMeets storage (CompilesTo holds)) :
    holds (template.render storage context session).1.output.toList :=
  Render.segments_output composable
    (Render.inclusion_output composable storage context includeLevels)
    (Render.inclusion_keeps (Session.OnlyMeets.keeps storage (CompilesTo holds)) context
      includeLevels)
    (fun content member => texts content (mem_texts.mpr member)) context meets

/-! ## No markup from data -/

theorem Template.TextsHave.ampersandsEscaped {template : Template}
    (texts : template.TextsHave ('&' ∉ ·)) : template.TextsHave Text.AmpersandsEscaped :=
  fun content member => .of_not_mem (texts content member)

/-- Where no text segment within reach holds one of the four other markup characters, the
output holds none; and where none holds an ampersand, every ampersand of the output begins
an entity. The data and the literals of expressions may hold any characters. -/
theorem Template.render_injects_no_markup (storage : Storage World) (template : Template)
    (context : Context) (session : Session World) :
    (∀ marked ∈ ['<', '>', '"', '\''], template.TextsHave (marked ∉ ·) →
      session.OnlyMeets storage (CompilesTo (marked ∉ ·)) →
      marked ∉ (template.render storage context session).1.output.toList) ∧
    (template.TextsHave ('&' ∉ ·) → session.OnlyMeets storage (CompilesTo ('&' ∉ ·)) →
      ∀ before after,
        (template.render storage context session).1.output.toList =
          before ++ '&' :: after →
        ∃ entity ∈ ["&amp;".toList, "&lt;".toList, "&gt;".toList, "&quot;".toList,
          "&#39;".toList], entity <+: '&' :: after) := by
  constructor
  · intro marked isMarkup texts meets
    exact template.output_of_texts (Text.composable_not_mem isMarkup) storage context session
      texts meets
  · intro texts meets
    exact template.output_of_texts Text.composable_ampersandsEscaped storage context session
      texts.ampersandsEscaped (meets.imp fun _ => TextsHave.ampersandsEscaped)

/-! A name with markup, shown by a page and by the view that the page includes. -/

namespace Injection

def pageSource : String := "Dear \x7b\x7b name \x7d\x7d, \x7b\x7b include('card') \x7d\x7d"

def viewSource : String := "[\x7b\x7b '<b>' + name \x7d\x7d]"

def data : Context := ⟨[("name", .string "<i>'&amp;'")], rfl⟩

def files : FileTable := FileTable.empty.write ⟨"views/card.html"⟩ ⟨viewSource, 0, none⟩

def session : Session FileTable where
  templates := .empty
  views := ⟨some ⟨"views"⟩, .empty 1, .empty false⟩
  world := files

end Injection

open Injection in
theorem Template.render_injects_no_markup_of_name :
    '<' ∉ ((compile pageSource).render FileTable.storage data session).1.output.toList ∧
    (∀ before after,
      ((compile pageSource).render FileTable.storage data session).1.output.toList =
        before ++ '&' :: after →
      ∃ entity ∈ ["&amp;".toList, "&lt;".toList, "&gt;".toList, "&quot;".toList,
        "&#39;".toList], entity <+: '&' :: after) ∧
    ((compile pageSource).render FileTable.storage data session).1.output =
      "Dear &lt;i&gt;&#39;&amp;amp;&#39;, [&lt;b&gt;&lt;i&gt;&#39;&amp;amp;&#39;]" := by
  have pageTexts : (compile pageSource).texts = ["Dear ", ", "] := by decide +kernel
  have viewTexts : (compile viewSource).texts = ["[", "]"] := by decide +kernel
  have joined : Text.normalizeLines viewSource = viewSource := by decide +kernel
  have meets {holds : List Char → Prop} (view : CompilesTo holds viewSource) :
      session.OnlyMeets FileTable.storage (CompilesTo holds) := by
    refine ⟨TemplateCache.faithful_empty, nofun, FileTable.onlyReads ?_⟩
    exact Dictionary.forall_get?_put nofun (joined.symm ▸ view)
  have page {marked : Char} (other : ∀ text ∈ ["Dear ", ", "], marked ∉ text.toList) :
      (compile pageSource).TextsHave (marked ∉ ·) := by
    rwa [TextsHave, pageTexts]
  have view {marked : Char} (other : ∀ text ∈ ["[", "]"], marked ∉ text.toList) :
      CompilesTo (marked ∉ ·) viewSource := by
    rwa [CompilesTo, TextsHave, viewTexts]
  have injected := render_injects_no_markup FileTable.storage (compile pageSource) data session
  refine ⟨injected.1 '<' (by decide) (page (by decide)) (meets (view (by decide))),
    injected.2 (page (by decide)) (meets (view (by decide))), ?_⟩
  decide +kernel

end PageTemplates
