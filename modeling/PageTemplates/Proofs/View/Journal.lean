import PageTemplates.Storage.Table

/-! # Files with a history

A storage whose files are what was written to them last. What was written before is kept,
so that times can be told apart that a file has and has had. The calls of a load change
nothing, but any of them may fail, and between them any time may pass.
-/

namespace PageTemplates

structure Write where
  path : Path
  content : String
  modified : Time
  deriving DecidableEq

/-- What was written to the files of a storage, the latest first, and how it answers. -/
structure Journal where
  writes : List Write
  failure? : FailingCall → Path → Option Failure
  clock : Nat
  canWatch : Path → Bool

namespace Write

/-- The latest of the writes to a file. -/
def last? (writes : List Write) (file : List Component) : Option Write :=
  writes.find? fun write => write.path.components = file

/-- A time that a file has or has had. -/
def Used (writes : List Write) (file : List Component) (time : Time) : Prop :=
  ∃ write ∈ writes, write.path.components = file ∧ write.modified = time

instance (writes : List Write) (file : List Component) (time : Time) :
    Decidable (Used writes file time) :=
  inferInstanceAs (Decidable (∃ write ∈ writes, _ ∧ _))

theorem last?_cons_of_ne {write : Write} {file : List Component}
    (other : write.path.components ≠ file) (writes : List Write) :
    last? (write :: writes) file = last? writes file := by
  simp [last?, other]

theorem last?_cons_self (write : Write) (writes : List Write) :
    last? (write :: writes) write.path.components = some write := by
  simp [last?]

theorem used_of_last? {writes : List Write} {file : List Component} {write : Write}
    (last : last? writes file = some write) : Used writes file write.modified := by
  have found := List.find?_some last
  exact ⟨write, List.mem_of_find?_eq_some last, of_decide_eq_true found, rfl⟩

theorem Used.cons {writes : List Write} {file : List Component} {time : Time}
    (used : Used writes file time) (write : Write) : Used (write :: writes) file time := by
  rcases used with ⟨found, member, same⟩
  exact ⟨found, List.mem_cons_of_mem write member, same⟩

end Write

namespace Journal

def answer (journal : Journal) (call : FailingCall) (path : Path) : Except Failure Write :=
  match journal.failure? call path with
  | some failure => .error failure
  | none =>
      match Write.last? journal.writes path.components with
      | some write => .ok write
      | none => .error ⟨.notFound, "entity not found"⟩

def storage : Storage Journal where
  modified path journal := ((journal.answer .modified path).map Write.modified, journal)
  read path journal := ((journal.answer .read path).map Write.content, journal)
  clock := Journal.clock
  canWatch path journal := journal.canWatch path

theorem last?_of_answer {journal : Journal} {call : FailingCall} {path : Path} {write : Write}
    (answered : journal.answer call path = .ok write) :
    Write.last? journal.writes path.components = some write := by
  unfold answer at answered
  split at answered
  · cases answered
  · split at answered
    next found =>
      cases answered
      exact found
    next => cases answered

end Journal

end PageTemplates
