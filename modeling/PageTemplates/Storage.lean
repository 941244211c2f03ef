import PageTemplates.Path

/-! # Storage

Where views and schemes are read from. What a call answers may depend on the world, and
every call may change it: files are written while a page is rendered.
-/

namespace PageTemplates

/-- A time as the storage reports it. Times are only compared for equality. -/
abbrev Time := Int

/-- Why a call to the storage failed, as far as pages tell such reasons apart. -/
inductive FailureKind
  | notFound
  | permissionDenied
  | other
  deriving Repr, DecidableEq

/-- A failed call, with the words that the storage has for it. -/
structure Failure where
  kind : FailureKind
  text : String
  deriving Repr, DecidableEq

structure Storage (World : Type) where
  modified : Path → World → Except Failure Time × World
  read : Path → World → Except Failure String × World
  /-- Milliseconds that have passed. -/
  clock : World → Nat
  /-- Whether changes under a directory can be watched. -/
  canWatch : Path → World → Bool

namespace Storage

/-! ## Recorded calls -/

inductive Call
  | modified (path : Path)
  | read (path : Path)
  deriving Repr, DecidableEq

/-- A world beside the calls made in it, in order. -/
structure Traced (World : Type) where
  world : World
  calls : List Call

def traced {World : Type} (storage : Storage World) : Storage (Traced World) where
  modified path state :=
    let (answer, world) := storage.modified path state.world
    (answer, ⟨world, state.calls ++ [.modified path]⟩)
  read path state :=
    let (answer, world) := storage.read path state.world
    (answer, ⟨world, state.calls ++ [.read path]⟩)
  clock state := storage.clock state.world
  canWatch path state := storage.canWatch path state.world

end Storage

end PageTemplates
