import PageTemplates.Dictionary
import PageTemplates.Path

/-! # Watched directories

A directory is watched at most once. An attempt that failed is remembered as well and
is not made again.
-/

namespace PageTemplates

structure WatchRegistry where
  enabled : Bool
  /-- The directories tried, and whether each is watched. -/
  attempts : Dictionary (List Component) Bool
  deriving Repr

namespace WatchRegistry

def empty (enabled : Bool) : WatchRegistry := ⟨enabled, []⟩

/-- Try to watch a directory, where `canWatch` tells how that goes. -/
def ensure (registry : WatchRegistry) (directory : Path) (canWatch : Bool) :
    WatchRegistry :=
  if registry.enabled && !Dictionary.has registry.attempts directory.components then
    { registry with
      attempts := Dictionary.put directory.components canWatch registry.attempts }
  else
    registry

def isWatching (registry : WatchRegistry) (directory : Path) : Bool :=
  Dictionary.get? registry.attempts directory.components == some true

def attempted (registry : WatchRegistry) : Nat :=
  registry.attempts.length

def text (registry : WatchRegistry) : String :=
  "WatchRegistry \x7b enabled: " ++ (if registry.enabled then "true" else "false") ++
    ", attempted: " ++ toString registry.attempted ++ " \x7d"

end WatchRegistry

end PageTemplates
