import PageTemplates.Path

/-! # Configurations -/

namespace PageTemplates

structure Config where
  views? : Option Path
  /-- How many milliseconds a kept view stays fresh. -/
  lifetime : Nat
  ignoreErrors : Bool
  /-- The scheme of pages that name none. -/
  defaultScheme? : Option String
  /-- Whether the directory of the views is watched for changes. -/
  watchViews : Bool
  deriving Repr, DecidableEq

namespace Config

/-- What holds for everything that a configuration leaves out. -/
def standard : Config where
  views? := none
  lifetime := 60000
  ignoreErrors := false
  defaultScheme? := none
  watchViews := true

def lifetimeLimit : Nat := 0xFFFFFFFFFFFFFFFF

def withViews (config : Config) (directory : Path) : Config :=
  { config with views? := some directory }

/-- Set the lifetime to a number of microseconds. Only whole milliseconds count, and
what is too long becomes the greatest lifetime. -/
def withLifetime (config : Config) (microseconds : Nat) : Config :=
  { config with lifetime := min (microseconds / 1000) lifetimeLimit }

def withIgnoreErrors (config : Config) (ignoreErrors : Bool) : Config :=
  { config with ignoreErrors := ignoreErrors }

def withDefaultScheme (config : Config) (name : String) : Config :=
  { config with defaultScheme? := some name }

def withWatchViews (config : Config) (watchViews : Bool) : Config :=
  { config with watchViews := watchViews }

end Config

end PageTemplates
