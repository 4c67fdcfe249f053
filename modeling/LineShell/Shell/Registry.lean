import LineShell.Application.Run

/-!
# The registry of applications

A registry maps names to applications.  `Registry.ofConfig` registers every builtin that is not
disabled under its name, and its tolerant form under that name with a mark before it.
-/

namespace LineShell

/-- Which applications are registered, and how their tolerant forms are marked. -/
structure AppsConfig where
  /-- What stands before the name of a tolerant form; empty registers none. -/
  mark : Text := ['_']
  /-- The builtins that are left out. -/
  disabled : List Text := []
deriving DecidableEq, Repr

/-- Applications by name; a name stands once. -/
structure Registry where
  apps : List (Text × Application) := []
deriving DecidableEq, Repr

namespace Registry

/-- Replaces the application of a name, or adds it after the others. -/
def insertApp (name : Text) (app : Application) :
    List (Text × Application) → List (Text × Application)
  | [] => [(name, app)]
  | (n, a) :: rest =>
    if n = name then (name, app) :: rest else (n, a) :: insertApp name app rest

/-- Registers an application, in place of one of the same name. -/
def insert (r : Registry) (name : Text) (app : Application) : Registry :=
  ⟨insertApp name app r.apps⟩

/-- The application of a name. -/
def get? (r : Registry) (name : Text) : Option Application := r.apps.lookup name

/-- The names in order. -/
def names (r : Registry) : List Text := Text.sort (r.apps.map Prod.fst)

/-- Registers a builtin and its tolerant form, unless it is disabled. -/
def addBuiltin (config : AppsConfig) (r : Registry) (b : Builtin) : Registry :=
  if config.disabled.contains b.name then r
  else
    let r := r.insert b.name (.plain b)
    if b.hasTolerantForm && !config.mark.isEmpty then
      r.insert (config.mark ++ b.name) (.tolerant (.plain b))
    else r

/-- The registry of a configuration. -/
def ofConfig (config : AppsConfig) : Registry := Builtin.all.foldl (addBuiltin config) {}

end Registry

end LineShell
