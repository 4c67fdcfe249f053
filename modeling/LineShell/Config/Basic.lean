import LineShell.Shell.Registry

/-!
# Configuration

A configuration has settings and a choice of applications.  A user's `Overlay` is merged into the
defaults: a single value replaces the default, a list is merged into it by `mergeList`.

`expandPath` gives the path of a configured file; an empty text stands for no file.
-/

namespace LineShell

/-! ## Configurations -/

/-- The settings of the shell. -/
structure Settings where
  logLevel : Text
  logFile : Text
  historyFile : Text
deriving DecidableEq, Repr

/-- A configuration. -/
structure Config where
  settings : Settings
  apps : AppsConfig
deriving DecidableEq, Repr

/-- The configuration of a user who has written none. -/
def Config.standard : Config where
  settings := {
    logLevel := "warn".toList
    logFile := "~/.local/share/minish/minish.log".toList
    historyFile := "~/.local/share/minish/history".toList }
  apps := {}

/-- The path of a configured file. -/
def expandPath (home : Option Text) (path : Text) : Option Text :=
  if path.isEmpty then none else some (Text.expandHome home path)

/-! ## Overlays -/

/-- What a user says about the settings. -/
structure SettingsOverlay where
  logLevel : Option Text := none
  logFile : Option Text := none
  historyFile : Option Text := none
deriving DecidableEq, Repr

/-- What a user says about the applications. -/
structure AppsOverlay where
  /-- The list of disabled builtins replaces the default. -/
  replaced : Bool := false
  mark : Option Text := none
  disabled : List Text := []
  /-- Builtins that the default disables and the user does not. -/
  enabled : List Text := []
deriving DecidableEq, Repr

/-- What a user says. -/
structure Overlay where
  settings : SettingsOverlay := {}
  apps : AppsOverlay := {}
deriving DecidableEq, Repr

/-- Adds an item that is not there yet. -/
def addItem (xs : List Text) (x : Text) : List Text := if xs.contains x then xs else xs ++ [x]

/-- Merges lists: those of `base` that are not removed, then those of `added` that are not there
    yet; or `added` alone, if it replaces the base. -/
def mergeList (base added removed : List Text) (replaced : Bool) : List Text :=
  if replaced then added
  else added.foldl addItem (base.filter fun x => !removed.contains x)

/-- A configuration with an overlay merged into it. -/
def Config.apply (c : Config) (o : Overlay) : Config where
  settings := {
    logLevel := o.settings.logLevel.getD c.settings.logLevel
    logFile := o.settings.logFile.getD c.settings.logFile
    historyFile := o.settings.historyFile.getD c.settings.historyFile }
  apps := {
    mark := o.apps.mark.getD c.apps.mark
    disabled := mergeList c.apps.disabled o.apps.disabled o.apps.enabled o.apps.replaced }

end LineShell
