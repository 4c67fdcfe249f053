import LineShell.Config.Overlay

/-!
# Loading the configuration

The overlay of a user stands in a file below the home directory.  A file that cannot be read is
passed over; one that is wrong is passed over with a warning.
-/

namespace LineShell

/-- Where the overlay stands below the home directory. -/
def overlayFile : Text := ".config/minish/config.toml".toList

/-- The source of the overlay, if there is one that can be read. -/
def overlaySource? (host : Host) : Option Text :=
  host.home.bind fun home =>
    (host.files.readText host.cwd (joinPath home overlayFile)).toOption

/-- The warning about a file that is wrong. -/
def overlayWarning (source : Text) (e : Toml.Error) : Text :=
  "minish: config parse error: ".toList ++ e.report source ++ ['\n']

/-- The configuration of a machine, and a warning if its file is wrong. -/
def Config.load (host : Host) : Config × Text :=
  match overlaySource? host with
  | none => (.standard, [])
  | some source =>
    match Overlay.parse source with
    | .ok overlay => (Config.standard.apply overlay, [])
    | .error e => (.standard, overlayWarning source e)

end LineShell
