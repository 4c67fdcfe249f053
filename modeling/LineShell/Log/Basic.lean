import LineShell.Config.Basic
import LineShell.Log.Record

/-!
# The log

The log is a file that was opened once, so it stays where it is when the working directory moves.
Nothing fails for want of a log: a file that cannot be opened means that there is none.
-/

namespace LineShell

/-- An open log. -/
structure Log where
  level : Level
  place : Place
deriving DecidableEq, Repr

namespace Log

/-- Opens the log of some settings; its file and the directories above it are made if there are
    none. -/
def start (settings : Settings) (host : Host) : Option Log × Host :=
  match Level.ofName? settings.logLevel, expandPath host.home settings.logFile with
  | some level, some path =>
    let made := host.files.makeParents host.cwd path
    match made.write host.cwd path true [] with
    | .error _ => (none, { host with files := made })
    | .ok files =>
      match files.resolve host.cwd true path with
      | .ok (.found place _) => (some ⟨level, place⟩, { host with files })
      | _ => (none, { host with files })
  | _, _ => (none, host)

/-- The lines that a log has for some notes. -/
def lines (log : Log) (clock : Text) (notes : List Note) : Text :=
  ((notes.filterMap Note.record?).filter fun r => log.level.admits r.level).flatMap
    (Record.line clock)

/-- Adds text at the end of the log. -/
def append (log : Log) (text : Text) (files : FileSystem) : FileSystem :=
  match files.find? log.place with
  | some (.file old) => files.put log.place (.file (old ++ Utf8.encode text))
  | _ => files

end Log

end LineShell
