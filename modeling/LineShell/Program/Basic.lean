import LineShell.Config.Load
import LineShell.Log.Basic
import LineShell.Program.History
import LineShell.Shell.Execute

/-!
# The program

`Program.run` is the whole program as a function of its arguments, its standard input and the
machine.  It loads the configuration, opens the log, and then runs one line (`-c LINE`) or the
lines of standard input.

**One line.**  What it wrote goes to standard output, a failure to standard error; the status
tells which.

**Lines of standard input.**  Blank lines are passed over, all others go into the history.  A
failure does not end the program.  An application that reads standard input takes everything that
is left of it, so no more lines follow.
-/

namespace LineShell.Program

/-- What the program leaves behind. -/
structure Result where
  stdout : Text := []
  stderr : Text := []
  status : Nat := 0
  host : Host
deriving DecidableEq, Repr

/-- What stays the same while the program runs. -/
structure Setup where
  registry : Registry
  log : Option Log
  /-- The time of day in the log. -/
  clock : Text

/-- How the program is called. -/
def usage : Text := "usage: minish [-c COMMAND]".toList

/-- A line of standard error. -/
def complaint (message : Text) : Text := "minish: ".toList ++ message ++ ['\n']

/-- Writes notes to the log. -/
def Setup.record (setup : Setup) (notes : List Note) (host : Host) : Host :=
  match setup.log with
  | none => host
  | some log => { host with files := log.append (log.lines setup.clock notes) host.files }

/-- Runs a line: what it wrote, its failure if it failed, and the shell after it, whose notes are
    in the log. -/
def runLine (setup : Setup) (line : Text) (host : Host) (stdin : Bytes) :
    Text × Option ShellError × Shell :=
  let r := Shell.runLine setup.registry line {} { host, stdin }
  let failure :=
    match r.result with
    | .ok _ => none
    | .error e => some e
  let notes := r.shell.notes ++ failure.toList.map .failed
  (r.output.joined, failure,
    { r.shell with host := setup.record notes r.shell.host, notes := [] })

/-- Runs one line. -/
def runOne (setup : Setup) (line : Text) (host : Host) (stdin : Bytes) : Result :=
  let (out, failure, shell) := runLine setup line host stdin
  { stdout := out
    stderr := (failure.toList.map fun e => complaint e.message).flatten
    status := if failure.isSome then 1 else 0
    host := shell.host }

/-! ## Lines of standard input -/

/-- The lines read so far: what they wrote, the history and the machine after them. -/
structure Session where
  stdout : Text := []
  stderr : Text := []
  history : History
  host : Host

/-- Runs the lines of standard input. -/
def runLines (setup : Setup) (s : Session) : List Bytes → Session
  | [] => { s with host := setup.record [.awaiting] s.host }
  | raw :: rest =>
    let host := setup.record [.awaiting] s.host
    match History.lineText? raw with
    | none =>
      { s with
        stderr := s.stderr ++ complaint FileError.invalidText.message
        host := host }
    | some line =>
      if Text.isBlankText line then runLines setup { s with host := host } rest
      else
        let left := rest.flatten
        let (out, failure, shell) := runLine setup line host left
        let s' : Session := {
          stdout := s.stdout ++ out
          stderr := s.stderr ++ (failure.toList.map fun e => complaint e.message).flatten
          history := s.history.add line
          host := shell.host }
        if shell.stdin = left then runLines setup s' rest
        else { s' with host := setup.record [.awaiting] s'.host }

/-- Reads the history of a path; what is wrong with it is noted. -/
def loadHistory (host : Host) (path : Option Text) : History × List Note :=
  match path with
  | none => ({}, [])
  | some path =>
    match host.files.readBytes host.cwd path with
    | .error _ => ({}, [])
    | .ok contents =>
      let (h, bad) := History.ofFile contents
      (h, bad.map .badHistory)

/-- Writes the history to a path if it has anything new; the directories above it are made in any
    case. -/
def saveHistory (host : Host) (path : Option Text) (h : History) : Host :=
  match path with
  | none => host
  | some path =>
    let made := host.files.makeParents host.cwd path
    let files :=
      if h.unsaved = 0 then made
      else ((made.write host.cwd path false (Utf8.encode h.file)).toOption).getD made
    { host with files }

/-- Runs the lines of standard input, with the history around them. -/
def runSession (setup : Setup) (settings : Settings) (host : Host) (stdin : Bytes) : Result :=
  let path := expandPath host.home settings.historyFile
  let (history, notes) := loadHistory host path
  let s := runLines setup { history, host := setup.record notes host } (byteLines stdin)
  { stdout := s.stdout, stderr := s.stderr, host := saveHistory s.host path s.history }

/-! ## Arguments -/

/-- The program. -/
def run (clock : Text) (args : List Text) (stdin : Bytes) (host : Host) : Result :=
  let (config, warning) := Config.load host
  let (log, host) := Log.start config.settings host
  let setup : Setup := ⟨Registry.ofConfig config.apps, log, clock⟩
  let misused (message : Text) : Result :=
    { stderr := complaint message ++ usage ++ ['\n'], status := 2, host }
  let r :=
    match args with
    | [] => runSession setup config.settings host stdin
    | [flag] =>
      if flag = "-c".toList then misused "-c requires a command".toList
      else misused ("unexpected arguments: ".toList ++ flag)
    | [flag, line] =>
      if flag = "-c".toList then runOne setup line host stdin
      else misused ("unexpected arguments: ".toList ++ Text.join [' '] args)
    | _ => misused ("unexpected arguments: ".toList ++ Text.join [' '] args)
  { r with stderr := warning ++ r.stderr }

end LineShell.Program
