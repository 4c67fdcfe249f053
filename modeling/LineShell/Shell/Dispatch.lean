import LineShell.Shell.Channel
import LineShell.Shell.Journal
import LineShell.Shell.Registry

/-!
# Dispatching a command line

A command line names an application by its first word; the rest are its arguments.  `dispatch`
runs the application and then, whether it failed or not, writes what the channel holds to the
output redirection.  The target is resolved only then, so the application sees its old contents,
and `cd` moves it.  If the target cannot be written the channel keeps its output; a failure of
the application is reported first.
-/

namespace LineShell

/-- What dispatching a command line gives. -/
structure Dispatched where
  result : Except ShellError Unit
  channel : Channel
  input : Input
  host : Host
  notes : List Note
deriving Repr

/-- The first word of a command line and what follows it. -/
def splitCommand (cmdline : Text) : Text × Text :=
  let line := Text.trimStart cmdline
  (line.takeWhile (!isBlank ·), line.dropWhile (!isBlank ·))

/-- The arguments in what follows the name: all of it after one character, or its words. -/
def arguments (raw : Bool) (rest : Text) : List Text :=
  if raw then [rest.drop 1] else Text.words rest

/-- Runs the application that a command line names. -/
def runApplication (registry : Registry) (host : Host) (input : Input) (channel : Channel)
    (cmdline : Text) : Dispatched :=
  let (name, rest) := splitCommand cmdline
  if name.isEmpty then
    ⟨.error .noApplication, channel, input, host, [.dispatched cmdline none]⟩
  else
    match registry.get? name with
    | none =>
      ⟨.error (.unknownApplication name), channel, input, host, [.dispatched cmdline none]⟩
    | some app =>
      let args := arguments app.isRaw rest
      let o := app.run host input args
      { result :=
          match o.failure with
          | none => .ok ()
          | some e => .error (.application name e)
        channel := channel.append ⟨o.output⟩
        input := o.input
        host := { host with cwd := o.cwd }
        notes := .dispatched cmdline (some (name, args)) :: o.suppressed.map .suppressed }

/-- Writes a channel to an output redirection. -/
def writeOutput (target : OutputTarget) (d : Dispatched) : Dispatched :=
  match d.host.files.write d.host.cwd target.file target.append
      (Utf8.encode d.channel.joined) with
  | .ok files => { d with channel := {}, host := { d.host with files } }
  | .error e =>
    { d with
      result :=
        match d.result with
        | .ok _ => .error (.redirect target.file e)
        | .error first => .error first }

/-- Dispatches a command line. -/
def dispatch (registry : Registry) (host : Host) (input : Input)
    (output : Option OutputTarget) (channel : Channel) (cmdline : Text) : Dispatched :=
  let d := runApplication registry host input channel cmdline
  match output with
  | none => d
  | some target => writeOutput target d

end LineShell
