import LineShell.Shell.Dispatch

/-!
# Running commands

A `Shell` is what a command can change: the machine, standard input, and the journal.  Running a
command gives a `Run`: whether it succeeded, what it wrote, and the shell after it.

* A sequence runs its children in order and stops at the first failure; what was written before
  is kept.
* A pipeline hands the output of each stage to the next.  If a stage other than the last fails,
  nothing is written.
* A call first checks its redirections, then runs its substitution, then dispatches.

A command writes to a channel of its own: what others have written cannot be seen from it.
-/

namespace LineShell

/-- What a command can change. -/
structure Shell where
  host : Host
  stdin : Bytes := []
  notes : List Note := []
deriving DecidableEq, Repr

/-- What running a command gives. -/
structure Run where
  result : Except ShellError Unit
  output : Channel
  shell : Shell
deriving Repr

namespace Shell

/-- Adds notes to the journal. -/
def note (shell : Shell) (notes : List Note) : Shell :=
  { shell with notes := shell.notes ++ notes }

end Shell

namespace Run

/-- Nothing was done. -/
def done (shell : Shell) : Run := ⟨.ok (), {}, shell⟩

/-- A failure before anything was written. -/
def fail (e : ShellError) (shell : Shell) : Run := ⟨.error e, {}, shell⟩

/-- Goes on after success, writing behind what was written. -/
def andThen (r : Run) (next : Shell → Run) : Run :=
  match r.result with
  | .error _ => r
  | .ok _ =>
    let s := next r.shell
    { s with output := r.output.append s.output }

/-- Goes on after success with what was written, which is not written itself. -/
def feed (r : Run) (next : Channel → Shell → Run) : Run :=
  match r.result with
  | .error e => fail e r.shell
  | .ok _ => next r.output r.shell

end Run

/-- Dispatches the command line of a call. -/
def dispatchCall (registry : Registry) (streams : Streams) (piped : Option (List Text))
    (shell : Shell) (cmdline : Text) : Run :=
  let d := dispatch registry shell.host ⟨streams.input, piped, shell.stdin⟩ streams.output {}
    cmdline
  ⟨d.result, d.channel, { host := d.host, stdin := d.input.stdin, notes := shell.notes ++ d.notes }⟩

/-- The command line of a call around the output of its substitution. -/
def splice (before : Text) (output : Channel) (after : Text) : Text :=
  before ++ Text.flatten output.joined ++ after

namespace Command

mutual

/-- Runs a command with what is piped into it.  Text that a call still has to read is run by
    `runText`. -/
def exec (registry : Registry) (runText : Text → Shell → Run) :
    Command → Option (List Text) → Shell → Run
  | .sequence children, _, shell => execAll registry runText children shell
  | .pipeline stages, piped, shell => execStages registry runText stages piped shell
  | .call ⟨_, redirections, some ⟨.parsed command, before, after⟩, false⟩, piped, shell =>
    match splitRedirections redirections with
    | .error direction => .fail (.conflict direction) shell
    | .ok streams =>
      (exec registry runText command none shell).feed fun output shell =>
        dispatchCall registry streams piped shell (splice before output after)
  | .call ⟨_, redirections, some ⟨.raw text, before, after⟩, false⟩, piped, shell =>
    match splitRedirections redirections with
    | .error direction => .fail (.conflict direction) shell
    | .ok streams =>
      (runText text shell).feed fun output shell =>
        dispatchCall registry streams piped shell (splice before output after)
  | .call ⟨text, redirections, _, _⟩, piped, shell =>
    match splitRedirections redirections with
    | .error direction => .fail (.conflict direction) shell
    | .ok streams => dispatchCall registry streams piped shell text

/-- Runs commands one after another, up to the first failure. -/
def execAll (registry : Registry) (runText : Text → Shell → Run) :
    List Command → Shell → Run
  | [], shell => .done shell
  | command :: rest, shell =>
    (exec registry runText command none shell).andThen fun shell =>
      execAll registry runText rest shell

/-- Runs the stages of a pipeline, each fed by the one before it. -/
def execStages (registry : Registry) (runText : Text → Shell → Run) :
    List Command → Option (List Text) → Shell → Run
  | [], _, shell => .done shell
  | [last], piped, shell => exec registry runText last piped shell
  | stage :: rest, piped, shell =>
    (exec registry runText stage piped shell).feed fun output shell =>
      execStages registry runText rest (some output.fragments) shell

end

end Command

namespace Shell

/-- Runs a line.  Text that a call still has to read is run as a line of its own; it is shorter
    than the line it stands in, so the test never fails and only bounds the recursion. -/
def runText (registry : Registry) (line : Text) (shell : Shell) : Run :=
  let shell := shell.note (.running line :: (Command.summaries line).map .assembled)
  match Command.ofText line with
  | .error e => .fail (.malformed e) shell
  | .ok command =>
    command.exec registry
      (fun inner shell =>
        if inner.length < line.length then runText registry inner shell else .done shell)
      none shell
termination_by line.length

/-- Runs a command; what it writes goes behind what `out` holds. -/
def execute (registry : Registry) (command : Command) (out : Channel) (shell : Shell) : Run :=
  let r := command.exec registry (runText registry) none shell
  { r with output := out.append r.output }

/-- Runs a line; what it writes goes behind what `out` holds. -/
def runLine (registry : Registry) (line : Text) (out : Channel) (shell : Shell) : Run :=
  let r := runText registry line shell
  { r with output := out.append r.output }

end Shell

end LineShell
