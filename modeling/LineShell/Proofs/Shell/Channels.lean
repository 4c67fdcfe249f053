import LineShell.Proofs.Shell.Dispatches
import Mathlib.Tactic.Common

/-!
# Commands that write to a given channel

Dispatching a command line writes out the whole channel that it is given, so what a command does
could depend on what its caller's channel holds.  It does not.

**Passing channels along.**  `Command.execInto` runs a command on the channel of its caller.  The
last stage of a pipeline gets that channel; a child of a sequence, a stage before the last and a
substitution get one of their own; and a call dispatches to one of its own, which then goes behind
the caller's, whether it failed or not.

**Nothing is seen of the caller's channel.**  Run in this way, a command does what it does by
itself, and what it writes goes behind what the channel held (`Command.execInto_eq`).  The
induction is over all commands, also those that no line is read as.
-/

namespace LineShell

/-! ## Passing channels along -/

/-- Dispatches the command line of a call to a channel of its own, which goes behind `out`. -/
def dispatchInto (registry : Registry) (streams : Streams) (piped : Option (List Text))
    (out : Channel) (shell : Shell) (cmdline : Text) : Run :=
  let d := dispatch registry shell.host ⟨streams.input, piped, shell.stdin⟩ streams.output {}
    cmdline
  ⟨d.result, out.append d.channel,
    { host := d.host, stdin := d.input.stdin, notes := shell.notes ++ d.notes }⟩

namespace Command

mutual

/-- Runs a command on the channel of its caller; `runInto` does the same with text that a call
    still has to read. -/
def execInto (registry : Registry) (runInto : Text → Channel → Shell → Run) :
    Command → Option (List Text) → Channel → Shell → Run
  | .sequence children, _, out, shell => execAllInto registry runInto children out shell
  | .pipeline stages, piped, out, shell => execStagesInto registry runInto stages piped out shell
  | .call ⟨_, redirections, some ⟨.parsed command, before, after⟩, false⟩, piped, out, shell =>
    match splitRedirections redirections with
    | .error direction => ⟨.error (.conflict direction), out, shell⟩
    | .ok streams =>
      match execInto registry runInto command none {} shell with
      | ⟨.error e, _, shell⟩ => ⟨.error e, out, shell⟩
      | ⟨.ok _, scratch, shell⟩ =>
        dispatchInto registry streams piped out shell (splice before scratch after)
  | .call ⟨_, redirections, some ⟨.raw text, before, after⟩, false⟩, piped, out, shell =>
    match splitRedirections redirections with
    | .error direction => ⟨.error (.conflict direction), out, shell⟩
    | .ok streams =>
      match runInto text {} shell with
      | ⟨.error e, _, shell⟩ => ⟨.error e, out, shell⟩
      | ⟨.ok _, scratch, shell⟩ =>
        dispatchInto registry streams piped out shell (splice before scratch after)
  | .call ⟨text, redirections, _, _⟩, piped, out, shell =>
    match splitRedirections redirections with
    | .error direction => ⟨.error (.conflict direction), out, shell⟩
    | .ok streams => dispatchInto registry streams piped out shell text

/-- Runs commands one after another, each on a channel of its own. -/
def execAllInto (registry : Registry) (runInto : Text → Channel → Shell → Run) :
    List Command → Channel → Shell → Run
  | [], out, shell => ⟨.ok (), out, shell⟩
  | command :: rest, out, shell =>
    match execInto registry runInto command none {} shell with
    | ⟨.error e, own, shell⟩ => ⟨.error e, out.append own, shell⟩
    | ⟨.ok _, own, shell⟩ => execAllInto registry runInto rest (out.append own) shell

/-- Runs the stages of a pipeline, each but the last on a channel of its own. -/
def execStagesInto (registry : Registry) (runInto : Text → Channel → Shell → Run) :
    List Command → Option (List Text) → Channel → Shell → Run
  | [], _, out, shell => ⟨.ok (), out, shell⟩
  | [last], piped, out, shell => execInto registry runInto last piped out shell
  | stage :: rest, piped, out, shell =>
    match execInto registry runInto stage piped {} shell with
    | ⟨.error e, _, shell⟩ => ⟨.error e, out, shell⟩
    | ⟨.ok _, own, shell⟩ =>
      execStagesInto registry runInto rest (some own.fragments) out shell

end

end Command

/-! ## Nothing is seen of the caller's channel -/

namespace Run

lemma behind_done (out : Channel) (shell : Shell) :
    (done shell).behind out = ⟨.ok (), out, shell⟩ := by
  simp [done, behind]

lemma behind_fail (e : ShellError) (out : Channel) (shell : Shell) :
    (fail e shell).behind out = ⟨.error e, out, shell⟩ := by
  simp [fail, behind]

lemma behind_empty (r : Run) : r.behind {} = r := by
  simp [behind]

/-- Only what goes on with the output is put behind the channel. -/
lemma behind_feed (r : Run) (next : Channel → Shell → Run) (out : Channel) :
    (r.feed next).behind out =
      match r with
      | ⟨.error e, _, shell⟩ => ⟨.error e, out, shell⟩
      | ⟨.ok _, own, shell⟩ => (next own shell).behind out := by
  obtain ⟨result, own, shell⟩ := r
  cases result with
  | error e => exact behind_fail e out shell
  | ok u => rfl

end Run

lemma dispatchInto_eq (registry : Registry) (streams : Streams) (piped : Option (List Text))
    (out : Channel) (shell : Shell) (cmdline : Text) :
    dispatchInto registry streams piped out shell cmdline =
      (dispatchCall registry streams piped shell cmdline).behind out := rfl

namespace Command

variable {registry : Registry} {run : Text → Shell → Run} {runInto : Text → Channel → Shell → Run}

mutual

/-- **A command appends to the channel it is given** what it writes by itself, and does nothing
    else with it. -/
theorem execInto_eq (hrun : ∀ t out s, runInto t out s = (run t s).behind out) :
    ∀ (c : Command) (piped : Option (List Text)) (out : Channel) (s : Shell),
      execInto registry runInto c piped out s = (exec registry run c piped s).behind out
  | .sequence children, piped, out, s => by
      rw [execInto, exec, execAllInto_eq hrun children out s]
  | .pipeline stages, piped, out, s => by
      rw [execInto, exec, execStagesInto_eq hrun stages piped out s]
  | .call ⟨text, redirections, some ⟨.parsed command, before, after⟩, false⟩, piped, out, s => by
      simp only [execInto, exec, execInto_eq hrun command none {} s, Run.behind_empty]
      cases splitRedirections redirections with
      | error direction => exact (Run.behind_fail _ out s).symm
      | ok streams => simp only [Run.behind_feed, dispatchInto_eq]
  | .call ⟨text, redirections, some ⟨.raw inner, before, after⟩, false⟩, piped, out, s => by
      simp only [execInto, exec, hrun, Run.behind_empty]
      cases splitRedirections redirections with
      | error direction => exact (Run.behind_fail _ out s).symm
      | ok streams => simp only [Run.behind_feed, dispatchInto_eq]
  | .call ⟨text, redirections, none, disqualified⟩, piped, out, s => by
      simp only [execInto, exec]
      cases splitRedirections redirections with
      | error direction => exact (Run.behind_fail _ out s).symm
      | ok streams => exact dispatchInto_eq registry streams piped out s text
  | .call ⟨text, redirections, some ⟨payload, before, after⟩, true⟩, piped, out, s => by
      cases payload <;> simp only [execInto, exec] <;>
      cases splitRedirections redirections with
      | error direction => exact (Run.behind_fail _ out s).symm
      | ok streams => exact dispatchInto_eq registry streams piped out s text

theorem execAllInto_eq (hrun : ∀ t out s, runInto t out s = (run t s).behind out) :
    ∀ (cs : List Command) (out : Channel) (s : Shell),
      execAllInto registry runInto cs out s = (execAll registry run cs s).behind out
  | [], out, s => by
      rw [execAllInto, execAll, Run.behind_done]
  | c :: cs, out, s => by
      rw [execAllInto, execAll, execInto_eq hrun c none {} s, Run.behind_empty,
        Run.behind_andThen]
      obtain ⟨result, own, s'⟩ := exec registry run c none s
      cases result with
      | error e => rfl
      | ok u => exact execAllInto_eq hrun cs (out.append own) s'

theorem execStagesInto_eq (hrun : ∀ t out s, runInto t out s = (run t s).behind out) :
    ∀ (cs : List Command) (piped : Option (List Text)) (out : Channel) (s : Shell),
      execStagesInto registry runInto cs piped out s =
        (execStages registry run cs piped s).behind out
  | [], piped, out, s => by
      rw [execStagesInto, execStages, Run.behind_done]
  | [c], piped, out, s => by
      rw [execStagesInto, execStages, execInto_eq hrun c piped out s]
  | c :: c' :: cs, piped, out, s => by
      rw [execStagesInto, execStages_cons (by simp), execInto_eq hrun c piped {} s,
        Run.behind_empty, Run.behind_feed]
      · simp only [execStagesInto_eq hrun (c' :: cs)]
      · simp

end

end Command

/-! ## Lines and commands -/

namespace Shell

lemma execInto_runLine (registry : Registry) (c : Command) (out : Channel) (shell : Shell) :
    c.execInto registry (runLine registry) none out shell = execute registry c out shell := by
  have hrun : ∀ line out s, runLine registry line out s = (runText registry line s).behind out :=
    fun line out s => runLine_eq out s
  exact Command.execInto_eq hrun c none out shell

/-- A line runs its command on the channel of its caller. -/
theorem runLine_eq_execInto (registry : Registry) (line : Text) (out : Channel) (shell : Shell) :
    runLine registry line out shell =
      let noted := shell.note (.running line :: (Command.summaries line).map .assembled)
      match Command.ofText line with
      | .error e => ⟨.error (.malformed e), out, noted⟩
      | .ok c => c.execInto registry (runLine registry) none out noted := by
  rw [runLine_eq]
  cases h : Command.ofText line with
  | error e => rw [runText_of_error h, Run.behind_fail]
  | ok c =>
      rw [runText, h]
      dsimp only
      rw [execInto_runLine, (Command.resolved_of_ofText h).exec_congr none _]
      rfl

/-- **The caller's channel is appended to and never observed.**  From whatever channel a command
    is run on, it gives the same result, writes the same fragments behind what the channel held,
    and leaves the same shell, whether its channels are passed along or put together afterwards.
    In a sequence the second command does what it does on an empty channel. -/
theorem execute_append_only (registry : Registry) (c : Command) (shell : Shell) :
    (∃ (result : Except ShellError Unit) (written : List Text) (after : Shell),
      ∀ out : Channel,
        execute registry c out shell = ⟨result, ⟨out.fragments ++ written⟩, after⟩ ∧
        c.execInto registry (runLine registry) none out shell =
          ⟨result, ⟨out.fragments ++ written⟩, after⟩) ∧
    (∀ (d : Command) (out : Channel), execute registry (.sequence [c, d]) out shell =
      (execute registry c out shell).proceed fun o s => (execute registry d {} s).behind o) := by
  constructor
  · exact ⟨_, _, _, fun out => ⟨rfl, execInto_runLine registry c out shell⟩⟩
  · intro d out
    have hseq : Command.exec registry (runText registry) (.sequence [c, d]) none shell =
        (c.exec registry (runText registry) none shell).andThen
          (d.exec registry (runText registry) none) := by
      simp only [Command.exec, Command.execAll, Run.andThen_done]
    calc execute registry (.sequence [c, d]) out shell
        = ((c.exec registry (runText registry) none shell).andThen
            (d.exec registry (runText registry) none)).behind out := by
          rw [← hseq]
          rfl
      _ = (execute registry c out shell).proceed fun o s =>
            (execute registry d {} s).behind o := by
          rw [Run.behind_andThen]
          rfl

end Shell

end LineShell
