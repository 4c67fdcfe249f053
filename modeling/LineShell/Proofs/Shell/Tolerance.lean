import LineShell.Proofs.Application.Reading
import LineShell.Proofs.Shell.Conflicts
import LineShell.Proofs.Shell.Redirection
import Mathlib.Logic.Function.Iterate

/-!
# Tolerant forms

The tolerant form of an application does what the application does, and prints its failure.

**Forms of forms.**  A failure that has been printed is gone, so a tolerant form of a tolerant form
finds nothing to print.  However often a builtin is wrapped, its outcome is that of wrapping it
once (`Application.run_iterate_tolerant`).

**Calls.**  A call splits its redirections, runs its substitution, and dispatches a command line
(`Command.exec_call`).  If that runs a tolerant form, the last of the three cannot fail but where
the output is written.
-/

namespace LineShell

/-! ## Outcomes -/

namespace Outcome

/-- Printing the failure keeps what was written, and leaves the rest alone. -/
lemma tolerated_fields (o : Outcome) :
    o.tolerated.failure = none ∧ o.tolerated.input = o.input ∧ o.tolerated.cwd = o.cwd ∧
      o.tolerated.output = o.output ++ (o.failure.map Application.failureLine).toList := by
  obtain ⟨output, failure, input, cwd, suppressed⟩ := o
  cases failure <;> simp [tolerated]

lemma tolerated_of_failure_eq_none {o : Outcome} (h : o.failure = none) : o.tolerated = o := by
  simp only [tolerated, h]

end Outcome

namespace Application

variable (host : Host) (input : Input) (args : List Text)

lemma run_tolerant (inner : Application) :
    (tolerant inner).run host input args = (inner.run host input args).tolerated := rfl

/-- **Wrapping more than once changes nothing.** -/
lemma run_iterate_tolerant (app : Application) (n : Nat) :
    (tolerant^[n + 1] app).run host input args = (app.run host input args).tolerated := by
  induction n with
  | zero => exact run_tolerant host input args app
  | succ n ih =>
      rw [Function.iterate_succ_apply', run_tolerant, ih]
      exact Outcome.tolerated_of_failure_eq_none (app.run host input args).tolerated_fields.1

lemma isRaw_iterate_tolerant (app : Application) (n : Nat) :
    (tolerant^[n] app).isRaw = app.isRaw := by
  induction n with
  | zero => rfl
  | succ n ih => rw [Function.iterate_succ_apply', isRaw, ih]

end Application

/-! ## Command lines -/

/-- The command line runs the application: its first word is a name under which this is
    registered. -/
def Registry.Runs (registry : Registry) (cmdline : Text) (app : Application) : Prop :=
  (splitCommand cmdline).1 ≠ [] ∧ registry.get? (splitCommand cmdline).1 = some app

namespace Outcome

/-- What comes of a command line that runs an application. -/
def dispatched (o : Outcome) (host : Host) (channel : Channel) (cmdline : Text)
    (args : List Text) : Dispatched where
  result := o.failure.elim (.ok ()) fun e => .error (.application (splitCommand cmdline).1 e)
  channel := channel.append ⟨o.output⟩
  input := o.input
  host := { host with cwd := o.cwd }
  notes := .dispatched cmdline (some ((splitCommand cmdline).1, args)) ::
    o.suppressed.map .suppressed

/-- A failure that is printed comes behind what was written, and all else is as before. -/
lemma dispatched_tolerated (o : Outcome) (host : Host) (channel : Channel) (cmdline : Text)
    (args : List Text) :
    let d := o.dispatched host channel cmdline args
    let t := o.tolerated.dispatched host channel cmdline args
    t.result = .ok () ∧ t.host = d.host ∧ t.input = d.input ∧
      (d.result = .ok () ∧ t.channel = d.channel ∨
        ∃ name e, d.result = .error (.application name e) ∧
          t.channel = d.channel.pushLine ("Error: ".toList ++ e.message)) := by
  obtain ⟨output, failure, input, cwd, suppressed⟩ := o
  cases failure with
  | none => exact ⟨rfl, rfl, rfl, .inl ⟨rfl, rfl⟩⟩
  | some e =>
      refine ⟨rfl, rfl, rfl, .inr ⟨_, e, rfl, ?_⟩⟩
      simp [dispatched, tolerated, Channel.append, Channel.pushLine, Channel.push,
        Application.failureLine]

end Outcome

section

variable {registry : Registry} {cmdline : Text} {app : Application}

lemma runApplication_of_runs (h : registry.Runs cmdline app) (host : Host) (input : Input)
    (channel : Channel) :
    runApplication registry host input channel cmdline =
      (app.run host input (arguments app.isRaw (splitCommand cmdline).2)).dispatched host channel
        cmdline (arguments app.isRaw (splitCommand cmdline).2) := by
  simp only [runApplication, Outcome.dispatched, List.isEmpty_iff, h.1, if_false, h.2]
  cases (app.run host input (arguments app.isRaw (splitCommand cmdline).2)).failure <;> rfl

/-- **A command line that runs a wrapped application** does what it does where the application
    itself has the name, and prints the failure. -/
lemma runApplication_iterate_tolerant {registry' : Registry} {n : Nat}
    (h : registry.Runs cmdline app) (h' : registry'.Runs cmdline (Application.tolerant^[n + 1] app))
    (host : Host) (input : Input) (channel : Channel) :
    let d := runApplication registry host input channel cmdline
    let t := runApplication registry' host input channel cmdline
    t.result = .ok () ∧ t.host = d.host ∧ t.input = d.input ∧
      (d.result = .ok () ∧ t.channel = d.channel ∨
        ∃ name e, d.result = .error (.application name e) ∧
          t.channel = d.channel.pushLine ("Error: ".toList ++ e.message)) := by
  intro d t
  have hd : d = _ := runApplication_of_runs h host input channel
  have ht : t = _ := runApplication_of_runs h' host input channel
  rw [Application.isRaw_iterate_tolerant, Application.run_iterate_tolerant] at ht
  rw [hd, ht]
  exact Outcome.dispatched_tolerated _ host channel cmdline _

/-- **A command line that runs a tolerant form** fails only if its output cannot be written. -/
lemma result_dispatch_of_tolerant {inner : Application}
    (h : registry.Runs cmdline (.tolerant inner)) (host : Host) (input : Input)
    (output : Option OutputTarget) (channel : Channel) :
    (dispatch registry host input output channel cmdline).result = .ok () ∨
      ∃ target cause, output = some target ∧
        (dispatch registry host input output channel cmdline).result =
          .error (.redirect target.file cause) := by
  have hok : (runApplication registry host input channel cmdline).result = .ok () := by
    rw [runApplication_of_runs h, Application.run_tolerant]
    exact (Outcome.dispatched_tolerated _ host channel cmdline _).1
  cases output with
  | none => exact .inl hok
  | some target =>
      simp only [dispatch, writeOutput, hok]
      split
      · exact .inl rfl
      next cause _ => exact .inr ⟨target, cause, rfl, rfl⟩

end

/-! ## Calls -/

namespace Call

/-- The run of the substitution of a call.  There is nothing to do if it has none, or leaves it as
    text. -/
def substitute (registry : Registry) (k : Call Command) (shell : Shell) : Run :=
  match k with
  | ⟨_, _, some ⟨.parsed command, _, _⟩, false⟩ => Shell.execute registry command {} shell
  | ⟨_, _, some ⟨.raw text, _, _⟩, false⟩ => Shell.runLine registry text {} shell
  | _ => .done shell

/-- The command line of a call, around what its substitution wrote. -/
def commandLine (k : Call Command) (output : Channel) : Text :=
  match k with
  | ⟨_, _, some ⟨_, before, after⟩, false⟩ => splice before output after
  | ⟨text, _, _, _⟩ => text

end Call

/-- **A call in three steps**: the redirections, the substitution, the command line. -/
lemma Command.exec_call (registry : Registry) (k : Call Command) (piped : Option (List Text))
    (shell : Shell) :
    exec registry (Shell.runText registry) (.call k) piped shell =
      match splitRedirections k.redirections with
      | .error direction => .fail (.conflict direction) shell
      | .ok streams =>
        (k.substitute registry shell).feed fun output shell =>
          dispatchCall registry streams piped shell (k.commandLine output) := by
  obtain ⟨text, redirections, substitution, disqualified⟩ := k
  rcases substitution with _ | ⟨_ | _, before, after⟩ <;> cases disqualified <;>
    simp only [exec, Call.substitute, Call.commandLine] <;> rfl

/-- A call whose command line runs a tolerant form fails in one of its steps before it, or where its
    output is written. -/
lemma Command.result_exec_call_of_tolerant {registry : Registry} {k : Call Command}
    {shell : Shell}
    (hruns : ∀ output after, k.substitute registry shell = ⟨.ok (), output, after⟩ →
      ∃ inner, registry.Runs (k.commandLine output) (.tolerant inner))
    (piped : Option (List Text)) :
    let result := (exec registry (Shell.runText registry) (.call k) piped shell).result
    result = .ok () ∨
    (∃ direction, splitRedirections k.redirections = .error direction ∧
      result = .error (.conflict direction)) ∨
    (∃ e, (k.substitute registry shell).result = .error e ∧ result = .error e) ∨
    ∃ streams target cause, splitRedirections k.redirections = .ok streams ∧
      streams.output = some target ∧ result = .error (.redirect target.file cause) := by
  intro result
  simp only [result, exec_call]
  cases hsplit : splitRedirections k.redirections with
  | error direction => exact .inr (.inl ⟨direction, rfl, rfl⟩)
  | ok streams =>
      generalize k.substitute registry shell = r at hruns
      obtain ⟨subresult, output, after⟩ := r
      cases subresult with
      | error e => exact .inr (.inr (.inl ⟨e, rfl, rfl⟩))
      | ok u =>
          obtain ⟨inner, hinner⟩ := hruns output after rfl
          rcases result_dispatch_of_tolerant hinner after.host ⟨streams.input, piped, after.stdin⟩
            streams.output {} with hok | ⟨target, cause, htarget, herror⟩
          · exact .inl hok
          · exact .inr (.inr (.inr ⟨streams, target, cause, rfl, htarget, herror⟩))

/-- **Tolerant forms simulate builtins.**  A builtin that is wrapped any number of times takes its
    arguments as before and never fails; it leaves its input and the working directory as the
    builtin does, and writes what the builtin writes, with one more line if that fails.  So a
    command line that runs it leaves the machine, its files included, as one that runs the builtin
    does.  Hence a call that comes to run a tolerant form fails for a conflict of its redirections,
    for a substitution that fails, or because its output cannot be written, and for no other
    reason. -/
theorem Application.tolerant_forms_simulate :
    (∀ (b : Builtin) (n : Nat), 1 ≤ n →
      (tolerant^[n] (plain b)).isRaw = b.isRaw ∧
      (∀ (host : Host) (input : Input) (args : List Text),
        let o := b.run host input args
        let t := (tolerant^[n] (plain b)).run host input args
        t.failure = none ∧ t.input = o.input ∧ t.cwd = o.cwd ∧
          t.output = o.output ++
            (o.failure.map fun e => Text.terminated ("Error: ".toList ++ e.message)).toList) ∧
      ∀ (registry registry' : Registry) (cmdline : Text) (host : Host) (input : Input)
          (channel : Channel),
        registry.Runs cmdline (plain b) → registry'.Runs cmdline (tolerant^[n] (plain b)) →
        let d := runApplication registry host input channel cmdline
        let t := runApplication registry' host input channel cmdline
        t.result = .ok () ∧ t.host = d.host ∧ t.host.files = host.files ∧ t.input = d.input ∧
          (d.result = .ok () ∧ t.channel = d.channel ∨
            ∃ name e, d.result = .error (.application name e) ∧
              t.channel = d.channel.pushLine ("Error: ".toList ++ e.message))) ∧
    ∀ (registry : Registry) (k : Call Command) (piped : Option (List Text)) (out : Channel)
        (shell : Shell),
      (∀ output after, k.substitute registry shell = ⟨.ok (), output, after⟩ →
        ∃ inner, registry.Runs (k.commandLine output) (tolerant inner)) →
      let result := (Shell.executePiped registry (.call k) piped out shell).result
      result = .ok () ∨
      (∃ direction, splitRedirections k.redirections = .error direction ∧
        result = .error (.conflict direction)) ∨
      (∃ e, (k.substitute registry shell).result = .error e ∧ result = .error e) ∨
      ∃ streams target cause, splitRedirections k.redirections = .ok streams ∧
        streams.output = some target ∧ result = .error (.redirect target.file cause) := by
  constructor
  · intro b n hn
    obtain ⟨m, rfl⟩ : ∃ m, n = m + 1 := ⟨n - 1, by omega⟩
    refine ⟨isRaw_iterate_tolerant (plain b) (m + 1), fun host input args => ?_, ?_⟩
    · intro o t
      have ht : t = o.tolerated := run_iterate_tolerant host input args (plain b) m
      rw [ht]
      exact o.tolerated_fields
    · intro registry registry' cmdline host input channel hplain hwrapped d t
      obtain ⟨hok, hhost, hinput, hchannel⟩ :=
        runApplication_iterate_tolerant hplain hwrapped host input channel
      exact ⟨hok, hhost, files_runApplication registry' host input channel cmdline, hinput,
        hchannel⟩
  · intro registry k piped out shell hruns
    exact Command.result_exec_call_of_tolerant hruns piped

/-- A search that is wrapped three times, with a second file that is missing and a target that may
    be so. -/
theorem Application.tolerant_forms_simulate_grep :
    let host : Host := ⟨⟨[(["f".toList], .file (Utf8.encode "ab\n".toList))]⟩, [], none⟩
    let plainly : Registry := ⟨[("x".toList, plain .grep)]⟩
    let wrapped : Registry := ⟨[("x".toList, tolerant^[3] (plain .grep))]⟩
    let cmdline := "x a f none".toList
    let k : Call Command :=
      { text := cmdline, redirections := [⟨.output, "d/g".toList, .plain⟩] }
    let result := (Shell.executePiped wrapped (.call k) none {} ⟨host, [], []⟩).result
    ((tolerant^[3] (plain .grep)).run host {} ["a".toList, "f".toList, "none".toList]).output =
      ["f:ab\n".toList, "Error: none: No such file or directory (os error 2)\n".toList] ∧
    (runApplication wrapped host {} {} cmdline).result = .ok () ∧
    (runApplication wrapped host {} {} cmdline).host =
      (runApplication plainly host {} {} cmdline).host ∧
    (result = .ok () ∨ ∃ cause, result = .error (.redirect "d/g".toList cause)) := by
  intro host plainly wrapped cmdline k result
  obtain ⟨_, hrun, hdispatch⟩ := tolerant_forms_simulate.1 .grep 3 (by decide)
  obtain ⟨_, _, _, houtput⟩ := hrun host {} ["a".toList, "f".toList, "none".toList]
  have hgrep : Builtin.grep.run host {} ["a".toList, "f".toList, "none".toList] =
      { output := ["f:ab\n".toList], failure := some (.file "none".toList .notFound)
        input := {}, cwd := [] } := by cbv
  have hplain : plainly.Runs cmdline (plain .grep) := ⟨by decide, rfl⟩
  have hwrapped : wrapped.Runs cmdline (tolerant^[3] (plain .grep)) := ⟨by decide, rfl⟩
  obtain ⟨hok, hhost, _⟩ := hdispatch plainly wrapped cmdline host {} {} hplain hwrapped
  refine ⟨?_, hok, hhost, ?_⟩
  · rw [houtput, hgrep]
    decide
  · rcases tolerant_forms_simulate.2 wrapped k none {} ⟨host, [], []⟩
      fun _ _ _ => ⟨tolerant^[2] (plain .grep), hwrapped⟩ with
      h | ⟨direction, hsplit, _⟩ | ⟨e, he, _⟩ | ⟨streams, target, cause, hsplit, htarget, h⟩
    · exact .inl h
    · cases hsplit
    · cases he
    · cases hsplit
      cases htarget
      exact .inr ⟨cause, h⟩

end LineShell
