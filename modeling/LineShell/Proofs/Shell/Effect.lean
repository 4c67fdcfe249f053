import LineShell.Proofs.Command.Resolution
import LineShell.Shell.Execute
import Mathlib.Tactic.Common

/-!
# What running a command does

**Effects.**  `Run.effect` is what a run gives, the journal aside: the result, what was written,
the machine and what is left of standard input.

**Dependence.**  What a resolved command does depends on the machine and on standard input alone:
neither on what the journal holds, nor on how text would be run.  For the same reason it never
fails as malformed.  One induction gives both (`Command.Resolved.alike_exec`).

**Composition.**  Lists of commands that stand one behind the other run one after the other:
`execAll_append` for sequences, which keep what was written, and `execStages_append` for
pipelines, which hand it on.
-/

namespace LineShell

/-! ## Effects -/

/-- What running a command does, the journal aside. -/
structure Effect where
  result : Except ShellError Unit
  output : Channel
  host : Host
  stdin : Bytes
deriving Repr

/-- Shells that differ in their journals at most. -/
def Shell.Agrees (s s' : Shell) : Prop :=
  s.host = s'.host ∧ s.stdin = s'.stdin

namespace Channel

@[simp] lemma empty_append (c : Channel) : Channel.append {} c = c := rfl

@[simp] lemma append_empty (c : Channel) : c.append {} = c := by
  simp [append]

lemma append_assoc (c d e : Channel) : (c.append d).append e = c.append (d.append e) := by
  simp [append]

end Channel

namespace Run

/-- What the run does. -/
def effect (r : Run) : Effect :=
  ⟨r.result, r.output, r.shell.host, r.shell.stdin⟩

/-- The run with what it writes behind what `out` holds. -/
def behind (out : Channel) (r : Run) : Run :=
  { r with output := out.append r.output }

/-- The run fails for text that is not a command. -/
def Malformed (r : Run) : Prop :=
  ∃ e, r.result = .error (.malformed e)

variable {r r' : Run}

lemma effect_eq_iff : r.effect = r'.effect ↔
    r.result = r'.result ∧ r.output = r'.output ∧ r.shell.Agrees r'.shell := by
  simp only [effect, Effect.mk.injEq, Shell.Agrees]

lemma effect_behind (h : r.effect = r'.effect) (out : Channel) :
    (r.behind out).effect = (r'.behind out).effect := by
  obtain ⟨hresult, houtput, hshell⟩ := effect_eq_iff.mp h
  refine effect_eq_iff.mpr ⟨hresult, ?_, hshell⟩
  simp only [behind, houtput]

/-! ## Going on after success -/

lemma effect_andThen {next next' : Shell → Run} (h : r.effect = r'.effect)
    (hnext : ∀ s s' : Shell, s.Agrees s' → (next s).effect = (next' s').effect) :
    (r.andThen next).effect = (r'.andThen next').effect := by
  obtain ⟨hresult, houtput, hshell⟩ := effect_eq_iff.mp h
  simp only [andThen, hresult]
  cases r'.result with
  | error e => exact h
  | ok u =>
      rw [houtput]
      exact effect_behind (hnext r.shell r'.shell hshell) r'.output

lemma effect_feed {next next' : Channel → Shell → Run} (h : r.effect = r'.effect)
    (hnext : ∀ (o : Channel) (s s' : Shell), s.Agrees s' →
      (next o s).effect = (next' o s').effect) :
    (r.feed next).effect = (r'.feed next').effect := by
  obtain ⟨hresult, houtput, hshell⟩ := effect_eq_iff.mp h
  simp only [feed, hresult]
  cases r'.result with
  | error e => exact effect_eq_iff.mpr ⟨rfl, rfl, hshell⟩
  | ok u =>
      rw [houtput]
      exact hnext r'.output r.shell r'.shell hshell

/-- Runs that do the same, and do not fail as malformed. -/
def Alike (r r' : Run) : Prop :=
  r.effect = r'.effect ∧ ¬ r.Malformed

lemma alike_done {s s' : Shell} (h : s.Agrees s') : Alike (done s) (done s') := by
  refine ⟨effect_eq_iff.mpr ⟨rfl, rfl, h⟩, ?_⟩
  rintro ⟨e, ⟨⟩⟩

lemma alike_conflict (direction : Direction) {s s' : Shell} (h : s.Agrees s') :
    Alike (fail (.conflict direction) s) (fail (.conflict direction) s') := by
  refine ⟨effect_eq_iff.mpr ⟨rfl, rfl, h⟩, ?_⟩
  rintro ⟨e, ⟨⟩⟩

lemma Alike.andThen {next next' : Shell → Run} (h : Alike r r')
    (hnext : ∀ s s' : Shell, s.Agrees s' → Alike (next s) (next' s')) :
    Alike (r.andThen next) (r'.andThen next') := by
  refine ⟨effect_andThen h.1 fun s s' hs => (hnext s s' hs).1, ?_⟩
  simp only [Run.andThen]
  cases r.result with
  | error e => exact h.2
  | ok u => exact (hnext r.shell r.shell ⟨rfl, rfl⟩).2

lemma Alike.feed {next next' : Channel → Shell → Run} (h : Alike r r')
    (hnext : ∀ (o : Channel) (s s' : Shell), s.Agrees s' → Alike (next o s) (next' o s')) :
    Alike (r.feed next) (r'.feed next') := by
  refine ⟨effect_feed h.1 fun o s s' hs => (hnext o s s' hs).1, ?_⟩
  simp only [Run.feed]
  cases hr : r.result with
  | error e =>
      rintro ⟨cause, hcause⟩
      exact h.2 ⟨cause, hr.trans hcause⟩
  | ok u => exact (hnext r.output r.shell r.shell ⟨rfl, rfl⟩).2

lemma andThen_done (r : Run) : r.andThen done = r := by
  obtain ⟨result, output, shell⟩ := r
  cases result <;> simp [andThen, done]

lemma andThen_assoc (r : Run) (next after : Shell → Run) :
    (r.andThen next).andThen after = r.andThen fun s => (next s).andThen after := by
  obtain ⟨result, output, shell⟩ := r
  cases result with
  | error e => rfl
  | ok u =>
      simp only [andThen]
      generalize next shell = s
      obtain ⟨result', output', shell'⟩ := s
      cases result' with
      | error e => rfl
      | ok u' => simp only [Channel.append_assoc]

lemma feed_assoc (r : Run) (next after : Channel → Shell → Run) :
    (r.feed next).feed after = r.feed fun o s => (next o s).feed after := by
  obtain ⟨result, output, shell⟩ := r
  cases result <;> rfl

end Run

/-! ## Calls -/

lemma runApplication_result_ne_malformed (registry : Registry) (host : Host) (input : Input)
    (channel : Channel) (cmdline : Text) (e : SyntaxError) :
    (runApplication registry host input channel cmdline).result ≠ .error (.malformed e) := by
  simp only [runApplication]
  split
  · simp
  · split
    · simp
    · dsimp only
      split <;> simp

/-- An application can fail in many ways, but what it runs on is a command. -/
lemma not_malformed_dispatchCall (registry : Registry) (streams : Streams)
    (piped : Option (List Text)) (shell : Shell) (cmdline : Text) :
    ¬ (dispatchCall registry streams piped shell cmdline).Malformed := by
  rintro ⟨e, h⟩
  have happ := runApplication_result_ne_malformed registry shell.host
    ⟨streams.input, piped, shell.stdin⟩ {} cmdline e
  simp only [dispatchCall, dispatch] at h
  split at h
  · exact happ h
  · simp only [writeOutput] at h
    split at h
    · exact happ h
    · dsimp only at h
      split at h
      · cases h
      · next first hfirst =>
          cases h
          exact happ hfirst

/-- Dispatching a command line reads the machine and standard input, and only adds to the
    journal. -/
lemma alike_dispatchCall (registry : Registry) (streams : Streams) (piped : Option (List Text))
    (cmdline : Text) {s s' : Shell} (h : s.Agrees s') :
    Run.Alike (dispatchCall registry streams piped s cmdline)
      (dispatchCall registry streams piped s' cmdline) := by
  refine ⟨?_, not_malformed_dispatchCall registry streams piped s cmdline⟩
  simp only [dispatchCall, Run.effect, h.1, h.2]

/-! ## Commands -/

namespace Command

variable {registry : Registry} {run run' : Text → Shell → Run}

lemma execStages_cons {c : Command} {rest : List Command} (hrest : rest ≠ [])
    (piped : Option (List Text)) (shell : Shell) :
    execStages registry run (c :: rest) piped shell =
      (exec registry run c piped shell).feed fun output shell =>
        execStages registry run rest (some output.fragments) shell := by
  rw [execStages]
  exact hrest

lemma execAll_singleton (c : Command) (shell : Shell) :
    execAll registry run [c] shell = exec registry run c none shell := by
  have hdone : execAll registry run [] = Run.done := by
    funext s
    rw [execAll]
  rw [execAll, hdone, Run.andThen_done]

/-- A member runs by itself as it does in its sequence. -/
lemma execAll_members (c : Command) (shell : Shell) :
    execAll registry run c.members shell = exec registry run c none shell := by
  cases c with
  | sequence children => rw [members, exec]
  | pipeline stages => exact execAll_singleton _ shell
  | call k => exact execAll_singleton _ shell

lemma execStages_stages (c : Command) (piped : Option (List Text)) (shell : Shell) :
    execStages registry run c.stages piped shell = exec registry run c piped shell := by
  have halone : execStages registry run [c] piped shell = exec registry run c piped shell := by
    rw [execStages]
  cases c with
  | sequence children => exact halone
  | pipeline stages => rw [Command.stages, exec]
  | call k => exact halone

/-- **Sequences run one after the other.** -/
lemma execAll_append (xs ys : List Command) (shell : Shell) :
    execAll registry run (xs ++ ys) shell =
      (execAll registry run xs shell).andThen (execAll registry run ys) := by
  induction xs generalizing shell with
  | nil => simp [execAll, Run.andThen, Run.done]
  | cons c xs ih =>
      rw [List.cons_append, execAll, execAll, Run.andThen_assoc]
      simp only [ih]

/-- **Pipelines run one into the other.** -/
lemma execStages_append {ys : List Command} (hy : ys ≠ []) :
    ∀ {xs : List Command}, xs ≠ [] → ∀ (piped : Option (List Text)) (shell : Shell),
      execStages registry run (xs ++ ys) piped shell =
        (execStages registry run xs piped shell).feed fun output shell =>
          execStages registry run ys (some output.fragments) shell
  | [], hx, piped, shell => (hx rfl).elim
  | [c], _, piped, shell => by
      rw [List.singleton_append, execStages_cons hy, execStages]
  | c :: c' :: xs, _, piped, shell => by
      rw [List.cons_append, execStages_cons (by simp), execStages_cons (by simp), Run.feed_assoc]
      simp only [execStages_append hy (List.cons_ne_nil c' xs)]

lemma alike_execAll {cs : List Command}
    (hcs : ∀ c ∈ cs, ∀ (piped : Option (List Text)) (s s' : Shell), s.Agrees s' →
      Run.Alike (exec registry run c piped s) (exec registry run' c piped s')) :
    ∀ {s s' : Shell}, s.Agrees s' →
      Run.Alike (execAll registry run cs s) (execAll registry run' cs s') := by
  induction cs with
  | nil =>
      intro s s' h
      rw [execAll, execAll]
      exact Run.alike_done h
  | cons c cs ih =>
      intro s s' h
      obtain ⟨hc, hcs⟩ := List.forall_mem_cons.mp hcs
      rw [execAll, execAll]
      exact (hc none s s' h).andThen fun _ _ => ih hcs

lemma alike_execStages : ∀ {cs : List Command},
    (∀ c ∈ cs, ∀ (piped : Option (List Text)) (s s' : Shell), s.Agrees s' →
      Run.Alike (exec registry run c piped s) (exec registry run' c piped s')) →
    ∀ {piped : Option (List Text)} {s s' : Shell}, s.Agrees s' →
      Run.Alike (execStages registry run cs piped s) (execStages registry run' cs piped s')
  | [], _, piped, s, s', h => by
      rw [execStages, execStages]
      exact Run.alike_done h
  | [c], hcs, piped, s, s', h => by
      rw [execStages, execStages]
      exact hcs c (by simp) piped s s' h
  | c :: c' :: cs, hcs, piped, s, s', h => by
      obtain ⟨hc, hcs⟩ := List.forall_mem_cons.mp hcs
      rw [execStages_cons (by simp), execStages_cons (by simp)]
      exact (hc piped s s' h).feed fun _ _ _ => alike_execStages hcs

/-- **Resolved commands run alike** from shells that agree, whatever would run text: there is none
    to run. -/
theorem Resolved.alike_exec {c : Command} (hc : c.Resolved) :
    ∀ (piped : Option (List Text)) (s s' : Shell), s.Agrees s' →
      Run.Alike (exec registry run c piped s) (exec registry run' c piped s') := by
  induction hc with
  | sequence _ ih =>
      intro piped s s' h
      rw [exec, exec]
      exact alike_execAll ih h
  | pipeline _ ih =>
      intro piped s s' h
      rw [exec, exec]
      exact alike_execStages ih h
  | bare | silenced =>
      intro piped s s' h
      simp only [exec]
      split
      · exact Run.alike_conflict _ h
      · exact alike_dispatchCall registry _ piped _ h
  | substituted _ ih =>
      intro piped s s' h
      simp only [exec]
      split
      · exact Run.alike_conflict _ h
      · exact (ih none s s' h).feed fun _ _ _ => alike_dispatchCall registry _ piped _

/-- **A resolved command never fails as malformed**, however far it has run. -/
theorem Resolved.not_malformed {c : Command} (hc : c.Resolved) (piped : Option (List Text))
    (s : Shell) : ¬ (exec registry run c piped s).Malformed :=
  have h : Run.Alike (exec registry run c piped s) (exec registry run c piped s) :=
    hc.alike_exec piped s s ⟨rfl, rfl⟩
  h.2

end Command

end LineShell
