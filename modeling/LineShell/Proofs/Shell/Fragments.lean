import LineShell.Proofs.Application.Writing
import LineShell.Proofs.Shell.Channels
import Mathlib.Tactic.Common

/-!
# Whole lines in channels and pipes

Every fragment that a command writes ends in a newline, wherever it stops
(`Command.terminated_exec`).  The applications see to it; a call only adds their output to its
channel or sends all of it to a file, sequences put channels one behind the other, and pipelines
hand them on.

So no two lines are ever glued together: neither in the channel of the caller, nor in what one
stage of a pipeline is handed by the one before it.
-/

namespace LineShell

/-! ## Calls -/

lemma terminated_runApplication (registry : Registry) (host : Host) (input : Input)
    (channel : Channel) (h : Text.Terminated channel.fragments) (cmdline : Text) :
    Text.Terminated
      (runApplication registry host input channel cmdline).channel.fragments := by
  simp only [runApplication]
  split
  · exact h
  · split
    · exact h
    next app _ => exact h.append (app.terminated_run host input _)

/-- What is sent to a file is gone from the channel, and a file that cannot be written leaves the
    channel as it is. -/
lemma terminated_writeOutput (target : OutputTarget) {d : Dispatched}
    (h : Text.Terminated d.channel.fragments) :
    Text.Terminated (writeOutput target d).channel.fragments := by
  simp only [writeOutput]
  split
  · exact Text.terminated_nil
  · exact h

lemma terminated_dispatchCall (registry : Registry) (streams : Streams)
    (piped : Option (List Text)) (shell : Shell) (cmdline : Text) :
    Text.Terminated
      (dispatchCall registry streams piped shell cmdline).output.fragments := by
  have happ := terminated_runApplication registry shell.host
    ⟨streams.input, piped, shell.stdin⟩ {} Text.terminated_nil cmdline
  simp only [dispatchCall, dispatch]
  split
  · exact happ
  next target _ => exact terminated_writeOutput target happ

/-! ## Commands -/

namespace Run

variable {r : Run}

lemma terminated_andThen {next : Shell → Run} (h : Text.Terminated r.output.fragments)
    (hnext : ∀ s, Text.Terminated (next s).output.fragments) :
    Text.Terminated (r.andThen next).output.fragments := by
  simp only [andThen]
  cases r.result with
  | error e => exact h
  | ok u => exact h.append (hnext r.shell)

lemma terminated_feed {next : Channel → Shell → Run}
    (hnext : ∀ o s, Text.Terminated (next o s).output.fragments) :
    Text.Terminated (r.feed next).output.fragments := by
  simp only [feed]
  cases r.result with
  | error e => exact Text.terminated_nil
  | ok u => exact hnext r.output r.shell

end Run

namespace Command

variable {registry : Registry} {run : Text → Shell → Run}

mutual

/-- **A command writes whole lines**, whatever is piped into it and wherever it stops; for text
    that it still has to read this takes that running it does so. -/
theorem terminated_exec (hrun : ∀ t s, Text.Terminated (run t s).output.fragments) :
    ∀ (c : Command) (piped : Option (List Text)) (s : Shell),
      Text.Terminated (exec registry run c piped s).output.fragments
  | .sequence children, piped, s => by
      rw [exec]
      exact terminated_execAll hrun children s
  | .pipeline stages, piped, s => by
      rw [exec]
      exact terminated_execStages hrun stages piped s
  | .call ⟨text, redirections, some ⟨.parsed command, before, after⟩, false⟩, piped, s => by
      simp only [exec]
      cases splitRedirections redirections with
      | error direction => exact Text.terminated_nil
      | ok streams =>
          -- what the substitution writes goes into the command line, not into the channel
          exact Run.terminated_feed fun _ s' => terminated_dispatchCall registry streams piped s' _
  | .call ⟨text, redirections, some ⟨.raw inner, before, after⟩, false⟩, piped, s => by
      simp only [exec]
      cases splitRedirections redirections with
      | error direction => exact Text.terminated_nil
      | ok streams =>
          exact Run.terminated_feed fun _ s' => terminated_dispatchCall registry streams piped s' _
  | .call ⟨text, redirections, none, disqualified⟩, piped, s => by
      simp only [exec]
      cases splitRedirections redirections with
      | error direction => exact Text.terminated_nil
      | ok streams => exact terminated_dispatchCall registry streams piped s text
  | .call ⟨text, redirections, some ⟨payload, before, after⟩, true⟩, piped, s => by
      cases payload <;> simp only [exec] <;>
      cases splitRedirections redirections with
      | error direction => exact Text.terminated_nil
      | ok streams => exact terminated_dispatchCall registry streams piped s text

theorem terminated_execAll (hrun : ∀ t s, Text.Terminated (run t s).output.fragments) :
    ∀ (cs : List Command) (s : Shell), Text.Terminated (execAll registry run cs s).output.fragments
  | [], s => by
      rw [execAll]
      exact Text.terminated_nil
  | c :: cs, s => by
      rw [execAll]
      exact Run.terminated_andThen (terminated_exec hrun c none s) (terminated_execAll hrun cs)

theorem terminated_execStages (hrun : ∀ t s, Text.Terminated (run t s).output.fragments) :
    ∀ (cs : List Command) (piped : Option (List Text)) (s : Shell),
      Text.Terminated (execStages registry run cs piped s).output.fragments
  | [], piped, s => by
      rw [execStages]
      exact Text.terminated_nil
  | [c], piped, s => by
      rw [execStages]
      exact terminated_exec hrun c piped s
  | c :: c' :: cs, piped, s => by
      rw [execStages_cons (by simp)]
      exact Run.terminated_feed fun o s' =>
        terminated_execStages hrun (c' :: cs) (some o.fragments) s'

end

end Command

/-! ## Lines -/

namespace Shell

lemma terminated_runText (registry : Registry) (line : Text) (shell : Shell) :
    Text.Terminated (runText registry line shell).output.fragments := by
  cases h : Command.ofText line with
  | error e =>
      rw [runText_of_error h]
      exact Text.terminated_nil
  | ok c =>
      -- there is no text left to run, so running it may be taken to do nothing
      have hcongr : ∀ (run : Text → Shell → Run) (s : Shell), c.exec registry run none s =
          c.exec registry (fun _ s => .done s) none s :=
        fun _ => (Command.resolved_of_ofText h).exec_congr none
      rw [runText, h]
      dsimp only
      rw [hcongr]
      exact Command.terminated_exec (fun _ _ => Text.terminated_nil) c none _

lemma terminated_executePiped (registry : Registry) (c : Command) (piped : Option (List Text))
    (out : Channel) (shell : Shell) (hout : Text.Terminated out.fragments) :
    Text.Terminated (executePiped registry c piped out shell).output.fragments :=
  hout.append (Command.terminated_exec (terminated_runText registry) c piped shell)

/-- **Whole lines everywhere.**  On a channel of which every fragment ends in a newline, a command
    leaves such a channel, whether it fails or not.  And wherever a pipeline is cut in two, it runs
    the first stages to a channel of their own and hands that on to the others, and every fragment
    that is handed on ends in a newline, whatever the pipeline itself is fed with. -/
theorem execute_ends_lines (registry : Registry) (c : Command) (out : Channel) (shell : Shell)
    (hout : ∀ f ∈ out.fragments, f.getLast? = some '\n') :
    (∀ f ∈ (execute registry c out shell).output.fragments, f.getLast? = some '\n') ∧
    ∀ (xs ys : List Command) (piped : Option (List Text)) (s : Shell), xs ≠ [] → ys ≠ [] →
      let first := executePiped registry (.pipeline xs) piped {} s
      (∀ f ∈ first.output.fragments, f.getLast? = some '\n') ∧
      executePiped registry (.pipeline (xs ++ ys)) piped out s =
        (first.feed fun handed s' =>
          executePiped registry (.pipeline ys) (some handed.fragments) {} s').behind out := by
  have hends : ∀ f : Text, Text.endsLine f = true ↔ f.getLast? = some '\n' := fun _ => beq_iff_eq
  simp only [← hends] at hout ⊢
  refine ⟨terminated_executePiped registry c none out shell hout, ?_⟩
  intro xs ys piped s hx hy
  refine ⟨terminated_executePiped registry _ piped {} s Text.terminated_nil, ?_⟩
  simp only [executePiped, Command.exec, Command.execStages_append hy hx, Run.behind_empty]

/-- Standard input ends in the middle of a line, one failure is printed and another one is not. -/
theorem execute_ends_lines_unterminated :
    let registry : Registry := ⟨[("cat".toList, .plain .cat), ("tail".toList, .plain .tail),
      ("_tail".toList, .tolerant (.plain .tail))]⟩
    let shell : Shell := ⟨⟨{}, [], none⟩, Utf8.encode "b\na".toList, []⟩
    let cat : Command := .call { text := "cat".toList }
    let tail : Command := .call { text := "tail -n 1".toList }
    let tolerant : Command := .call { text := "_tail -n".toList }
    let nosuch : Command := .call { text := "nosuch".toList }
    let r := execute registry (.sequence [.pipeline [cat, tail], tolerant, nosuch])
      ⟨["x\n".toList]⟩ shell
    r.result = .error (.unknownApplication "nosuch".toList) ∧
      r.output.fragments =
        ["x\n".toList, "a\n".toList, "Error: invalid tail arguments\n".toList] ∧
      (∀ f ∈ r.output.fragments, f.getLast? = some '\n') ∧
      ∀ f ∈ (executePiped registry (.pipeline [cat]) none {} shell).output.fragments,
        f.getLast? = some '\n' := by
  intro registry shell cat tail tolerant nosuch r
  obtain ⟨hwritten, hhanded⟩ := execute_ends_lines registry
    (.sequence [.pipeline [cat, tail], tolerant, nosuch]) ⟨["x\n".toList]⟩ shell (by simp)
  exact ⟨rfl, rfl, hwritten, (hhanded [cat] [tail] none shell (by simp) (by simp)).1⟩

end Shell

end LineShell
