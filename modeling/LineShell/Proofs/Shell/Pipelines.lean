import LineShell.Proofs.Application.Reading
import LineShell.Proofs.Shell.Spans
import LineShell.Proofs.Text.Lines
import Mathlib.Tactic.Common

/-!
# Pipelines

**Nesting.**  A pipeline that stands in a pipeline, or a sequence in a sequence, runs as its members
would in its place.

**What is piped.**  A call that is piped into reads neither its redirection nor standard input, and
sees what is piped as lines only, however it was cut into fragments (`dispatch_piped`).  So standard
input is left to the first stage of a pipeline and to what the later ones substitute.

**Dependence.**  What a command does depends on the machine, on standard input and on the lines
that are piped into it (`Command.effect_exec`); for commands that may still have text to read, this
takes that the text be run in such a way.  A stage that only cuts its input into lines can then be
left out: `cat` without arguments is one.
-/

namespace LineShell

/-! ## Nesting -/

namespace Command

variable {registry : Registry} {run : Text → Shell → Run}

lemma execStages_append_left {us vs : List Command} (hu : us ≠ []) (hv : vs ≠ [])
    (h : execStages registry run us = execStages registry run vs) (xs : List Command) :
    execStages registry run (xs ++ us) = execStages registry run (xs ++ vs) := by
  cases xs with
  | nil => exact h
  | cons x xs =>
      funext piped shell
      rw [execStages_append hu (List.cons_ne_nil x xs),
        execStages_append hv (List.cons_ne_nil x xs), h]

lemma execStages_append_right {us vs : List Command} (hu : us ≠ []) (hv : vs ≠ [])
    (h : execStages registry run us = execStages registry run vs) (zs : List Command) :
    execStages registry run (us ++ zs) = execStages registry run (vs ++ zs) := by
  cases zs with
  | nil => rwa [List.append_nil, List.append_nil]
  | cons z zs =>
      funext piped shell
      rw [execStages_append (List.cons_ne_nil z zs) hu,
        execStages_append (List.cons_ne_nil z zs) hv, h]

end Command

namespace Shell

/-- **Nesting makes no difference.**  A pipeline with a pipeline among its stages gives the run that
    it gives with the inner stages in its place, and so does a sequence in a sequence: the same
    result, output, shell and journal, wherever the run stops.  The inner pipeline must have a
    stage: one without drops what is piped into it. -/
theorem executePiped_nested (registry : Registry) (xs ys zs : List Command)
    (piped : Option (List Text)) (out : Channel) (shell : Shell) :
    (ys ≠ [] → executePiped registry (.pipeline (xs ++ [.pipeline ys] ++ zs)) piped out shell =
      executePiped registry (.pipeline (xs ++ ys ++ zs)) piped out shell) ∧
    executePiped registry (.sequence (xs ++ [.sequence ys] ++ zs)) piped out shell =
      executePiped registry (.sequence (xs ++ ys ++ zs)) piped out shell := by
  constructor
  · intro hy
    have hone : Command.execStages registry (runText registry) [.pipeline ys] =
        Command.execStages registry (runText registry) ys := by
      funext p s
      rw [Command.execStages, Command.exec]
    have hstages := Command.execStages_append_right (by simp) (by simp [hy])
      (Command.execStages_append_left (by simp) hy hone xs) zs
    rw [executePiped, executePiped, Command.exec, Command.exec, hstages]
  · have hone : Command.execAll registry (runText registry) [.sequence ys] =
        Command.execAll registry (runText registry) ys := by
      funext s
      rw [Command.execAll_singleton, Command.exec]
    rw [executePiped, executePiped, Command.exec, Command.exec, Command.execAll_append,
      Command.execAll_append, hone, ← Command.execAll_append, ← Command.execAll_append]

/-- The inner pipeline comes first and its last stage fails: nothing is written. -/
theorem executePiped_nested_failing :
    let registry : Registry := ⟨[("echo".toList, .plain .echo), ("cat".toList, .plain .cat)]⟩
    let echo : Command := .call { text := "echo a".toList }
    let nosuch : Command := .call { text := "nosuch".toList }
    let cat : Command := .call { text := "cat".toList }
    let r := executePiped registry (.pipeline [.pipeline [echo, nosuch], cat]) none
      ⟨["x\n".toList]⟩ ⟨⟨{}, [], none⟩, [], []⟩
    r = executePiped registry (.pipeline [echo, nosuch, cat]) none ⟨["x\n".toList]⟩
      ⟨⟨{}, [], none⟩, [], []⟩ ∧
    r.effect = ⟨.error (.unknownApplication "nosuch".toList), ⟨["x\n".toList]⟩,
      ⟨{}, [], none⟩, []⟩ := by
  intro registry echo nosuch cat r
  have hnested := (executePiped_nested registry [] [echo, nosuch] [cat] none
    ⟨["x\n".toList]⟩ ⟨⟨{}, [], none⟩, [], []⟩).1 (by simp)
  exact ⟨hnested, rfl⟩

end Shell

/-! ## What is piped -/

/-- The lines of what is piped. -/
def pipedLines (piped : Option (List Text)) : Option (List Text) :=
  piped.map fun fragments => Text.splitLines fragments.flatten

lemma writeOutput_input (target : OutputTarget) (d : Dispatched) (input : Input) :
    writeOutput target { d with input } = { writeOutput target d with input } := by
  simp only [writeOutput]
  split <;> rfl

section

variable (registry : Registry) (host : Host) (channel : Channel) (cmdline : Text)

lemma runApplication_piped :
    ∃ (reply : List Text → Dispatched) (left : List Text → Option (List Text)),
      ∀ (target : Option InputTarget) (fragments : List Text) (stdin : Bytes),
        runApplication registry host ⟨target, some fragments, stdin⟩ channel cmdline =
          { reply (Text.splitLines fragments.flatten) with
            input := ⟨target, left fragments, stdin⟩ } := by
  -- the lines themselves, piped into the call, give its reply
  let reply (lines : List Text) :=
    runApplication registry host ⟨none, some lines, []⟩ channel cmdline
  cases hname : (splitCommand cmdline).1.isEmpty with
  | true =>
      refine ⟨reply, some, fun target fragments stdin => ?_⟩
      simp only [reply, runApplication, hname, if_true]
  | false =>
      cases happ : registry.get? (splitCommand cmdline).1 with
      | none =>
          refine ⟨reply, some, fun target fragments stdin => ?_⟩
          simp only [reply, runApplication, hname, happ, if_neg Bool.false_ne_true]
      | some app =>
          obtain ⟨_, left, h⟩ := app.run_piped host (arguments app.isRaw (splitCommand cmdline).2)
          refine ⟨reply, left, fun target fragments stdin => ?_⟩
          simp only [reply, runApplication, hname, happ, if_neg Bool.false_ne_true, h,
            Text.splitLines_flatten_splitLines]

/-- **A call that is piped into** goes by the lines of what is piped: what it does is settled by
    them, and its redirection and standard input are as they were. -/
lemma dispatch_piped (output : Option OutputTarget) :
    ∃ (reply : List Text → Dispatched) (left : List Text → Option (List Text)),
      ∀ (target : Option InputTarget) (fragments : List Text) (stdin : Bytes),
        dispatch registry host ⟨target, some fragments, stdin⟩ output channel cmdline =
          { reply (Text.splitLines fragments.flatten) with
            input := ⟨target, left fragments, stdin⟩ } := by
  obtain ⟨reply, left, h⟩ := runApplication_piped registry host channel cmdline
  cases output with
  | none => exact ⟨reply, left, h⟩
  | some file =>
      refine ⟨fun lines => writeOutput file (reply lines), left, fun target fragments stdin => ?_⟩
      rw [← writeOutput_input, ← h]
      rfl

end

lemma stdin_dispatchCall (registry : Registry) (streams : Streams) (fragments : List Text)
    (shell : Shell) (cmdline : Text) :
    (dispatchCall registry streams (some fragments) shell cmdline).shell.stdin = shell.stdin := by
  obtain ⟨reply, left, h⟩ := dispatch_piped registry shell.host {} cmdline streams.output
  simp only [dispatchCall, h]

lemma effect_dispatchCall (registry : Registry) (streams : Streams) (cmdline : Text)
    {p p' : Option (List Text)} (hp : pipedLines p = pipedLines p') {s s' : Shell}
    (hs : s.Agrees s') :
    (dispatchCall registry streams p s cmdline).effect =
      (dispatchCall registry streams p' s' cmdline).effect := by
  cases p with
  | none =>
      cases p' with
      | none => exact (alike_dispatchCall registry streams none cmdline hs).1
      | some fragments' => cases hp
  | some fragments =>
      cases p' with
      | none => cases hp
      | some fragments' =>
          have hlines : Text.splitLines fragments.flatten = Text.splitLines fragments'.flatten :=
            Option.some.inj hp
          obtain ⟨reply, left, h⟩ := dispatch_piped registry s'.host {} cmdline streams.output
          simp only [dispatchCall, Run.effect, hs.1, hs.2, h, hlines]

/-! ## Standard input -/

namespace Command

variable {registry : Registry} {run : Text → Shell → Run}

/-- A call that runs no substitution is dispatched with its text. -/
lemma exec_of_literal {k : Call Command} (hk : k.substitution = none ∨ k.disqualified = true)
    (piped : Option (List Text)) (shell : Shell) :
    exec registry run (.call k) piped shell =
      match splitRedirections k.redirections with
      | .error direction => .fail (.conflict direction) shell
      | .ok streams => dispatchCall registry streams piped shell k.text := by
  obtain ⟨text, redirections, substitution, disqualified⟩ := k
  rcases hk with hk | hk
  · cases hk
    cases hsplit : splitRedirections redirections <;> simp only [exec, hsplit]
  · exact exec_of_disqualified hk piped shell

lemma stdin_exec_of_literal {k : Call Command}
    (hk : k.substitution = none ∨ k.disqualified = true) (fragments : List Text) (shell : Shell) :
    (exec registry run (.call k) (some fragments) shell).shell.stdin = shell.stdin := by
  rw [exec_of_literal hk]
  split
  · rfl
  · exact stdin_dispatchCall registry _ fragments shell k.text

lemma stdin_feed {r : Run} {next : Channel → Shell → Run}
    (hnext : ∀ o s, (next o s).shell.stdin = s.stdin) :
    (r.feed next).shell.stdin = r.shell.stdin := by
  simp only [Run.feed]
  cases r.result with
  | error e => rfl
  | ok u => exact hnext r.output r.shell

lemma stdin_execStages : ∀ {ks : List (Call Command)},
    (∀ k ∈ ks, k.substitution = none ∨ k.disqualified = true) →
    ∀ (fragments : List Text) (shell : Shell),
      (execStages registry run (ks.map .call) (some fragments) shell).shell.stdin = shell.stdin
  | [], _, fragments, shell => by
      rw [List.map_nil, execStages]
      rfl
  | [k], hks, fragments, shell => by
      rw [List.map_singleton, execStages]
      exact stdin_exec_of_literal (hks k (by simp)) fragments shell
  | k :: k' :: ks, hks, fragments, shell => by
      obtain ⟨hk, hks⟩ := List.forall_mem_cons.mp hks
      rw [List.map_cons, execStages_cons (by simp),
        stdin_feed fun o s => stdin_execStages hks o.fragments s]
      exact stdin_exec_of_literal hk fragments shell

end Command

namespace Shell

/-- **A stage that is piped into leaves standard input alone.**  Whatever an application is asked to
    do with what is piped into it, its result, its output and the working directory are the same
    for every redirection and every standard input, so it has read neither, and standard input is
    left as it was.  Hence a pipeline whose later stages substitute nothing leaves of standard
    input what its first stage leaves by itself. -/
theorem piped_stages_leave_stdin (registry : Registry) :
    (∀ (app : Application) (host : Host) (args fragments : List Text),
      ∃ (output : List Text) (failure : Option AppError) (cwd : Place)
        (suppressed : List AppError) (left : Option (List Text)),
        ∀ (target : Option InputTarget) (stdin : Bytes),
          app.run host ⟨target, some fragments, stdin⟩ args =
            ⟨output, failure, ⟨target, left, stdin⟩, cwd, suppressed⟩) ∧
    ∀ (first : Command) (rest : List (Call Command)),
      (∀ k ∈ rest, k.substitution = none ∨ k.disqualified = true) →
      ∀ (piped : Option (List Text)) (out : Channel) (shell : Shell),
        (executePiped registry (.pipeline (first :: rest.map .call)) piped out shell).shell.stdin =
          (executePiped registry first piped out shell).shell.stdin := by
  constructor
  · intro app host args fragments
    obtain ⟨reply, left, h⟩ := app.run_piped host args
    exact ⟨_, _, _, _, left fragments, fun target stdin => h target fragments stdin⟩
  · intro first rest hrest piped out shell
    simp only [executePiped, Run.behind, Command.exec]
    cases rest with
    | nil => rw [List.map_nil, Command.execStages]
    | cons k rest =>
        rw [Command.execStages_cons (by simp),
          Command.stdin_feed fun o s => Command.stdin_execStages hrest o.fragments s]

/-- Later stages that name no file and a delimiter that standard input holds. -/
theorem piped_stages_leave_stdin_heredoc :
    let registry : Registry :=
      ⟨[("cat".toList, .plain .cat), ("_cat".toList, .tolerant (.plain .cat))]⟩
    let first : Command := .call ⟨"cat".toList, [⟨.input, "END".toList, .heredoc⟩], none, false⟩
    let rest : List (Call Command) :=
      [⟨"_cat".toList, [⟨.input, "nofile".toList, .plain⟩], none, false⟩,
        ⟨"cat".toList, [⟨.input, "E".toList, .heredoc⟩], none, false⟩]
    let r := executePiped registry (.pipeline (first :: rest.map .call)) none {}
      ⟨⟨{}, [], none⟩, Utf8.encode "a\nEND\nE\nb\n".toList, []⟩
    r.result = .ok () ∧ r.output = ⟨["a\n".toList]⟩ ∧
      r.shell.stdin = Utf8.encode "E\nb\n".toList := by
  intro registry first rest r
  have hstdin := (piped_stages_leave_stdin registry).2 first rest (by simp [rest]) none {}
    ⟨⟨{}, [], none⟩, Utf8.encode "a\nEND\nE\nb\n".toList, []⟩
  exact ⟨rfl, rfl, hstdin⟩

end Shell

/-! ## Dependence -/

namespace Command

variable {registry : Registry} {run : Text → Shell → Run}

lemma effect_exec_of_literal {k : Call Command}
    (hk : k.substitution = none ∨ k.disqualified = true) {p p' : Option (List Text)}
    (hp : pipedLines p = pipedLines p') {s s' : Shell} (hs : s.Agrees s') :
    (exec registry run (.call k) p s).effect = (exec registry run (.call k) p' s').effect := by
  rw [exec_of_literal hk, exec_of_literal hk]
  split
  · exact (Run.alike_conflict _ hs).1
  · exact effect_dispatchCall registry _ k.text hp hs

mutual

/-- **What a command does** depends on the machine, on standard input and on the lines piped into
    it. -/
theorem effect_exec (hrun : ∀ t s s', s.Agrees s' → (run t s).effect = (run t s').effect) :
    ∀ (c : Command) {p p' : Option (List Text)} {s s' : Shell}, pipedLines p = pipedLines p' →
      s.Agrees s' → (exec registry run c p s).effect = (exec registry run c p' s').effect
  | .sequence children, p, p', s, s', _, hs => by
      rw [exec, exec]
      exact effect_execAll hrun children hs
  | .pipeline stages, p, p', s, s', hp, hs => by
      rw [exec, exec]
      exact effect_execStages hrun stages hp hs
  | .call ⟨text, redirections, some ⟨.parsed command, before, after⟩, false⟩, p, p', s, s', hp,
      hs => by
      simp only [exec]
      cases splitRedirections redirections with
      | error direction => exact (Run.alike_conflict direction hs).1
      | ok streams =>
          -- nothing is piped into a substitution
          exact Run.effect_feed (effect_exec hrun command rfl hs) fun _ _ _ =>
            effect_dispatchCall registry streams _ hp
  | .call ⟨text, redirections, some ⟨.raw inner, before, after⟩, false⟩, p, p', s, s', hp, hs => by
      simp only [exec]
      cases splitRedirections redirections with
      | error direction => exact (Run.alike_conflict direction hs).1
      | ok streams =>
          exact Run.effect_feed (hrun inner s s' hs) fun _ _ _ =>
            effect_dispatchCall registry streams _ hp
  | .call ⟨text, redirections, none, disqualified⟩, p, p', s, s', hp, hs =>
      effect_exec_of_literal (.inl rfl) hp hs
  | .call ⟨text, redirections, some substitution, true⟩, p, p', s, s', hp, hs =>
      effect_exec_of_literal (.inr rfl) hp hs

theorem effect_execAll (hrun : ∀ t s s', s.Agrees s' → (run t s).effect = (run t s').effect) :
    ∀ (cs : List Command) {s s' : Shell}, s.Agrees s' →
      (execAll registry run cs s).effect = (execAll registry run cs s').effect
  | [], s, s', hs => by
      rw [execAll, execAll]
      exact (Run.alike_done hs).1
  | c :: cs, s, s', hs => by
      rw [execAll, execAll]
      exact Run.effect_andThen (effect_exec hrun c rfl hs) fun _ _ => effect_execAll hrun cs

theorem effect_execStages (hrun : ∀ t s s', s.Agrees s' → (run t s).effect = (run t s').effect) :
    ∀ (cs : List Command) {p p' : Option (List Text)} {s s' : Shell},
      pipedLines p = pipedLines p' → s.Agrees s' →
      (execStages registry run cs p s).effect = (execStages registry run cs p' s').effect
  | [], p, p', s, s', _, hs => by
      rw [execStages, execStages]
      exact (Run.alike_done hs).1
  | [c], p, p', s, s', hp, hs => by
      rw [execStages, execStages]
      exact effect_exec hrun c hp hs
  | c :: c' :: cs, p, p', s, s', hp, hs => by
      rw [execStages_cons (by simp), execStages_cons (by simp)]
      exact Run.effect_feed (effect_exec hrun c hp hs) fun _ _ _ =>
        effect_execStages hrun (c' :: cs) rfl

end

/-- Without arguments `cat` cuts what is piped into lines, and does nothing else. -/
lemma exec_cat (hcat : registry.get? "cat".toList = some (.plain .cat)) (fragments : List Text)
    (s : Shell) :
    exec registry run (.call { text := "cat".toList }) (some fragments) s =
      ⟨.ok (), ⟨Text.splitLines fragments.flatten⟩,
        s.note [.dispatched "cat".toList (some ("cat".toList, []))]⟩ := by
  have happ : runApplication registry s.host ⟨none, some fragments, s.stdin⟩ {} "cat".toList =
      ⟨.ok (), ⟨Text.splitLines fragments.flatten⟩, ⟨none, none, s.stdin⟩, s.host,
        [.dispatched "cat".toList (some ("cat".toList, []))]⟩ := by
    have hname : splitCommand "cat".toList = ("cat".toList, []) := rfl
    simp only [runApplication, hname, hcat]
    rfl
  rw [exec_of_literal (.inl rfl)]
  show dispatchCall registry {} (some fragments) s "cat".toList = _
  simp only [dispatchCall, dispatch, happ]
  rfl

end Command

namespace Shell

lemma effect_runText (registry : Registry) (line : Text) {s s' : Shell} (hs : s.Agrees s') :
    (runText registry line s).effect = (runText registry line s').effect := by
  cases h : Command.ofText line with
  | error e =>
      rw [runText_of_error h, runText_of_error h]
      exact Run.effect_eq_iff.mpr ⟨rfl, rfl, hs⟩
  | ok c =>
      have hboth : ∀ s', s.Agrees s' → (c.exec registry (runText registry) none s).effect =
          (runText registry line s').effect := fun _ hs => (alike_runText h hs).1
      rw [← hboth s ⟨rfl, rfl⟩, hboth s' hs]

/-- **`cat` is neutral between two stages.**  What is handed on may be cut differently, but no
    application can tell. -/
theorem executePiped_cat (registry : Registry)
    (hcat : registry.get? "cat".toList = some (.plain .cat)) {xs ys : List Command}
    (hx : xs ≠ []) (hy : ys ≠ []) (piped : Option (List Text)) (out : Channel) (shell : Shell) :
    (executePiped registry (.pipeline (xs ++ [.call { text := "cat".toList }] ++ ys)) piped out
        shell).effect =
      (executePiped registry (.pipeline (xs ++ ys)) piped out shell).effect := by
  refine Run.effect_behind ?_ out
  rw [Command.exec, Command.exec, List.append_assoc,
    Command.execStages_append (by simp) hx, Command.execStages_append hy hx]
  refine Run.effect_feed rfl fun o s s' hs => ?_
  rw [List.singleton_append, Command.execStages_cons hy, Command.exec_cat hcat]
  refine Command.effect_execStages (fun line _ _ => effect_runText registry line) ys ?_ hs
  exact congrArg some (Text.splitLines_flatten_splitLines o.fragments.flatten)

/-- What is handed on is one fragment without `cat` and two with it. -/
theorem executePiped_cat_recut :
    let registry : Registry :=
      ⟨[("echo".toList, .plain .echo), ("cat".toList, .plain .cat), ("head".toList, .plain .head)]⟩
    let echo : Command := .call { text := "echo a\nb".toList }
    let cat : Command := .call { text := "cat".toList }
    let head : Command := .call { text := "head -n 1".toList }
    let r := executePiped registry (.pipeline ([echo] ++ [cat] ++ [head])) none {}
      ⟨⟨{}, [], none⟩, [], []⟩
    r.effect = (executePiped registry (.pipeline ([echo] ++ [head])) none {}
      ⟨⟨{}, [], none⟩, [], []⟩).effect ∧
    r.effect = ⟨.ok (), ⟨["a\n".toList]⟩, ⟨{}, [], none⟩, []⟩ := by
  intro registry echo cat head r
  have hneutral := executePiped_cat registry rfl (List.cons_ne_nil echo [])
    (List.cons_ne_nil head []) none {} ⟨⟨{}, [], none⟩, [], []⟩
  exact ⟨hneutral, rfl⟩

end Shell

end LineShell
