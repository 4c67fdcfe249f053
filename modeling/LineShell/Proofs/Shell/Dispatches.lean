import LineShell.Proofs.Command.Shape
import LineShell.Proofs.Shell.Lines
import Mathlib.Tactic.Common

/-!
# What a line dispatches

**Dispatches.**  `Dispatches` relates two shells by the calls that are dispatched between them,
each with its command line.  A call is dispatched with its own text, or around the output of its
substitution, whose calls are dispatched right before it.

**Schedules.**  A run dispatches calls of the command's schedule, in that order, from the first
on; if it succeeds, all of them (`Run.Follows`).  The schedule is known before anything runs, so
no output changes what is dispatched next: it ends up in a command line, whatever it looks like.
-/

namespace LineShell

/-! ## The journal -/

/-- The command line of a dispatch. -/
def Note.commandLine? : Note → Option Text
  | dispatched cmdline _ => some cmdline
  | _ => none

/-- The command lines in the journal. -/
def Shell.commandLines (shell : Shell) : List Text :=
  shell.dispatches.filterMap Note.commandLine?

lemma Shell.commandLines_note_reading (shell : Shell) (line : Text) (calls : List CallSummary) :
    (shell.note (.running line :: calls.map .assembled)).commandLines = shell.commandLines := by
  rw [commandLines, dispatches_note_reading, commandLines]

/-- An application is called with one command line; the rest it notes are its own failures. -/
lemma notes_runApplication (registry : Registry) (host : Host) (input : Input) (channel : Channel)
    (cmdline : Text) :
    ∃ (app : Option (Text × List Text)) (suppressed : List AppError),
      (runApplication registry host input channel cmdline).notes =
        .dispatched cmdline app :: suppressed.map .suppressed := by
  simp only [runApplication]
  split
  · exact ⟨none, [], rfl⟩
  · split
    · exact ⟨none, [], rfl⟩
    · exact ⟨_, _, rfl⟩

lemma notes_dispatch (registry : Registry) (host : Host) (input : Input)
    (output : Option OutputTarget) (channel : Channel) (cmdline : Text) :
    (dispatch registry host input output channel cmdline).notes =
      (runApplication registry host input channel cmdline).notes := by
  simp only [dispatch]
  split
  · rfl
  · simp only [writeOutput]
    split <;> rfl

/-- **A call that is dispatched notes its command line.** -/
lemma commandLines_dispatchCall (registry : Registry) (streams : Streams)
    (piped : Option (List Text)) (shell : Shell) (cmdline : Text) :
    (dispatchCall registry streams piped shell cmdline).shell.commandLines =
      shell.commandLines ++ [cmdline] := by
  obtain ⟨app, suppressed, hnotes⟩ := notes_runApplication registry shell.host
    ⟨streams.input, piped, shell.stdin⟩ {} cmdline
  have hsuppressed : (suppressed.map Note.suppressed).filter Note.isDispatch = [] := by
    simp [List.filter_eq_nil_iff, Note.isDispatch]
  have hfilter : (Note.dispatched cmdline app :: suppressed.map .suppressed).filter
      Note.isDispatch = [.dispatched cmdline app] := by
    rw [List.filter_cons_of_pos rfl, hsuppressed]
  simp [Shell.commandLines, Shell.dispatches, dispatchCall, notes_dispatch, hnotes, hfilter,
    Note.commandLine?]

/-! ## Dispatches -/

/-- `Dispatches registry s ds s'`: the calls of `ds` are dispatched in order, each with its command
    line, and take the shell from `s` to `s'`. -/
inductive Dispatches (registry : Registry) : Shell → List (Call Command × Text) → Shell → Prop
  | none (s : Shell) : Dispatches registry s [] s
  | append {s s' s'' : Shell} {ds ds' : List (Call Command × Text)} :
      Dispatches registry s ds s' → Dispatches registry s' ds' s'' →
      Dispatches registry s (ds ++ ds') s''
  /-- The call has no substitution, or one that is left as text. -/
  | text {k : Call Command} {streams : Streams} (piped : Option (List Text)) (s : Shell) :
      (k.substitution = .none ∨ k.disqualified = true) →
      splitRedirections k.redirections = .ok streams →
      Dispatches registry s [(k, k.text)] (dispatchCall registry streams piped s k.text).shell
  /-- The substitution of the call has run, and the line holds what it wrote. -/
  | substituted {k : Call Command} {command : Command} {before after : Text} {streams : Streams}
      {s s' : Shell} {inner : List (Call Command × Text)} {output : Channel}
      (piped : Option (List Text)) :
      k.substitution = some ⟨.parsed command, before, after⟩ → k.disqualified = false →
      splitRedirections k.redirections = .ok streams →
      Shell.execute registry command {} s = ⟨.ok (), output, s'⟩ →
      Dispatches registry s inner s' → inner.map Prod.fst = command.schedule →
      Dispatches registry s (inner ++ [(k, before ++ Text.flatten output.joined ++ after)])
        (dispatchCall registry streams piped s'
          (before ++ Text.flatten output.joined ++ after)).shell

/-- The journal has the command lines of the calls. -/
lemma Dispatches.commandLines {registry : Registry} {s s' : Shell}
    {ds : List (Call Command × Text)} (h : Dispatches registry s ds s') :
    s'.commandLines = s.commandLines ++ ds.map Prod.snd := by
  induction h with
  | none s => simp
  | append _ _ ih ih' => rw [ih', ih, List.map_append, List.append_assoc]
  | text piped s _ _ => rw [commandLines_dispatchCall, List.map_singleton]
  | substituted piped _ _ _ _ _ _ ih =>
      rw [commandLines_dispatchCall, ih, List.map_append, List.append_assoc, List.map_singleton]

/-! ## Runs along a schedule -/

/-- The run dispatches calls of the schedule in order, and all of them if it succeeds. -/
def Run.Follows (registry : Registry) (s : Shell) (schedule : List (Call Command)) (r : Run) :
    Prop :=
  ∃ ds, Dispatches registry s ds r.shell ∧ ds.map Prod.fst <+: schedule ∧
    (r.result = .ok () → ds.map Prod.fst = schedule)

namespace Run

variable {registry : Registry} {s : Shell} {ks ks' : List (Call Command)} {r : Run}

lemma follows_done : (done s).Follows registry s [] :=
  ⟨[], .none s, List.nil_prefix, fun _ => rfl⟩

lemma follows_fail (e : ShellError) : (fail e s).Follows registry s ks :=
  ⟨[], .none s, List.nil_prefix, fun h => by cases h⟩

/-- After a failure nothing more is dispatched, however long the schedule. -/
lemma Follows.of_error (h : r.Follows registry s ks) {failed : Run} {e : ShellError}
    (hshell : failed.shell = r.shell) (he : failed.result = .error e) :
    failed.Follows registry s (ks ++ ks') := by
  obtain ⟨ds, hds, hprefix, _⟩ := h
  refine ⟨ds, hshell ▸ hds, hprefix.trans (List.prefix_append ks ks'), fun hok => ?_⟩
  rw [he] at hok
  cases hok

/-- A run that has succeeded can be followed by another one. -/
lemma Follows.of_ok (h : r.Follows registry s ks) (hok : r.result = .ok ()) {next : Run}
    (hnext : next.Follows registry r.shell ks') : next.Follows registry s (ks ++ ks') := by
  obtain ⟨ds, hds, _, hall⟩ := h
  obtain ⟨ds', hds', hprefix, hall'⟩ := hnext
  refine ⟨ds ++ ds', .append hds hds', ?_, fun h => ?_⟩
  · rw [List.map_append, hall hok]
    exact (List.prefix_append_right_inj ks).mpr hprefix
  · rw [List.map_append, hall hok, hall' h]

lemma Follows.andThen (h : r.Follows registry s ks) {next : Shell → Run}
    (hnext : ∀ s', (next s').Follows registry s' ks') :
    (r.andThen next).Follows registry s (ks ++ ks') := by
  simp only [Run.andThen]
  cases hr : r.result with
  | error e => exact h.of_error rfl hr
  | ok u => exact h.of_ok hr (hnext r.shell)

lemma Follows.feed (h : r.Follows registry s ks) {next : Channel → Shell → Run}
    (hnext : ∀ o s', (next o s').Follows registry s' ks') :
    (r.feed next).Follows registry s (ks ++ ks') := by
  simp only [Run.feed]
  cases hr : r.result with
  | error e => exact h.of_error rfl rfl
  | ok u => exact h.of_ok hr (hnext r.output r.shell)

end Run

/-! ## Commands -/

namespace Command

variable {registry : Registry} {run run' : Text → Shell → Run}

lemma execAll_congr {cs : List Command}
    (hcs : ∀ c ∈ cs, ∀ piped s, exec registry run c piped s = exec registry run' c piped s) :
    ∀ s, execAll registry run cs s = execAll registry run' cs s := by
  induction cs with
  | nil => intro s; rw [execAll, execAll]
  | cons c cs ih =>
      intro s
      obtain ⟨hc, hcs⟩ := List.forall_mem_cons.mp hcs
      rw [execAll, execAll, hc]
      simp only [ih hcs]

lemma execStages_congr : ∀ {cs : List Command},
    (∀ c ∈ cs, ∀ piped s, exec registry run c piped s = exec registry run' c piped s) →
    ∀ piped s, execStages registry run cs piped s = execStages registry run' cs piped s
  | [], _, piped, s => by rw [execStages, execStages]
  | [c], hcs, piped, s => by
      rw [execStages, execStages]
      exact hcs c (by simp) piped s
  | c :: c' :: cs, hcs, piped, s => by
      obtain ⟨hc, hcs⟩ := List.forall_mem_cons.mp hcs
      rw [execStages_cons (by simp), execStages_cons (by simp), hc]
      simp only [execStages_congr hcs]

/-- A resolved command runs no text. -/
lemma Resolved.exec_congr {c : Command} (hc : c.Resolved) :
    ∀ piped s, exec registry run c piped s = exec registry run' c piped s := by
  induction hc with
  | sequence _ ih =>
      intro piped s
      rw [exec, exec]
      exact execAll_congr ih s
  | pipeline _ ih =>
      intro piped s
      rw [exec, exec]
      exact execStages_congr ih piped s
  | bare | silenced =>
      intro piped s
      simp only [exec]
  | substituted _ ih =>
      intro piped s
      simp only [exec, ih]

lemma follows_execAll {cs : List Command}
    (hcs : ∀ c ∈ cs, ∀ piped s, (exec registry run c piped s).Follows registry s c.schedule) :
    ∀ s, (execAll registry run cs s).Follows registry s (scheduleAll cs) := by
  induction cs with
  | nil =>
      intro s
      rw [execAll, scheduleAll]
      exact Run.follows_done
  | cons c cs ih =>
      intro s
      obtain ⟨hc, hcs⟩ := List.forall_mem_cons.mp hcs
      rw [execAll, scheduleAll]
      exact (hc none s).andThen (ih hcs)

lemma follows_execStages : ∀ {cs : List Command},
    (∀ c ∈ cs, ∀ piped s, (exec registry run c piped s).Follows registry s c.schedule) →
    ∀ piped s, (execStages registry run cs piped s).Follows registry s (scheduleAll cs)
  | [], _, piped, s => by
      rw [execStages, scheduleAll]
      exact Run.follows_done
  | [c], hcs, piped, s => by
      rw [execStages, scheduleAll, scheduleAll, List.append_nil]
      exact hcs c (by simp) piped s
  | c :: c' :: cs, hcs, piped, s => by
      obtain ⟨hc, hcs⟩ := List.forall_mem_cons.mp hcs
      rw [execStages_cons (by simp), scheduleAll]
      exact (hc piped s).feed fun o s' => follows_execStages hcs (some o.fragments) s'

/-- A call that runs no substitution is dispatched with its text. -/
lemma follows_dispatchCall_text {k : Call Command} {streams : Streams}
    (hk : k.substitution = none ∨ k.disqualified = true)
    (hstreams : splitRedirections k.redirections = .ok streams) (piped : Option (List Text))
    (s : Shell) : (dispatchCall registry streams piped s k.text).Follows registry s [k] :=
  ⟨[(k, k.text)], .text piped s hk hstreams, List.prefix_rfl, fun _ => rfl⟩

/-- Any other call is dispatched after its substitution, around what that wrote. -/
lemma follows_dispatchCall_substituted {k : Call Command} {command : Command}
    {before after : Text} {streams : Streams}
    (hk : k.substitution = some ⟨.parsed command, before, after⟩) (hd : k.disqualified = false)
    (hstreams : splitRedirections k.redirections = .ok streams) (piped : Option (List Text))
    {s : Shell} (h : (Shell.execute registry command {} s).Follows registry s command.schedule) :
    ((Shell.execute registry command {} s).feed fun output s' =>
      dispatchCall registry streams piped s' (splice before output after)).Follows registry s
        (command.schedule ++ [k]) := by
  generalize hinner : Shell.execute registry command {} s = inner at h
  obtain ⟨result, output, s'⟩ := inner
  cases result with
  | error e => exact h.of_error rfl rfl
  | ok u =>
      obtain ⟨ds, hds, _, hall⟩ := h
      have hcalls : (ds ++ [(k, splice before output after)]).map Prod.fst =
          command.schedule ++ [k] := by
        rw [List.map_append, hall rfl, List.map_singleton]
      exact ⟨_, .substituted piped hk hd hstreams hinner hds (hall rfl),
        hcalls ▸ List.prefix_rfl, fun _ => hcalls⟩

/-- **A resolved command dispatches its schedule**, as far as it gets. -/
theorem Resolved.follows_exec {c : Command} (hc : c.Resolved) :
    ∀ piped s, (exec registry run c piped s).Follows registry s c.schedule := by
  induction hc with
  | sequence _ ih =>
      intro piped s
      rw [exec, schedule]
      exact follows_execAll ih s
  | pipeline _ ih =>
      intro piped s
      rw [exec, schedule]
      exact follows_execStages ih piped s
  | bare =>
      intro piped s
      simp only [exec, schedule]
      split
      · exact Run.follows_fail _
      next streams hstreams =>
        exact follows_dispatchCall_text (.inl rfl) hstreams piped s
  | silenced =>
      intro piped s
      simp only [exec, schedule]
      split
      · exact Run.follows_fail _
      next streams hstreams =>
        exact follows_dispatchCall_text (.inr rfl) hstreams piped s
  | @substituted text before after redirections command hcommand ih =>
      intro piped s
      simp only [exec, schedule]
      split
      · exact Run.follows_fail _
      next streams hstreams =>
        -- there is no text to run, so the substitution runs as it does by itself
        have hexecute : exec registry run command none s =
            Shell.execute registry command {} s := hcommand.exec_congr none s
        have hinner := ih none s
        rw [hexecute] at hinner ⊢
        exact follows_dispatchCall_substituted rfl rfl hstreams piped hinner

end Command

namespace Shell

/-- **What a line dispatches** is settled before it runs: calls of its command's schedule, in order
    and from the first on, and all of them if it succeeds.  What an application writes can come up
    in a command line, and nowhere else. -/
theorem runLine_dispatches (registry : Registry) {line : Text} {c : Command}
    (h : Command.ofText line = .ok c) (out : Channel) (shell : Shell) :
    ∃ ds, Dispatches registry
        (shell.note (.running line :: (Command.summaries line).map .assembled)) ds
        (runLine registry line out shell).shell ∧
      (runLine registry line out shell).shell.commandLines =
        shell.commandLines ++ ds.map Prod.snd ∧
      ds.map Prod.fst <+: c.schedule ∧
      ((runLine registry line out shell).result = .ok () → ds.map Prod.fst = c.schedule) := by
  have hfollows : (runText registry line shell).Follows registry
      (shell.note (.running line :: (Command.summaries line).map .assembled)) c.schedule := by
    rw [runText, h]
    exact (Command.resolved_of_ofText h).follows_exec none _
  obtain ⟨ds, hds, hprefix, hall⟩ := hfollows
  refine ⟨ds, hds, ?_, hprefix, hall⟩
  rw [← commandLines_note_reading shell line (Command.summaries line)]
  exact hds.commandLines

/-- A separator in what a substitution writes separates nothing. -/
theorem runLine_dispatches_separator :
    ∃ ds : List (Call Command × Text),
      (runLine (.ofConfig {}) "echo x`echo 'a;pwd'`".toList {}
        ⟨⟨{}, [], none⟩, [], []⟩).shell.commandLines = ds.map Prod.snd ∧
      ds.map Prod.snd = ["echo a;pwd".toList, "echo xa;pwd".toList] ∧
      ds.map (Call.text ∘ Prod.fst) = ["echo a;pwd".toList, "echo x`echo 'a;pwd'`".toList] := by
  have hinnerNode : Node.parse "echo 'a;pwd'".toList = .ok (.call
      [.literal "echo ".toList, .quoted .single (.text "a;pwd".toList .done)]) := rfl
  have hinner : Command.ofText "echo 'a;pwd'".toList =
      .ok (.call ⟨"echo a;pwd".toList, [], none, false⟩) := by
    rw [Command.ofText_eq, hinnerNode]
    rfl
  have hnode : Node.parse "echo x`echo 'a;pwd'`".toList = .ok (.call
      [.literal "echo x".toList, .quoted .back
        (.text "echo ".toList (.span .single (.text "a;pwd".toList .done) .done))]) := rfl
  have hgather : Draft.gather false [.literal "echo x".toList, .quoted .back
      (.text "echo ".toList (.span .single (.text "a;pwd".toList .done) .done))] =
        .ok (⟨"echo x`echo 'a;pwd'`".toList, some "echo 'a;pwd'".toList, 1, false⟩, []) := rfl
  have hsub : Draft.substitution Command.ofText
      ⟨"echo x`echo 'a;pwd'`".toList, some "echo 'a;pwd'".toList, 1, false⟩ = .ok (some
        ⟨.parsed (.call ⟨"echo a;pwd".toList, [], none, false⟩), "echo x".toList, []⟩) := by
    simp only [Draft.substitution, hinner]
    rfl
  have hline : Command.ofText "echo x`echo 'a;pwd'`".toList = .ok (.call
      ⟨"echo x`echo 'a;pwd'`".toList, [], some
        ⟨.parsed (.call ⟨"echo a;pwd".toList, [], none, false⟩), "echo x".toList, []⟩, false⟩) := by
    rw [Command.ofText_eq, hnode]
    show Node.assembleStage Command.ofText false _ = _
    simp only [Node.assembleStage, Call.assemble, hgather, hsub]
    rfl
  obtain ⟨ds, _, hlines, _, hall⟩ := runLine_dispatches (.ofConfig {}) hline {}
    ⟨⟨{}, [], none⟩, [], []⟩
  have hok : (runLine (.ofConfig {}) "echo x`echo 'a;pwd'`".toList {}
      ⟨⟨{}, [], none⟩, [], []⟩).result = .ok () := by
    rw [runLine_eq, runText, hline]
    rfl
  have hcommandLines : (runLine (.ofConfig {}) "echo x`echo 'a;pwd'`".toList {}
      ⟨⟨{}, [], none⟩, [], []⟩).shell.commandLines =
        ["echo a;pwd".toList, "echo xa;pwd".toList] := by
    rw [runLine_eq, runText, hline]
    show (dispatchCall (.ofConfig {}) {} none (dispatchCall (.ofConfig {}) {} none _
      "echo a;pwd".toList).shell "echo xa;pwd".toList).shell.commandLines = _
    rw [commandLines_dispatchCall, commandLines_dispatchCall, commandLines_note_reading]
    rfl
  refine ⟨ds, hlines, hlines.symm.trans hcommandLines, ?_⟩
  rw [← List.map_map, hall hok]
  rfl

end Shell

end LineShell
