import LineShell.Proofs.Shell.Effect
import Mathlib.Tactic.Common

/-!
# Running lines

What a line does, in terms of the lines and commands that it is put together from.

**Malformed lines.**  A line fails as malformed just when it is not a command, and then nothing
has been done: all of it is read before any of it runs.

**Separators.**  Two lines with a semicolon between them do what they do one after the other, and
the second does nothing if the first fails.  With a bar between them, the first writes to a
channel of its own, which is handed to the second.
-/

namespace LineShell

/-! ## One line -/

/-- Whether an application is called. -/
def Note.isDispatch : Note → Bool
  | dispatched _ _ => true
  | _ => false

/-- The calls of applications in the journal. -/
def Shell.dispatches (shell : Shell) : List Note :=
  shell.notes.filter Note.isDispatch

/-- Reading a line calls no application. -/
lemma Shell.dispatches_note_reading (shell : Shell) (line : Text) (calls : List CallSummary) :
    (shell.note (.running line :: calls.map .assembled)).dispatches = shell.dispatches := by
  have hassembled : (calls.map Note.assembled).filter Note.isDispatch = [] := by
    simp [List.filter_eq_nil_iff, Note.isDispatch]
  simp [dispatches, note, Note.isDispatch, hassembled]

namespace Shell

variable {registry : Registry} {line : Text}

lemma runText_of_error {e : SyntaxError} (h : Command.ofText line = .error e) (shell : Shell) :
    runText registry line shell = .fail (.malformed e)
      (shell.note (.running line :: (Command.summaries line).map .assembled)) := by
  rw [runText, h]

/-- A line does what its command does. -/
lemma alike_runText {c : Command} (h : Command.ofText line = .ok c) {s s' : Shell}
    (hs : s.Agrees s') :
    Run.Alike (c.exec registry (runText registry) none s) (runText registry line s') := by
  rw [runText, h]
  exact (Command.resolved_of_ofText h).alike_exec none s _ hs

lemma runLine_eq (out : Channel) (shell : Shell) :
    runLine registry line out shell = (runText registry line shell).behind out :=
  rfl

/-- **Malformed lines do nothing.**  Running a line fails as malformed just when the line is not
    a command, for the same cause, and then nothing has been written, the machine and standard
    input are as they were, and no application has been called. -/
theorem runLine_malformed_iff (registry : Registry) (line : Text) (out : Channel) (shell : Shell) :
    (∀ e, (runLine registry line out shell).result = .error (.malformed e) ↔
      Command.ofText line = .error e) ∧
    ((runLine registry line out shell).Malformed →
      (runLine registry line out shell).output = out ∧
      (runLine registry line out shell).shell.host = shell.host ∧
      (runLine registry line out shell).shell.stdin = shell.stdin ∧
      (runLine registry line out shell).shell.dispatches = shell.dispatches) := by
  rw [runLine_eq]
  cases h : Command.ofText line with
  | error cause =>
      rw [runText_of_error h]
      refine ⟨fun e => ?_, fun _ => ⟨?_, rfl, rfl, ?_⟩⟩
      · simp [Run.behind, Run.fail]
      · exact Channel.append_empty out
      · exact dispatches_note_reading shell line _
  | ok c =>
      have hc : ¬ (runText registry line shell).Malformed := by
        rw [runText, h]
        exact (Command.resolved_of_ofText h).not_malformed none _
      refine ⟨fun e => ⟨fun hm => (hc ⟨e, hm⟩).elim, fun he => ?_⟩, fun hm => (hc hm).elim⟩
      cases he

/-- A substitution that cannot be read is found before the call in front of it runs. -/
theorem runLine_malformed_substitution :
    (runLine (.ofConfig {}) "pwd;echo `|`".toList {} ⟨⟨{}, [], none⟩, [], []⟩).effect =
      ⟨.error (.malformed .emptyStage), {}, ⟨{}, [], none⟩, []⟩ := by
  have hnode : Node.parse "pwd;echo `|`".toList = .ok (.sequence
      [.call [.literal "pwd".toList],
        .call [.literal "echo ".toList, .quoted .back (.text "|".toList .done)]]) := rfl
  have hpwd : Call.assemble Command.ofText false [.literal "pwd".toList] =
      .ok ⟨"pwd".toList, [], none, false⟩ := rfl
  have hgather : Draft.gather false
      [.literal "echo ".toList, .quoted .back (.text "|".toList .done)] =
        .ok (⟨"echo `|`".toList, some "|".toList, 1, false⟩, []) := rfl
  have hinner : Command.ofText "|".toList = .error .emptyStage := by
    rw [Command.ofText_eq]
    rfl
  have hsub : Draft.substitution Command.ofText
      ⟨"echo `|`".toList, some "|".toList, 1, false⟩ = .error .emptyStage := by
    simp only [Draft.substitution, hinner]
    rfl
  have hecho : Call.assemble Command.ofText false
      [.literal "echo ".toList, .quoted .back (.text "|".toList .done)] = .error .emptyStage := by
    simp only [Call.assemble, hgather, hsub]
  have hline : Command.ofText "pwd;echo `|`".toList = .error .emptyStage := by
    rw [Command.ofText_eq, hnode]
    show Node.assembleStage Command.ofText false _ = _
    simp only [Node.assembleStage, Node.assembleMembers, hpwd, hecho]
  obtain ⟨hiff, hsame⟩ := runLine_malformed_iff (.ofConfig {}) "pwd;echo `|`".toList {}
    ⟨⟨{}, [], none⟩, [], []⟩
  have hresult := (hiff .emptyStage).mpr hline
  obtain ⟨houtput, hhost, hstdin, _⟩ := hsame ⟨.emptyStage, hresult⟩
  simp only [Run.effect, hresult, houtput, hhost, hstdin]

end Shell

/-! ## Two lines -/

namespace Run

/-- Goes on after success, with the channel as it is then. -/
def proceed (r : Run) (next : Channel → Shell → Run) : Run :=
  match r.result with
  | .error _ => r
  | .ok _ => next r.output r.shell

/-- What goes on writes behind what was written. -/
lemma behind_andThen (r : Run) (next : Shell → Run) (out : Channel) :
    (r.andThen next).behind out = (r.behind out).proceed fun o s => (next s).behind o := by
  obtain ⟨result, output, shell⟩ := r
  cases result with
  | error e => rfl
  | ok u => simp only [andThen, behind, proceed, Channel.append_assoc]

end Run

namespace Shell

/-- **A semicolon runs one line after the other.**  The effect is that of running the first and,
    only if it succeeds, the second, both writing to the one channel. -/
theorem runLine_semicolon (registry : Registry) {a b : Text} {ca cb : Command}
    (ha : Command.ofText a = .ok ca) (hb : Command.ofText b = .ok cb)
    (hea : ca.isEmptyCall = false) (heb : cb.isEmptyCall = false) (out : Channel)
    (shell : Shell) :
    (runLine registry (a ++ ';' :: b) out shell).effect =
      ((runLine registry a out shell).proceed (runLine registry b)).effect := by
  have hab := Command.ofText_semicolon ha hb hea heb
  have hline : (runText registry (a ++ ';' :: b) shell).effect =
      ((runText registry a shell).andThen (runText registry b)).effect := by
    rw [← (alike_runText hab ⟨rfl, rfl⟩).1, Command.exec, Command.execAll_append,
      Command.execAll_members]
    refine ((alike_runText ha ⟨rfl, rfl⟩).andThen fun s s' hs => ?_).1
    rw [Command.execAll_members]
    exact alike_runText hb hs
  calc (runLine registry (a ++ ';' :: b) out shell).effect
      = (((runText registry a shell).andThen (runText registry b)).behind out).effect :=
        Run.effect_behind hline out
    _ = ((runLine registry a out shell).proceed (runLine registry b)).effect := by
        rw [Run.behind_andThen]
        rfl

/-- A quoted semicolon and an empty member in the first line. -/
theorem runLine_semicolon_quoted :
    (runLine (.ofConfig {}) ("echo \"a;b\";;pwd".toList ++ ';' :: "nosuch".toList) {}
      ⟨⟨{}, [], none⟩, [], []⟩).effect =
    ((runLine (.ofConfig {}) "echo \"a;b\";;pwd".toList {} ⟨⟨{}, [], none⟩, [], []⟩).proceed
      (runLine (.ofConfig {}) "nosuch".toList)).effect := by
  have hnode : Node.parse "echo \"a;b\";;pwd".toList = .ok (.sequence
      [.call [.literal "echo ".toList, .quoted .double (.text "a;b".toList .done)],
        .call [], .call [.literal "pwd".toList]]) := rfl
  have hnode' : Node.parse "nosuch".toList = .ok (.call [.literal "nosuch".toList]) := rfl
  have hfirst : Command.ofText "echo \"a;b\";;pwd".toList = .ok (.sequence
      [.call ⟨"echo a;b".toList, [], none, false⟩, .call ⟨"pwd".toList, [], none, false⟩]) := by
    rw [Command.ofText_eq, hnode]
    rfl
  have hsecond : Command.ofText "nosuch".toList =
      .ok (.call ⟨"nosuch".toList, [], none, false⟩) := by
    rw [Command.ofText_eq, hnode']
    rfl
  exact runLine_semicolon (.ofConfig {}) hfirst hsecond rfl rfl {} ⟨⟨{}, [], none⟩, [], []⟩

/-- Runs a command with what is piped into it; what it writes goes behind what `out` holds. -/
def executePiped (registry : Registry) (command : Command) (piped : Option (List Text))
    (out : Channel) (shell : Shell) : Run :=
  (command.exec registry (runText registry) piped shell).behind out

/-- **A bar runs one line into the other.**  Lines that are no sequences make up the pipeline of
    their stages.  It runs the first command to a channel of its own; if that fails nothing is
    written, else what that channel holds is piped into the second.  A first line that sends its
    output elsewhere is refused. -/
theorem runLine_bar (registry : Registry) {a b : Text} {ca cb : Command} {na nb : Node}
    (ha : Command.ofText a = .ok ca) (hb : Command.ofText b = .ok cb)
    (hna : Node.parse a = .ok na) (hnb : Node.parse b = .ok nb)
    (hsa : na.isSequence = false) (hsb : nb.isSequence = false) (out : Channel) (shell : Shell) :
    (ca.lastSendsOutput = true →
      (runLine registry (a ++ '|' :: b) out shell).effect =
        ⟨.error (.malformed .outputInPipeline), out, shell.host, shell.stdin⟩) ∧
    (ca.lastSendsOutput = false →
      Command.ofText (a ++ '|' :: b) = .ok (.pipeline (ca.stages ++ cb.stages)) ∧
      (runLine registry (a ++ '|' :: b) out shell).effect =
        match execute registry ca {} shell with
        | ⟨.error e, _, after⟩ => ⟨.error e, out, after.host, after.stdin⟩
        | ⟨.ok _, output, after⟩ =>
          (executePiped registry cb (some output.fragments) out after).effect) := by
  have hab := Command.ofText_bar ha hb hna hnb hsa hsb
  refine ⟨fun hout => ?_, fun hout => ?_⟩
  · rw [if_pos hout] at hab
    rw [runLine_eq, runText_of_error hab]
    simp [Run.effect, Run.behind, Run.fail, note]
  · rw [if_neg (by simp [hout])] at hab
    refine ⟨hab, ?_⟩
    have hxs := Command.stages_ne_nil_of_ofText ha hna hsa
    have hys := Command.stages_ne_nil_of_ofText hb hnb hsb
    rw [runLine_eq, ← Run.effect_behind (alike_runText hab ⟨rfl, rfl⟩).1 out, Command.exec,
      Command.execStages_append hys hxs]
    simp only [Command.execStages_stages, execute, Channel.empty_append]
    generalize ca.exec registry (runText registry) none shell = first
    obtain ⟨result, output, after⟩ := first
    cases result with
    | error e => simp [Run.feed, Run.fail, Run.behind, Run.effect]
    | ok u => rfl

/-- A first line that is a pipeline is taken stage by stage; one that appends to a file is
    refused. -/
theorem runLine_bar_quoted :
    Command.ofText ("echo \"a|b\"|cat".toList ++ '|' :: "sort>>f".toList) = .ok (.pipeline
      [.call ⟨"echo a|b".toList, [], none, false⟩, .call ⟨"cat".toList, [], none, false⟩,
        .call ⟨"sort".toList, [⟨.output, "f".toList, .append⟩], none, false⟩]) ∧
    (runLine (.ofConfig {}) ("sort>>f".toList ++ '|' :: "echo \"a|b\"|cat".toList) {}
      ⟨⟨{}, [], none⟩, [], []⟩).effect =
        ⟨.error (.malformed .outputInPipeline), {}, ⟨{}, [], none⟩, []⟩ := by
  have hna : Node.parse "echo \"a|b\"|cat".toList = .ok (.pipeline
      [.call [.literal "echo ".toList, .quoted .double (.text "a|b".toList .done)],
        .call [.literal "cat".toList]]) := rfl
  have hnb : Node.parse "sort>>f".toList = .ok (.call
      [.literal "sort".toList, .redirect .append "f".toList]) := rfl
  have ha : Command.ofText "echo \"a|b\"|cat".toList = .ok (.pipeline
      [.call ⟨"echo a|b".toList, [], none, false⟩,
        .call ⟨"cat".toList, [], none, false⟩]) := by
    rw [Command.ofText_eq, hna]
    rfl
  have hb : Command.ofText "sort>>f".toList =
      .ok (.call ⟨"sort".toList, [⟨.output, "f".toList, .append⟩], none, false⟩) := by
    rw [Command.ofText_eq, hnb]
    rfl
  have hjoin := runLine_bar (.ofConfig {}) ha hb hna hnb rfl rfl {} ⟨⟨{}, [], none⟩, [], []⟩
  have hrefuse := runLine_bar (.ofConfig {}) hb ha hnb hna rfl rfl {} ⟨⟨{}, [], none⟩, [], []⟩
  exact ⟨(hjoin.2 rfl).1, hrefuse.1 rfl⟩

end Shell

end LineShell
