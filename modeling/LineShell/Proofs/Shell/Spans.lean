import LineShell.Proofs.Command.Occurrence
import LineShell.Proofs.Shell.Dispatches
import Mathlib.Tactic.Common

/-!
# Which backquoted spans run

A backquoted span under single quotes of its call never runs: the call is dispatched once, with
the span in its command line as it was written.  Any other span that is not blank is read when its
line is, and runs whenever its call does.

The two rules meet in a call that has spans of both kinds.  Whether a span runs is settled for the
call as a whole, so there the second kind stays text as well.
-/

namespace LineShell

/-! ## Calls -/

namespace Command

variable {registry : Registry} {run : Text → Shell → Run} {k : Call Command}

/-- A disqualified call leaves its substitution alone. -/
lemma exec_of_disqualified (hk : k.disqualified = true) (piped : Option (List Text))
    (shell : Shell) :
    exec registry run (.call k) piped shell =
      match splitRedirections k.redirections with
      | .error direction => .fail (.conflict direction) shell
      | .ok streams => dispatchCall registry streams piped shell k.text := by
  obtain ⟨text, redirections, substitution, disqualified⟩ := k
  cases hk
  cases hsplit : splitRedirections redirections <;>
    rcases substitution with _ | ⟨_ | _, before, after⟩ <;> simp only [exec, hsplit]

/-- A call with a command for its substitution runs it first. -/
lemma exec_of_parsed {command : Command} {before after : Text}
    (hk : k.substitution = some ⟨.parsed command, before, after⟩) (hd : k.disqualified = false)
    {streams : Streams} (hstreams : splitRedirections k.redirections = .ok streams)
    (piped : Option (List Text)) (shell : Shell) :
    exec registry run (.call k) piped shell =
      (exec registry run command none shell).feed fun output shell =>
        dispatchCall registry streams piped shell (splice before output after) := by
  obtain ⟨text, redirections, substitution, disqualified⟩ := k
  cases hk
  cases hd
  simp only [exec, hstreams]

end Command

lemma Part.any_silences {parts : List Part} {contents : Quotation} {inner : Text}
    (hquoted : .quoted .single contents ∈ parts) (hinner : inner ∈ contents.backquoted) :
    parts.any Part.silences = true := by
  have hcount : contents.backCount ≠ 0 := by
    intro h
    rw [Quotation.backquoted_eq_nil_iff.mpr h] at hinner
    cases hinner
  exact List.any_eq_true.mpr ⟨_, hquoted, by simp [silences, hcount]⟩

lemma Command.isEmptyCall_of_substitution {k : Call Command} {s : Substitution Command}
    (h : k.substitution = some s) : (call k).isEmptyCall = false := by
  simp [isEmptyCall, h]

/-! ## Lines -/

namespace Shell

/-- **A backquoted span under single quotes never runs.**  Its call is disqualified and has the
    span in its text as it stands in the line.  Running the call reports a conflict of its
    redirections, and does nothing, or dispatches that text once, and does nothing else. -/
theorem silenced_span_stays_text {line : Text} {node : Node} {c : Command}
    (hnode : Node.parse line = .ok node) (hc : Command.ofText line = .ok c) {piped : Bool}
    {parts : List Part} (hcall : (piped, parts) ∈ node.calls false) {contents : Quotation}
    (hquoted : .quoted .single contents ∈ parts) {inner : Text}
    (hinner : inner ∈ contents.backquoted) :
    ∃ k ∈ c.schedule, Call.assemble Command.ofText piped parts = .ok k ∧
      k.disqualified = true ∧ backquote inner <:+: line ∧ backquote inner <:+: k.text ∧
      ∀ (registry : Registry) (pipe : Option (List Text)) (out : Channel) (shell : Shell),
        let r := executePiped registry (.call k) pipe out shell
        match splitRedirections k.redirections with
        | .error direction => r = ⟨.error (.conflict direction), out, shell⟩
        | .ok streams =>
          let d := dispatch registry shell.host ⟨streams.input, pipe, shell.stdin⟩
            streams.output {} k.text
          r.effect = ⟨d.result, out.append d.channel, d.host, d.input.stdin⟩ ∧
            r.shell.commandLines = shell.commandLines ++ [k.text] := by
  have hcan := (Node.canonicalList_of_calls (Node.canonical_of_parse hnode) _ hcall).1
  have hspan : inner ∈ (Part.quoted .single contents).backquoted := by
    simpa [Part.backquoted] using hinner
  obtain ⟨k, hk, hmem⟩ := Command.mem_schedule_of_ofText hnode hc hcall
  obtain ⟨htext, hd, text, before, after, hsub⟩ :=
    Call.disqualified_of_assemble hcan hk (Part.any_silences hquoted hinner)
  refine ⟨k, hmem (Command.isEmptyCall_of_substitution hsub), hk, hd,
    Part.infix_line_of_backquoted hnode hcall hquoted hspan, ?_, ?_⟩
  · rw [htext]
    exact Part.infix_trim_unwrapped hquoted hspan
  · intro registry pipe out shell
    simp only [executePiped, Command.exec_of_disqualified hd]
    cases hstreams : splitRedirections k.redirections with
    | error direction => simp [Run.behind, Run.fail]
    | ok streams =>
        exact ⟨rfl, commandLines_dispatchCall registry streams pipe shell k.text⟩

/-- The span is silenced through double quotes, in a stage of a pipeline. -/
theorem silenced_span_through_double :
    ∃ c k, Command.ofText "pwd|echo 'a \"b `x`\"'".toList = .ok c ∧ k ∈ c.schedule ∧
      k.disqualified = true ∧ backquote "x".toList <:+: k.text ∧
      (executePiped (.ofConfig {}) (.call k) (some []) {} ⟨⟨{}, [], none⟩, [], []⟩).effect =
        ⟨.ok (), ⟨["a \"b `x`\"\n".toList]⟩, ⟨{}, [], none⟩, []⟩ := by
  let contents : Quotation := .text "a ".toList (.span .double
    (.text "b ".toList (.span .back (.text "x".toList .done) .done)) .done)
  let parts : List Part := [.literal "echo ".toList, .quoted .single contents]
  have hnode : Node.parse "pwd|echo 'a \"b `x`\"'".toList =
      .ok (.pipeline [.call [.literal "pwd".toList], .call parts]) := rfl
  obtain ⟨c, hc⟩ : ∃ c, Command.ofText "pwd|echo 'a \"b `x`\"'".toList = .ok c := by
    rw [Command.ofText_eq, hnode]
    exact ⟨_, rfl⟩
  have hcall : (false, parts) ∈
      (Node.pipeline [.call [.literal "pwd".toList], .call parts]).calls false := by
    simp [Node.calls, Node.stageCalls]
  obtain ⟨k, hmem, hassemble, hd, _, htext, hexec⟩ := silenced_span_stays_text hnode hc hcall
    (show .quoted .single contents ∈ parts by simp [parts]) (show "x".toList ∈ _ by decide)
  have hk : Call.assemble Command.ofText false parts = .ok ⟨"echo a \"b `x`\"".toList, [],
      some ⟨.raw "x".toList, "echo a \"b ".toList, "\"".toList⟩, true⟩ := rfl
  rw [hk] at hassemble
  cases hassemble
  exact ⟨c, _, hc, hmem, hd, htext,
    (hexec (.ofConfig {}) (some []) {} ⟨⟨{}, [], none⟩, [], []⟩).1⟩

/-- **A backquoted span runs with its call**, if it is not blank and its line is a command, as long
    as no span of the call is under single quotes: the call holds the command that the span is
    read as, and runs it before it is dispatched.  One span under single quotes keeps every span
    of the call from being read, and they stay text like that one. -/
theorem executable_span_runs {line : Text} {node : Node} (hnode : Node.parse line = .ok node)
    {piped : Bool} {parts : List Part} (hcall : (piped, parts) ∈ node.calls false) {p : Part}
    (hp : p ∈ parts) {inner : Text} (hinner : inner ∈ p.backquoted)
    (hblank : Text.isBlankText inner = false) :
    (∃ e : SyntaxError, Command.ofText line = .error e) ∨
    ∃ c k, Command.ofText line = .ok c ∧ k ∈ c.schedule ∧
      Call.assemble Command.ofText piped parts = .ok k ∧ backquote inner <:+: line ∧
      (parts.any Part.silences = false → k.disqualified = false ∧
        ∃ command before after, Command.ofText inner = .ok command ∧
          k.substitution = some ⟨.parsed command, before, after⟩ ∧
          ∀ (registry : Registry) (pipe : Option (List Text)) (out : Channel) (shell : Shell),
            ∀ streams, splitRedirections k.redirections = .ok streams →
              executePiped registry (.call k) pipe out shell =
                ((execute registry command {} shell).feed fun output shell =>
                  dispatchCall registry streams pipe shell
                    (before ++ Text.flatten output.joined ++ after)).behind out) ∧
      (parts.any Part.silences = true → k.disqualified = true ∧ backquote inner <:+: k.text ∧
        ∀ command before after, k.substitution ≠ some ⟨.parsed command, before, after⟩) := by
  cases hline : Command.ofText line with
  | error e => exact Or.inl ⟨e, rfl⟩
  | ok c =>
      have hcan := (Node.canonicalList_of_calls (Node.canonical_of_parse hnode) _ hcall).1
      have hspans : inner ∈ parts.flatMap Part.backquoted :=
        List.mem_flatMap.mpr ⟨p, hp, hinner⟩
      obtain ⟨k, hk, hmem⟩ := Command.mem_schedule_of_ofText hnode hline hcall
      have hinline := Part.infix_line_of_backquoted hnode hcall hp hinner
      refine Or.inr ⟨c, k, rfl, ?_, hk, hinline, ?_, ?_⟩
      · cases hs : parts.any Part.silences with
        | true =>
            obtain ⟨_, _, _, _, _, hsub⟩ := Call.disqualified_of_assemble hcan hk hs
            exact hmem (Command.isEmptyCall_of_substitution hsub)
        | false =>
            obtain ⟨_, _, _, _, _, hsub⟩ := Call.parsed_of_assemble hcan hk hs hspans hblank
            exact hmem (Command.isEmptyCall_of_substitution hsub)
      · intro hs
        obtain ⟨hd, command, before, after, hcommand, hsub⟩ :=
          Call.parsed_of_assemble hcan hk hs hspans hblank
        refine ⟨hd, command, before, after, hcommand, hsub, ?_⟩
        intro registry pipe out shell streams hstreams
        rw [executePiped, Command.exec_of_parsed hsub hd hstreams]
        rfl
      · intro hs
        obtain ⟨htext, hd, text, before, after, hsub⟩ := Call.disqualified_of_assemble hcan hk hs
        refine ⟨hd, ?_, by simp [hsub]⟩
        rw [htext]
        exact Part.infix_trim_unwrapped hp hinner

/-- Single quotes that stand in double quotes silence nothing. -/
theorem executable_span_in_double :
    ∃ c k command before after, Command.ofText "echo \"'`pwd`'\"".toList = .ok c ∧
      k ∈ c.schedule ∧ k.disqualified = false ∧ Command.ofText "pwd".toList = .ok command ∧
      k.substitution = some ⟨.parsed command, before, after⟩ := by
  let contents : Quotation :=
    .span .single (.span .back (.text "pwd".toList .done) .done) .done
  let parts : List Part := [.literal "echo ".toList, .quoted .double contents]
  have hnode : Node.parse "echo \"'`pwd`'\"".toList = .ok (.call parts) := rfl
  have hpwd : Node.parse "pwd".toList = .ok (.call [.literal "pwd".toList]) := rfl
  have hinner : Command.ofText "pwd".toList = .ok (.call ⟨"pwd".toList, [], none, false⟩) := by
    rw [Command.ofText_eq, hpwd]
    rfl
  have hline : Command.ofText "echo \"'`pwd`'\"".toList = .ok (.call
      ⟨"echo '`pwd`'".toList, [], some ⟨.parsed (.call ⟨"pwd".toList, [], none, false⟩),
        "echo '".toList, "'".toList⟩, false⟩) := by
    have hgather : Draft.gather false parts =
        .ok (⟨"echo '`pwd`'".toList, some "pwd".toList, 1, false⟩, []) := rfl
    have hsub : Draft.substitution Command.ofText ⟨"echo '`pwd`'".toList, some "pwd".toList, 1,
        false⟩ = .ok (some ⟨.parsed (.call ⟨"pwd".toList, [], none, false⟩),
          "echo '".toList, "'".toList⟩) := by
      simp only [Draft.substitution, hinner]
      rfl
    rw [Command.ofText_eq, hnode]
    show Node.assembleStage Command.ofText false _ = _
    simp only [Node.assembleStage, Call.assemble, hgather, hsub]
    rfl
  rcases executable_span_runs hnode (show (false, parts) ∈ _ by simp [Node.calls])
    (show .quoted .double contents ∈ parts by simp [parts]) (show "pwd".toList ∈ _ by decide) rfl with
    ⟨e, he⟩ | ⟨c, k, hc, hmem, _, _, hruns, _⟩
  · rw [hline] at he
    cases he
  · obtain ⟨hd, command, before, after, hcommand, hsub, _⟩ := hruns rfl
    exact ⟨c, k, command, before, after, hc, hmem, hd, hcommand, hsub⟩

/-- Beside a span under single quotes, one that stands alone is printed as text. -/
theorem executable_span_beside_silenced :
    ∃ k, Node.parse "echo '`x`' `echo b`".toList = .ok (.call
        [.literal "echo ".toList, .quoted .single (.span .back (.text "x".toList .done) .done),
          .literal " ".toList, .quoted .back (.text "echo b".toList .done)]) ∧
      Command.ofText "echo '`x`' `echo b`".toList = .ok (.call k) ∧
      k.disqualified = true ∧
      (runLine (.ofConfig {}) "echo '`x`' `echo b`".toList {} ⟨⟨{}, [], none⟩, [], []⟩).effect =
        ⟨.ok (), ⟨["`x` `echo b`\n".toList]⟩, ⟨{}, [], none⟩, []⟩ := by
  have hnode : Node.parse "echo '`x`' `echo b`".toList = .ok (.call
      [.literal "echo ".toList, .quoted .single (.span .back (.text "x".toList .done) .done),
        .literal " ".toList, .quoted .back (.text "echo b".toList .done)]) := rfl
  have hline : Command.ofText "echo '`x`' `echo b`".toList = .ok (.call
      ⟨"echo `x` `echo b`".toList, [], some ⟨.raw "echo b".toList, "echo `x` ".toList, []⟩,
        true⟩) := by
    rw [Command.ofText_eq, hnode]
    rfl
  refine ⟨_, hnode, hline, rfl, ?_⟩
  rw [runLine_eq, runText, hline]
  rfl

end Shell

end LineShell
