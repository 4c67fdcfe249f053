import LineShell.Proofs.Line.Enclosed
import LineShell.Proofs.Shell.Pipelines
import Mathlib.Tactic.Common

/-!
# What `echo` prints of a quoted span

`echo` takes the rest of its command line as it is, so a line that calls it with one quoted span
shows what becomes of the span on the way there.

**Backquotes.**  The span runs as a line of its own would.  What it writes becomes one line, and
no blank of it is lost: the blanks of a substitution are put in after its call has been trimmed.

**Other quotes.**  The span is printed as it is written, operators and line breaks included, but
for the blanks at its end: its call is trimmed after the quotes have been dropped.
-/

namespace LineShell

/-! ## Texts -/

namespace Text

/-- A marker is found where its first character stands first. -/
lemma splitOnce_append {c : Char} {before : Text} (h : c ∉ before) (marker after : Text) :
    splitOnce (c :: marker) (before ++ c :: (marker ++ after)) = some (before, after) := by
  induction before with
  | nil => simp [splitOnce]
  | cons d ds ih =>
      have hd : c ≠ d := fun hd => h (by simp [hd])
      have hds : c ∉ ds := fun hc => h (by simp [hc])
      simp [splitOnce, hd, ih hds]

/-- The blank behind the name is trimmed off only if nothing but blanks follows it. -/
lemma trim_echo {kept blanks : Text} (hkept : ∀ c ∈ kept.getLast?, isBlank c = false)
    (hblanks : ∀ c ∈ blanks, isBlank c = true) :
    (kept = [] ∧ trim ("echo ".toList ++ (kept ++ blanks)) = "echo".toList) ∨
      trim ("echo ".toList ++ (kept ++ blanks)) = "echo ".toList ++ kept := by
  have hstart : trimStart ("echo ".toList ++ (kept ++ blanks)) =
      "echo ".toList ++ (kept ++ blanks) := rfl
  rw [trim, hstart]
  cases kept with
  | nil =>
      refine Or.inl ⟨rfl, ?_⟩
      have hsplit : "echo ".toList ++ ([] ++ blanks) = "echo".toList ++ ' ' :: blanks := rfl
      have hname : ∀ c ∈ "echo".toList.getLast?, isBlank c = false := by
        intro c hc
        obtain rfl : 'o' = c := by simpa using hc
        decide
      rw [hsplit]
      exact trimEnd_append (by simp) hname (List.forall_mem_cons.mpr ⟨by decide, hblanks⟩)
  | cons c cs =>
      have hlast : ∀ d ∈ ("echo ".toList ++ c :: cs).getLast?, isBlank d = false := by
        rwa [List.getLast?_append_of_ne_nil _ (List.cons_ne_nil c cs)]
      rw [← List.append_assoc]
      exact Or.inr (trimEnd_append (by simp) hlast hblanks)

/-- One newline at the end of a text is dropped, the others become spaces. -/
lemma exists_flatten (s : Text) :
    ∃ body, (s = body ++ ['\n'] ∨ s = body ∧ body.getLast? ≠ some '\n') ∧
      flatten s = body.map fun c => if c = '\n' then ' ' else c := by
  cases h : endsLine s with
  | true =>
      obtain ⟨body, rfl⟩ := List.getLast?_eq_some_iff.mp (beq_iff_eq.mp h)
      exact ⟨body, Or.inl rfl, by simp [flatten, h]⟩
  | false =>
      refine ⟨s, Or.inr ⟨rfl, ?_⟩, by simp [flatten, h]⟩
      simpa [endsLine] using h

lemma mem_of_mem_flatten {c : Char} {s : Text} (hc : c ≠ ' ') (h : c ∈ flatten s) : c ∈ s := by
  obtain ⟨d, hd, rfl⟩ := List.mem_map.mp h
  have hs : d ∈ s := by
    split_ifs at hd
    · exact List.dropLast_subset s hd
    · exact hd
  split_ifs with hnewline
  · exact absurd (if_pos hnewline) hc
  · exact hs

end Text

/-! ## Lines -/

lemma Quotation.backquoted_of_not_mem {q : Quotation} (h : '`' ∉ q.render) :
    q.backquoted = [] := by
  by_contra hne
  exact h (backquote_mem_render hne)

/-- `echo` and a quoted span behind it. -/
def Part.echoed (kind : Quote) (q : Quotation) : List Part :=
  [.literal "echo ".toList, .quoted kind q]

namespace Part

variable {kind : Quote} {q : Quotation}

lemma canonical_echo : (literal "echo ".toList).Canonical := by
  simp [Canonical, isSpecial]

lemma canonical_echoed (hq : q.Canonical kind) : ∀ p ∈ echoed kind q, p.Canonical := by
  intro p hp
  rcases List.mem_pair.mp hp with rfl | rfl
  · exact canonical_echo
  · exact hq

lemma unwrapped_echoed : (echoed kind q).flatMap unwrapped =
    "echo ".toList ++ if kind = .back then Quote.back.enclose q.render else q.render := by
  cases kind <;> exact congrArg ("echo ".toList ++ ·) (List.append_nil _)

lemma backquoted_echoed (h : '`' ∉ q.render) :
    (echoed kind q).flatMap backquoted = if kind = .back then [q.render] else [] := by
  simp [echoed, backquoted, Quotation.backquoted_of_not_mem h]

lemma silences_echoed (h : '`' ∉ q.render) : (echoed kind q).any silences = false := by
  have hcount := Quotation.backquoted_eq_nil_iff.mp (Quotation.backquoted_of_not_mem h)
  simp [echoed, silences, hcount]

lemma gathers_echoed (h : '`' ∉ q.render) : Gathers false (echoed kind q) where
  nests := by
    have hcount := Quotation.backquoted_eq_nil_iff.mp (Quotation.backquoted_of_not_mem h)
    simp [echoed, nests, hcount]
  output := by simp
  single _ := by
    rw [backquoted_echoed h]
    split_ifs <;> simp

end Part

namespace Command

/-- The line is the one call that its parts make up. -/
lemma ofText_echoed {kind : Quote} {q : Quotation} (hq : q.Canonical kind) (hback : '`' ∉ q.render)
    {substitution : Option (Substitution Command)}
    (hsub : (({} : Draft).extendBy (Part.echoed kind q)).substitution ofText = .ok substitution) :
    ofText ("echo ".toList ++ kind.enclose q.render) =
      .ok (.call ⟨Text.trim ((Part.echoed kind q).flatMap Part.unwrapped), [], substitution,
        false⟩) := by
  have hnode : Node.parse ("echo ".toList ++ kind.enclose q.render) =
      .ok (.call (Part.echoed kind q)) := Node.parse_literal_enclosed Part.canonical_echo hq
  have hcall : Call.assemble ofText false (Part.echoed kind q) =
      .ok ⟨Text.trim ((Part.echoed kind q).flatMap Part.unwrapped), [], substitution, false⟩ := by
    refine (Call.assemble_eq_ok_iff (Part.canonical_echoed hq)).mpr
      ⟨Part.gathers_echoed hback, substitution, hsub, ?_⟩
    rw [Part.silences_echoed hback]
    rfl
  rw [ofText_eq, hnode]
  show Node.assembleStage ofText false _ = _
  rw [Node.assembleStage, hcall]

/-- In backquotes, a line is the substitution of the call. -/
lemma ofText_echo_back {a : Text} {c : Command} (ha : '`' ∉ a) (hc : ofText a = .ok c) :
    ∃ text, ofText ("echo ".toList ++ Quote.back.enclose a) =
      .ok (.call ⟨text, [], some ⟨.parsed c, "echo ".toList, []⟩, false⟩) := by
  obtain ⟨node, hnode, _⟩ := exists_node_of_ofText hc
  have hdelimiter : Quote.back.delimiter ∉ a := ha
  obtain ⟨q, hq, rfl⟩ := Quotation.exists_render (Node.closed_of_parse hnode) hdelimiter
  have hblank : Text.isBlankText q.render = false := (Node.parse_eq_ok_iff.mp hnode).1
  have haround : (({} : Draft).extendBy (Part.echoed .back q)).around q.render =
      ("echo ".toList, []) := by
    have htext : (({} : Draft).extendBy (Part.echoed .back q)).text =
        "echo ".toList ++ '`' :: ((q.render ++ ['`']) ++ []) := by
      rw [List.append_nil]
      exact Part.unwrapped_echoed
    have hname : '`' ∉ "echo ".toList := by decide
    rw [Draft.around, htext, Text.splitOnce_append hname (q.render ++ ['`']) []]
    rfl
  have hsub : (({} : Draft).extendBy (Part.echoed .back q)).substitution ofText =
      .ok (some ⟨.parsed c, "echo ".toList, []⟩) := by
    rw [Draft.substitution_of_backquoted_eq_singleton (Part.silences_echoed ha)
      (Part.backquoted_echoed ha), hblank, hc, haround]
    rfl
  exact ⟨_, ofText_echoed hq ha hsub⟩

/-- In other quotes, a text is the rest of the call. -/
lemma ofText_echo_quoted {kind : Quote} (hkind : kind ≠ .back) {t : Text}
    (ht : ∀ k : Quote, k.delimiter ∉ t) :
    ofText ("echo ".toList ++ kind.enclose t) =
      .ok (.call ⟨Text.trim ("echo ".toList ++ t), [], none, false⟩) := by
  obtain ⟨q, hq, rfl⟩ := Quotation.exists_render (Quote.foldl_nest_of_forall ht []) (ht kind)
  have hspans : (Part.echoed kind q).flatMap Part.backquoted = [] := by
    rw [Part.backquoted_echoed (ht .back), if_neg hkind]
  have htext : (Part.echoed kind q).flatMap Part.unwrapped = "echo ".toList ++ q.render := by
    rw [Part.unwrapped_echoed, if_neg hkind]
  rw [← htext]
  exact ofText_echoed hq (ht .back) (Draft.substitution_of_backquoted_eq_nil hspans)

end Command

/-! ## Printing -/

/-- A text without a star is printed as it is. -/
lemma runEcho_of_not_mem {t : Text} (ht : '*' ∉ t) (host : Host) (input : Input) :
    runEcho host input [t] = .success host input [t ++ ['\n']] := by
  simp [runEcho, Text.join, ht]

/-- `echo` prints what follows its name and one character. -/
lemma effect_dispatchCall_echo {registry : Registry}
    (hecho : registry.get? "echo".toList = some (.plain .echo)) {cmdline rest t : Text}
    (hsplit : splitCommand cmdline = ("echo".toList, rest)) (hrest : rest.drop 1 = t)
    (ht : '*' ∉ t) (piped : Option (List Text)) (s : Shell) :
    (dispatchCall registry {} piped s cmdline).effect =
      ⟨.ok (), ⟨[t ++ ['\n']]⟩, s.host, s.stdin⟩ := by
  have happ : ∀ input : Input, (runApplication registry s.host input {} cmdline) =
      ⟨.ok (), ⟨[t ++ ['\n']]⟩, input, s.host,
        [.dispatched cmdline (some ("echo".toList, [t]))]⟩ := by
    intro input
    have hargs : arguments (Application.plain .echo).isRaw rest = [t] := by
      rw [← hrest]
      rfl
    have hrun : (Application.plain .echo).run s.host input [t] =
        .success s.host input [t ++ ['\n']] := runEcho_of_not_mem ht s.host input
    simp only [runApplication, hsplit, hecho, hargs, hrun]
    rfl
  simp only [dispatchCall, dispatch, happ, Run.effect]

lemma effect_dispatchCall_echo_append {registry : Registry}
    (hecho : registry.get? "echo".toList = some (.plain .echo)) {t : Text} (ht : '*' ∉ t)
    (piped : Option (List Text)) (s : Shell) :
    (dispatchCall registry {} piped s ("echo ".toList ++ t)).effect =
      ⟨.ok (), ⟨[t ++ ['\n']]⟩, s.host, s.stdin⟩ := by
  have hsplit : splitCommand ("echo ".toList ++ t) = ("echo".toList, ' ' :: t) := rfl
  exact effect_dispatchCall_echo hecho hsplit rfl ht piped s

lemma Run.effect_behind_eq {r : Run} {e : Effect} (h : r.effect = e) (out : Channel) :
    (r.behind out).effect = { e with output := out.append e.output } := by
  subst h
  rfl

namespace Shell

/-- A line does what its command does, behind what has been written before. -/
lemma effect_runLine {registry : Registry} {line : Text} {c : Command}
    (h : Command.ofText line = .ok c) (out : Channel) (shell : Shell) :
    (runLine registry line out shell).effect =
      ((c.exec registry (runText registry) none shell).behind out).effect :=
  (Run.effect_behind (alike_runText h ⟨rfl, rfl⟩).1 out).symm

/-- **Substitution.**  A line without backquotes runs between them as it does by itself.  If it
    fails, `echo` is not called and nothing is written.  Else `echo` prints what the line has
    written on one line of its own: the newline at its end is dropped and the others become
    spaces, and nothing else is changed. -/
theorem runLine_echo_substitution (registry : Registry)
    (hecho : registry.get? "echo".toList = some (.plain .echo)) {a : Text} {c : Command}
    (ha : '`' ∉ a) (hc : Command.ofText a = .ok c) (out : Channel) (shell : Shell) :
    let first := runLine registry a {} shell
    let r := runLine registry ("echo ".toList ++ Quote.back.enclose a) out shell
    (∀ e, first.result = .error e →
      r.effect = ⟨.error e, out, first.shell.host, first.shell.stdin⟩) ∧
    (first.result = .ok () → '*' ∉ first.output.joined →
      ∃ body : Text,
        (first.output.joined = body ++ ['\n'] ∨
          first.output.joined = body ∧ body.getLast? ≠ some '\n') ∧
        r.effect = ⟨.ok (),
          ⟨out.fragments ++ [body.map (fun c => if c = '\n' then ' ' else c) ++ ['\n']]⟩,
          first.shell.host, first.shell.stdin⟩) := by
  intro first r
  obtain ⟨text, hline⟩ := Command.ofText_echo_back ha hc
  have hstreams : splitRedirections [] = .ok {} := rfl
  -- the call runs the line as it runs by itself, the journal aside
  have hr : r.effect = ((first.feed fun output s =>
      dispatchCall registry {} none s (splice "echo ".toList output [])).behind out).effect := by
    rw [effect_runLine hline, Command.exec_of_parsed rfl rfl hstreams]
    refine Run.effect_behind (Run.effect_feed ?_ fun _ _ _ => ?_) out
    · exact (alike_runText hc ⟨rfl, rfl⟩).1
    · exact effect_dispatchCall registry {} _ rfl
  rw [hr]
  refine ⟨fun e he => ?_, fun hok hstar => ?_⟩
  · simp [Run.feed, he, Run.fail, Run.behind, Run.effect]
  · obtain ⟨body, hbody, hflat⟩ := Text.exists_flatten first.output.joined
    refine ⟨body, hbody, ?_⟩
    have hplain : '*' ∉ Text.flatten first.output.joined :=
      fun h => hstar (Text.mem_of_mem_flatten (by decide) h)
    have hprint := effect_dispatchCall_echo_append hecho hplain none first.shell
    have hsplice : splice "echo ".toList first.output [] =
        "echo ".toList ++ Text.flatten first.output.joined := List.append_nil _
    simp only [Run.feed, hok, hsplice]
    rw [Run.effect_behind_eq hprint, hflat]
    rfl

/-- Quoted operators and blanks in front get through; what was written before a failure does
    not. -/
theorem runLine_echo_substitution_nested :
    let registry : Registry := ⟨[("echo".toList, .plain .echo), ("cat".toList, .plain .cat)]⟩
    let shell : Shell := ⟨⟨{}, [], none⟩, [], []⟩
    (runLine registry
      ("echo ".toList ++ Quote.back.enclose "echo \"  b 'c|'\";echo '  ;d'|cat".toList)
      ⟨["x\n".toList]⟩ shell).effect =
        ⟨.ok (), ⟨["x\n".toList, "  b 'c|'   ;d\n".toList]⟩, ⟨{}, [], none⟩, []⟩ ∧
    (runLine registry ("echo ".toList ++ Quote.back.enclose "echo b;nosuch".toList)
      ⟨["x\n".toList]⟩ shell).effect =
        ⟨.error (.unknownApplication "nosuch".toList), ⟨["x\n".toList]⟩, ⟨{}, [], none⟩, []⟩ := by
  intro registry shell
  constructor
  · have hnode : Node.parse "echo \"  b 'c|'\";echo '  ;d'|cat".toList = .ok (.sequence
        [.call [.literal "echo ".toList, .quoted .double
            (.text "  b ".toList (.span .single (.text "c|".toList .done) .done))],
          .pipeline [.call [.literal "echo ".toList, .quoted .single (.text "  ;d".toList .done)],
            .call [.literal "cat".toList]]]) := rfl
    have hc : Command.ofText "echo \"  b 'c|'\";echo '  ;d'|cat".toList = .ok (.sequence
        [.call { text := "echo   b 'c|'".toList },
          .pipeline [.call { text := "echo   ;d".toList }, .call { text := "cat".toList }]]) := by
      rw [Command.ofText_eq, hnode]
      rfl
    have hfirst : (runLine registry "echo \"  b 'c|'\";echo '  ;d'|cat".toList {} shell).effect =
        ⟨.ok (), ⟨["  b 'c|'\n".toList, "  ;d\n".toList]⟩, ⟨{}, [], none⟩, []⟩ := by
      rw [effect_runLine hc]
      rfl
    obtain ⟨hok, houtput, hhost, hstdin⟩ := Effect.mk.inj hfirst
    obtain ⟨body, hbody, heffect⟩ := (runLine_echo_substitution registry rfl (by decide) hc
      ⟨["x\n".toList]⟩ shell).2 hok (by rw [houtput]; decide)
    obtain rfl : body = "  b 'c|'\n  ;d".toList := by
      rw [houtput] at hbody
      rcases hbody with h | ⟨rfl, hlast⟩
      · exact List.append_cancel_right (h.symm.trans rfl)
      · exact absurd rfl hlast
    rw [heffect, hhost, hstdin]
    rfl
  · have hnode : Node.parse "echo b;nosuch".toList = .ok (.sequence
        [.call [.literal "echo b".toList], .call [.literal "nosuch".toList]]) := rfl
    have hc : Command.ofText "echo b;nosuch".toList = .ok (.sequence
        [.call { text := "echo b".toList }, .call { text := "nosuch".toList }]) := by
      rw [Command.ofText_eq, hnode]
      rfl
    have hfirst : (runLine registry "echo b;nosuch".toList {} shell).effect =
        ⟨.error (.unknownApplication "nosuch".toList), ⟨["b\n".toList]⟩, ⟨{}, [], none⟩, []⟩ := by
      rw [effect_runLine hc]
      rfl
    obtain ⟨herror, _, hhost, hstdin⟩ := Effect.mk.inj hfirst
    rw [(runLine_echo_substitution registry rfl (by decide) hc ⟨["x\n".toList]⟩ shell).1 _ herror,
      hhost, hstdin]

/-- **Quoted text.**  A text without quotes and stars is printed as it stands between single or
    double quotes, but for the blanks at its end. -/
theorem runLine_echo_quoted (registry : Registry)
    (hecho : registry.get? "echo".toList = some (.plain .echo)) {t : Text}
    (hquotes : ∀ kind : Quote, kind.delimiter ∉ t) (hstar : '*' ∉ t) :
    ∃ kept blanks : Text, t = kept ++ blanks ∧ (∀ c ∈ kept.getLast?, isBlank c = false) ∧
      (∀ c ∈ blanks, isBlank c = true) ∧
      ∀ kind : Quote, kind ≠ .back → ∀ (out : Channel) (shell : Shell),
        (runLine registry ("echo ".toList ++ kind.enclose t) out shell).effect =
          ⟨.ok (), ⟨out.fragments ++ [kept ++ ['\n']]⟩, shell.host, shell.stdin⟩ := by
  obtain ⟨kept, blanks, rfl, hkept, hblanks⟩ := Text.exists_trimEnd t
  refine ⟨kept, blanks, rfl, hkept, hblanks, fun kind hkind out shell => ?_⟩
  have hline := Command.ofText_echo_quoted hkind hquotes
  have hplain : '*' ∉ kept := fun h => hstar (List.mem_append_left blanks h)
  have hprint : (dispatchCall registry {} none shell
      (Text.trim ("echo ".toList ++ (kept ++ blanks)))).effect =
        ⟨.ok (), ⟨[kept ++ ['\n']]⟩, shell.host, shell.stdin⟩ := by
    rcases Text.trim_echo hkept hblanks with ⟨rfl, htrim⟩ | htrim
    · have hsplit : splitCommand "echo".toList = ("echo".toList, []) := rfl
      rw [htrim]
      exact effect_dispatchCall_echo hecho hsplit rfl hplain none shell
    · rw [htrim]
      exact effect_dispatchCall_echo_append hecho hplain none shell
  rw [effect_runLine hline, Command.exec_of_literal (.inl rfl)]
  exact Run.effect_behind_eq hprint out

/-- Operators, a line break and blanks in front are kept. -/
theorem runLine_echo_quoted_operators :
    let registry : Registry := ⟨[("echo".toList, .plain .echo)]⟩
    let shell : Shell := ⟨⟨{}, [], none⟩, [], []⟩
    let printed : Effect :=
      ⟨.ok (), ⟨["x\n".toList, "  a | b;\n  c>d\n".toList]⟩, ⟨{}, [], none⟩, []⟩
    (runLine registry ("echo ".toList ++ Quote.single.enclose "  a | b;\n  c>d".toList)
      ⟨["x\n".toList]⟩ shell).effect = printed ∧
    (runLine registry ("echo ".toList ++ Quote.double.enclose "  a | b;\n  c>d".toList)
      ⟨["x\n".toList]⟩ shell).effect = printed := by
  intro registry shell printed
  have hquotes : ∀ k : Quote, k.delimiter ∉ "  a | b;\n  c>d".toList := by
    intro k
    cases k <;> decide
  obtain ⟨kept, blanks, ht, _, hblanks, hrun⟩ :=
    runLine_echo_quoted registry rfl hquotes (by decide)
  obtain rfl : blanks = [] := by
    by_contra hne
    have hlast := congrArg List.getLast? ht
    rw [List.getLast?_append_of_ne_nil kept hne] at hlast
    exact absurd (hblanks 'd' (List.mem_of_getLast? hlast.symm)) (by decide)
  obtain rfl : "  a | b;\n  c>d".toList = kept := by rw [ht, List.append_nil]
  exact ⟨hrun .single (by decide) _ shell, hrun .double (by decide) _ shell⟩

/-- A blank at the end of a quoted text is lost. -/
theorem runLine_echo_quoted_trailing :
    let r := runLine (.ofConfig {}) ("echo ".toList ++ Quote.single.enclose "a ".toList) {}
      ⟨⟨{}, [], none⟩, [], []⟩
    r.effect = ⟨.ok (), ⟨["a\n".toList]⟩, ⟨{}, [], none⟩, []⟩ ∧
      r.output ≠ ⟨["a ".toList ++ ['\n']]⟩ := by
  intro r
  have hquotes : ∀ k : Quote, k.delimiter ∉ "a ".toList := by
    intro k
    cases k <;> decide
  have hline : Command.ofText ("echo ".toList ++ Quote.single.enclose "a ".toList) =
      .ok (.call { text := "echo a".toList }) := Command.ofText_echo_quoted (by decide) hquotes
  have hr : r.effect = ⟨.ok (), ⟨["a\n".toList]⟩, ⟨{}, [], none⟩, []⟩ := by
    rw [effect_runLine hline]
    rfl
  obtain ⟨_, houtput, _, _⟩ := Effect.mk.inj hr
  refine ⟨hr, ?_⟩
  rw [houtput]
  decide

end Shell

end LineShell
