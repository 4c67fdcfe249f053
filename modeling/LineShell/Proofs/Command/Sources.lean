import LineShell.Proofs.Command.Descent
import Mathlib.Tactic.Common

/-!
# What a substitution was read from

**Quotations.**  Rebuilding a quotation gives back what was written, delimiters of inner spans
included at any depth, and counts its backquoted spans (`Draft.rebuild_verbatim`).

**Lines.**  A call that runs a substitution has two backquotes in its source and no others: they
delimit the only backquoted span, and no literal, target or other quotation of a line holds one
(`Part.count_flatMap_render`).  The command that runs is what is read from the text between the
two, and that text stands in the line as it was written (`Part.Between`).
-/

namespace LineShell

/-! ## Quotations -/

/-- **A quotation is rebuilt as it was written**, and its backquoted spans are counted. -/
lemma Draft.rebuild_verbatim {outermost enclosing : Quote} {contents : Quotation} {d : Draft}
    (h : rebuild outermost enclosing {} contents = .ok d) :
    d.text = contents.render ∧ d.count = contents.backCount := by
  obtain ⟨_, rfl⟩ := extend_of_rebuild h
  simp [extend]

/-! ## Backquotes in the source -/

/-- The backquotes of a quotation are the delimiters of its backquoted spans. -/
lemma Quotation.count_render {q : Quotation} : ∀ {enclosing : Quote}, q.Canonical enclosing →
    q.render.count '`' = 2 * q.backCount := by
  induction q with
  | done => intro enclosing _; rfl
  | text run rest ih =>
      rintro enclosing ⟨_, hrun, _, hrest⟩
      have hnone : run.count '`' = 0 := by
        rw [List.count_eq_zero]
        intro hmem
        exact backquote_ne_of_ofChar? (hrun _ hmem) rfl
      rw [render, backCount, List.count_append, hnone, ih hrest]
      omega
  | span kind inner rest ihInner ihRest =>
      rintro enclosing ⟨_, hinner, hrest⟩
      have hi := ihInner hinner
      have hr := ihRest hrest
      by_cases hkind : kind = .back
      · subst hkind
        simp only [render, backCount, Quote.delimiter, List.count_cons_self, List.count_append]
        simp only [if_true]
        omega
      · have hne : kind.delimiter ≠ '`' := fun hd => hkind (delimiter_eq_backquote_iff.mp hd)
        simp only [render, backCount, List.count_cons_of_ne hne, List.count_append, if_neg hkind]
        omega

namespace Part

variable {parts : List Part} {inner : Text}

lemma count_render {p : Part} (hp : p.Canonical) :
    p.render.count '`' = 2 * p.backquoted.length := by
  cases p with
  | literal run =>
      have hnone : '`' ∉ run := fun hmem => by simpa [isSpecial] using hp.2 _ hmem
      simp [render, backquoted, List.count_eq_zero.mpr hnone]
  | redirect op target =>
      have hnone : '`' ∉ target := fun hmem => by simpa [isSpecial] using (hp.2 _ hmem).2
      have hsymbol : '`' ∉ op.symbol := by cases op <;> decide
      simp [render, backquoted, List.count_eq_zero.mpr hnone, List.count_eq_zero.mpr hsymbol]
  | quoted kind contents =>
      have hcontents := Quotation.count_render hp
      by_cases hkind : kind = .back
      · subst hkind
        simp only [render, backquoted, Quote.delimiter, List.count_cons_self, List.count_append,
          List.length_append, Quotation.length_backquoted, if_true, List.length_singleton,
          List.count_nil]
        omega
      · have hne : kind.delimiter ≠ '`' := fun hd =>
          hkind (Quotation.delimiter_eq_backquote_iff.mp hd)
        simp only [render, backquoted, List.count_cons_of_ne hne, List.count_append,
          List.length_append, Quotation.length_backquoted, if_neg hkind, List.length_nil,
          List.count_nil]
        omega

/-- The backquotes of a call are the delimiters of its backquoted spans. -/
lemma count_flatMap_render (hcan : ∀ p ∈ parts, p.Canonical) :
    (parts.flatMap render).count '`' = 2 * (parts.flatMap backquoted).length := by
  induction parts with
  | nil => rfl
  | cons p rest ih =>
      obtain ⟨hp, hrest⟩ := List.forall_mem_cons.mp hcan
      rw [List.flatMap_cons, List.flatMap_cons, List.count_append, List.length_append,
        count_render hp, ih hrest]
      omega

/-- `inner` is the text between the two backquotes of a call in a line: the source of the call has
    no others, and the quoted span with the two stands in the line as it was written. -/
structure Between (line : Text) (parts : List Part) (inner : Text) : Prop where
  source : ∃ front back, parts.flatMap render = front ++ backquote inner ++ back ∧
    '`' ∉ front ∧ '`' ∉ back
  plain : '`' ∉ inner
  written : ∃ kind contents, quoted kind contents ∈ parts ∧
    backquote inner <:+: (quoted kind contents).render ∧
    (quoted kind contents).render <:+: line

/-- The only backquoted span of a call of a line is what stands between its two backquotes. -/
lemma between_of_backquoted {line : Text} {node : Node} (hnode : Node.parse line = .ok node)
    {piped : Bool} (hx : (piped, parts) ∈ node.calls false)
    (hspans : parts.flatMap backquoted = [inner]) : Between line parts inner := by
  have hcan := Node.canonicalList_of_calls (Node.canonical_of_parse hnode) _ hx
  have hinner : inner ∈ parts.flatMap backquoted := by simp [hspans]
  obtain ⟨front, back, hcut⟩ := (infix_of_backquoted hinner).1
  -- two backquotes are all that the source has
  have hcount := count_flatMap_render hcan.1
  rw [← hcut, hspans, List.count_append, List.count_append, backquote, List.count_cons_self,
    List.count_append, List.count_singleton_self, List.length_singleton] at hcount
  refine ⟨⟨front, back, hcut.symm, ?_, ?_⟩, ?_, ?_⟩
  · exact List.count_eq_zero.mp (by omega)
  · exact List.count_eq_zero.mp (by omega)
  · exact List.count_eq_zero.mp (by omega)
  · obtain ⟨p, hp, hmem⟩ := List.mem_flatMap.mp hinner
    cases p with
    | literal run => cases hmem
    | redirect op target => cases hmem
    | quoted kind contents =>
        exact ⟨kind, contents, hp, infix_render_of_backquoted hmem,
          Node.quotedIn_of_parse hnode _ hx kind contents hp⟩

/-- What a call has to run is its only backquoted span. -/
lemma backquoted_of_runnable {piped : Bool} (hgathers : Gathers piped parts)
    (h : (({} : Draft).extendBy parts).runnable? = some inner) :
    parts.flatMap backquoted = [inner] := by
  obtain ⟨hpending, hruns⟩ := Option.filter_eq_some_iff.mp h
  have hsilences : parts.any silences = false := by
    simp only [Bool.and_eq_true, Bool.not_eq_true'] at hruns
    simpa [Draft.extendBy, Draft.extend] using hruns.1
  exact hgathers.backquoted_eq_singleton hsilences (Draft.mem_backquoted_of_pending hpending)

end Part

/-! ## Lines -/

/-- What a call of a line runs has been read from the text between its two backquotes. -/
lemma Call.between_of_parsed {line : Text} {node : Node} (hnode : Node.parse line = .ok node)
    {x : Bool × List Part} (hx : x ∈ node.calls false) {k : Call Command}
    (h : Call.assemble Command.ofText x.1 x.2 = .ok k) {command : Command} {before after : Text}
    (hparsed : k.substitution = some ⟨.parsed command, before, after⟩) :
    ∃ inner, Part.Between line x.2 inner ∧ Command.ofText inner = .ok command := by
  obtain ⟨d, rs, inner, hgather, hrunnable, hread⟩ := Call.exists_read_of_parsed h hparsed
  obtain ⟨hgathers, rfl, rfl⟩ := Draft.gathers_of_gather hgather
  have hspans := Part.backquoted_of_runnable hgathers hrunnable
  exact ⟨inner, Part.between_of_backquoted hnode hx hspans, hread⟩

/-- **Quoted text is kept as it was written, and that is what runs.**  A quotation that can be
    rebuilt, in a span of any kind, gives back its source, and its backquoted spans are counted.
    A call of a line that runs a substitution has two backquotes in its source, and the command
    that runs is read from the text between them. -/
theorem Command.substitutions_verbatim :
    (∀ outermost enclosing contents d, Draft.rebuild outermost enclosing {} contents = .ok d →
      d.text = contents.render ∧ d.count = contents.backCount) ∧
    ∀ line c, ofText line = .ok c → ∀ k ∈ c.schedule, ∀ command before after,
      k.substitution = some ⟨.parsed command, before, after⟩ →
      ∃ node piped parts inner, Node.parse line = .ok node ∧
        (piped, parts) ∈ node.calls false ∧ Call.assemble ofText piped parts = .ok k ∧
        Part.Between line parts inner ∧ ofText inner = .ok command := by
  refine ⟨fun _ _ _ _ => Draft.rebuild_verbatim, ?_⟩
  intro line c h k hk command before after hparsed
  obtain ⟨node, hnode, hassemble⟩ := exists_node_of_ofText h
  obtain ⟨x, hx, own, hown, hk⟩ := Node.exists_assemble_of_mem_schedule hassemble hk
  rcases mem_schedule_call_iff.mp hk with rfl | ⟨outer, b, a, houter, hk⟩
  · obtain ⟨inner, hbetween, hread⟩ := Call.between_of_parsed hnode hx hown hparsed
    exact ⟨node, x.1, x.2, inner, hnode, hx, hown, hbetween, hread⟩
  · -- a call that runs in place of a span has no span itself
    obtain ⟨inner, hbetween, hread⟩ := Call.between_of_parsed hnode hx hown houter
    have hplain := isPlain_of_ofText hread hbetween.plain k hk
    rw [hplain.1] at hparsed
    cases hparsed

/-- Single quotes in backquotes in double quotes. -/
theorem Command.substitutions_verbatim_nested :
    (∃ d, Draft.rebuild .double .double {} (.text "x ".toList (.span .back (.text "cat ".toList
        (.span .single (.text "y".toList .done) .done)) (.text " z".toList .done))) = .ok d ∧
      d.text = "x `cat 'y'` z".toList ∧ d.count = 1) ∧
    ∃ k, ofText "echo \"x `cat 'y'` z\"".toList = .ok (.call k) ∧
      k.substitution = some ⟨.parsed (.call ⟨"cat y".toList, [], none, false⟩), "echo x ".toList,
        " z".toList⟩ ∧
      ∃ parts inner, Part.Between "echo \"x `cat 'y'` z\"".toList parts inner ∧
        ofText inner = .ok (.call ⟨"cat y".toList, [], none, false⟩) := by
  have hinner : ofText "cat 'y'".toList = .ok (.call ⟨"cat y".toList, [], none, false⟩) := by
    have hnode : Node.parse "cat 'y'".toList = .ok (.call [.literal "cat ".toList,
        .quoted .single (.text "y".toList .done)]) := rfl
    rw [ofText_eq, hnode]
    rfl
  have hnode : Node.parse "echo \"x `cat 'y'` z\"".toList = .ok (.call [.literal "echo ".toList,
      .quoted .double (.text "x ".toList (.span .back (.text "cat ".toList
        (.span .single (.text "y".toList .done) .done)) (.text " z".toList .done)))]) := rfl
  have hgather : Draft.gather false [.literal "echo ".toList,
      .quoted .double (.text "x ".toList (.span .back (.text "cat ".toList
        (.span .single (.text "y".toList .done) .done)) (.text " z".toList .done)))] =
        .ok (⟨"echo x `cat 'y'` z".toList, some "cat 'y'".toList, 1, false⟩, []) := rfl
  have hsub : Draft.substitution ofText
      ⟨"echo x `cat 'y'` z".toList, some "cat 'y'".toList, 1, false⟩ =
        .ok (some ⟨.parsed (.call ⟨"cat y".toList, [], none, false⟩), "echo x ".toList,
          " z".toList⟩) := by
    simp only [Draft.substitution, hinner]
    rfl
  have hline : ofText "echo \"x `cat 'y'` z\"".toList = .ok (.call
      ⟨"echo x `cat 'y'` z".toList, [], some ⟨.parsed (.call ⟨"cat y".toList, [], none, false⟩),
        "echo x ".toList, " z".toList⟩, false⟩) := by
    rw [ofText_eq, hnode]
    show Node.assembleStage ofText false _ = _
    simp only [Node.assembleStage, Call.assemble, hgather, hsub]
    rfl
  have hrebuild : Draft.rebuild .double .double {} (.text "x ".toList (.span .back
      (.text "cat ".toList (.span .single (.text "y".toList .done) .done))
        (.text " z".toList .done))) =
        .ok ⟨"x `cat 'y'` z".toList, some "cat 'y'".toList, 1, false⟩ := rfl
  obtain ⟨hkept, hread⟩ := substitutions_verbatim
  obtain ⟨_, _, parts, inner, _, _, _, hbetween, hcommand⟩ :=
    hread _ _ hline _ (mem_schedule_call _) _ _ _ rfl
  exact ⟨⟨_, hrebuild, hkept _ _ _ _ hrebuild⟩, _, hline, rfl, parts, inner, hbetween, hcommand⟩

end LineShell
