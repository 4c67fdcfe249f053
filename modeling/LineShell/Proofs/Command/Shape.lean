import LineShell.Proofs.Command.Acceptance
import LineShell.Proofs.Text.Blanks
import Mathlib.Tactic.Common

/-!
# The shape of commands

What the command of a line looks like, whatever the line.

**Schedules.**  `Command.schedule` lists the calls of a command in the order in which they run;
the calls of a substitution stand right before the call that holds it.

**Shapes.**  `Command.WellFormed` has one rule for each kind of command: sequences and pipelines
of two or more, trimmed texts, targets without blanks, text in place of a substitution just when
the call is silenced.  Substitutions do not nest: the command of a substitution has none itself,
because the only backquoted span of a call holds no backquote.
-/

namespace LineShell

/-! ## Schedules -/

namespace Command

mutual

/-- The calls of a command from left to right, those of a substitution before its call. -/
def schedule : Command → List (Call Command)
  | .sequence children => scheduleAll children
  | .pipeline stages => scheduleAll stages
  | .call ⟨text, redirections, some ⟨.parsed command, before, after⟩, disqualified⟩ =>
    schedule command ++
      [⟨text, redirections, some ⟨.parsed command, before, after⟩, disqualified⟩]
  | .call k => [k]

/-- The calls of some commands, one after the other. -/
def scheduleAll : List Command → List (Call Command)
  | [] => []
  | c :: cs => schedule c ++ scheduleAll cs

end

lemma mem_scheduleAll {k : Call Command} {cs : List Command} :
    k ∈ scheduleAll cs ↔ ∃ c ∈ cs, k ∈ c.schedule := by
  induction cs with
  | nil => simp [scheduleAll]
  | cons c cs ih => rw [scheduleAll, List.mem_append, ih, List.exists_mem_cons_iff]

end Command

/-! ## Well-formed commands -/

/-- A call that holds no backquoted span. -/
def Call.IsPlain (k : Call Command) : Prop :=
  k.substitution = none ∧ k.disqualified = false

/-- The shape of the commands of lines. -/
inductive Command.WellFormed : Command → Prop
  | sequence {children : List Command} (two : 2 ≤ children.length)
      (member : ∀ c ∈ children, (∀ cs, c ≠ .sequence cs) ∧ c.isEmptyCall = false)
      (each : ∀ c ∈ children, WellFormed c) : WellFormed (.sequence children)
  | pipeline {stages : List Command} (two : 2 ≤ stages.length)
      (stage : ∀ c ∈ stages, ∃ k, c = .call k)
      (output : ∀ c ∈ stages.dropLast, c.sendsOutput = false)
      (each : ∀ c ∈ stages, WellFormed c) : WellFormed (.pipeline stages)
  | call {k : Call Command} (trimmed : Text.Trimmed k.text)
      (target : ∀ r ∈ k.redirections, r.filename ≠ [] ∧ ∀ c ∈ r.filename, isBlank c = false)
      (silenced : k.disqualified = true ↔
        ∃ text before after, k.substitution = some ⟨.raw text, before, after⟩)
      (parsed : ∀ command before after, k.substitution = some ⟨.parsed command, before, after⟩ →
        k.disqualified = false ∧ (∀ k' ∈ command.schedule, k'.IsPlain))
      (each : ∀ command before after, k.substitution = some ⟨.parsed command, before, after⟩ →
        WellFormed command) : WellFormed (.call k)

/-! ## Texts without backquotes -/

lemma Text.mem_tidyFrom {c : Char} {text : Text} : ∀ {stack : List Quote} {skipping : Bool},
    c ∈ tidyFrom stack skipping text → c ∈ text ∨ c = ' ' := by
  induction text with
  | nil => intro stack skipping h; cases h
  | cons d ds ih =>
      intro stack skipping h
      rw [tidyFrom] at h
      split_ifs at h
      · exact (ih h).imp_left (List.mem_cons_of_mem d)
      · rcases List.mem_cons.mp h with rfl | h
        · exact Or.inr rfl
        · exact (ih h).imp_left (List.mem_cons_of_mem d)
      · rcases List.mem_cons.mp h with rfl | h
        · exact Or.inl List.mem_cons_self
        · exact (ih h).imp_left (List.mem_cons_of_mem d)

namespace Node

mutual

/-- A call is printed in its node as it is printed alone. -/
theorem infix_render_of_calls {x : Bool × List Part} :
    ∀ {node : Node} {piped : Bool}, x ∈ node.calls piped →
      x.2.flatMap Part.render <:+: node.render
  | .sequence nodes, piped, hx => by
      rw [calls] at hx
      obtain ⟨n, hn, hinfix⟩ := infix_render_of_memberCalls hx
      rw [render]
      exact hinfix.trans (infix_renderAll ';' hn)
  | .pipeline nodes, piped, hx => by
      rw [calls] at hx
      obtain ⟨n, hn, hinfix⟩ := infix_render_of_stageCalls hx
      rw [render]
      exact hinfix.trans (infix_renderAll '|' hn)
  | .call parts, piped, hx => by
      rw [calls, List.mem_singleton] at hx
      subst hx
      simp [render_call]

theorem infix_render_of_memberCalls {x : Bool × List Part} :
    ∀ {nodes : List Node}, x ∈ memberCalls nodes →
      ∃ n ∈ nodes, x.2.flatMap Part.render <:+: n.render
  | [], hx => by rw [memberCalls] at hx; cases hx
  | n :: ns, hx => by
      rw [memberCalls, List.mem_append] at hx
      rcases hx with hx | hx
      · exact ⟨n, List.mem_cons_self, infix_render_of_calls hx⟩
      · obtain ⟨m, hm, hinfix⟩ := infix_render_of_memberCalls hx
        exact ⟨m, List.mem_cons_of_mem n hm, hinfix⟩

theorem infix_render_of_stageCalls {x : Bool × List Part} :
    ∀ {nodes : List Node}, x ∈ stageCalls nodes →
      ∃ n ∈ nodes, x.2.flatMap Part.render <:+: n.render
  | [], hx => by rw [stageCalls] at hx; cases hx
  | n :: ns, hx => by
      rw [stageCalls, List.mem_append] at hx
      rcases hx with hx | hx
      · exact ⟨n, List.mem_cons_self, infix_render_of_calls hx⟩
      · obtain ⟨m, hm, hinfix⟩ := infix_render_of_stageCalls hx
        exact ⟨m, List.mem_cons_of_mem n hm, hinfix⟩

end

/-- The calls of a line without backquotes have no backquoted spans. -/
lemma backquoted_eq_nil_of_parse {line : Text} {node : Node} (h : parse line = .ok node)
    (hline : '`' ∉ line) : ∀ x ∈ node.calls false, x.2.flatMap Part.backquoted = [] := by
  intro x hx
  rw [List.flatMap_eq_nil_iff]
  intro p hp
  by_contra hspans
  have hmem : '`' ∈ x.2.flatMap Part.render :=
    List.mem_flatMap.mpr ⟨p, hp, Part.backquote_mem_render hspans⟩
  have hrender := (infix_render_of_calls hx).subset hmem
  rw [render_of_parse h] at hrender
  rcases Text.mem_tidyFrom hrender with hin | hspace
  · exact hline hin
  · cases hspace

end Node

/-! ## Assembled commands -/

section Assembly

variable {read : Text → Except SyntaxError Command}

namespace Call

/-- A call without backquoted spans is plain. -/
lemma isPlain_of_assemble {piped : Bool} {parts : List Part} {k : Call Command}
    (hcan : ∀ p ∈ parts, p.Canonical) (hspans : parts.flatMap Part.backquoted = [])
    (h : Call.assemble read piped parts = .ok k) : k.IsPlain := by
  obtain ⟨_, substitution, hsub, rfl⟩ := (Call.assemble_eq_ok_iff hcan).mp h
  rw [Draft.substitution_of_backquoted_eq_nil hspans] at hsub
  cases hsub
  refine ⟨rfl, ?_⟩
  rw [List.any_eq_false]
  intro p hp hsilences
  exact Part.backquoted_ne_nil_of_silences hsilences (List.flatMap_eq_nil_iff.mp hspans p hp)

lemma schedule_of_isPlain {k : Call Command} (h : k.IsPlain) :
    Command.schedule (.call k) = [k] := by
  obtain ⟨text, redirections, substitution, disqualified⟩ := k
  obtain ⟨rfl, rfl⟩ := h
  rw [Command.schedule]
  simp

end Call

namespace Node

variable {k : Call Command}

mutual

/-- **The calls of a command are those that its node's calls are assembled to**, and those of
    their substitutions. -/
theorem exists_assemble_of_mem_schedule :
    ∀ {node : Node} {piped : Bool} {c : Command}, assembleStage read piped node = .ok c →
      k ∈ c.schedule → ∃ x ∈ node.calls piped, ∃ own, Call.assemble read x.1 x.2 = .ok own ∧
        k ∈ (Command.call own).schedule
  | .sequence nodes, piped, c, h, hk => by
      obtain ⟨cs, hcs, hc⟩ := assembleStage_sequence_eq_ok h
      have hmember : ∃ m ∈ cs, k ∈ m.schedule := by
        rw [Command.ofMembers] at hc
        split at hc
        · cases hc
        · next m hone =>
            cases hc
            have hmem : c ∈ cs.filter fun c => !c.isEmptyCall := by simp [hone]
            exact ⟨c, (List.mem_filter.mp hmem).1, hk⟩
        · cases hc
          rw [Command.schedule, Command.mem_scheduleAll] at hk
          obtain ⟨m, hm, hk⟩ := hk
          exact ⟨m, (List.mem_filter.mp hm).1, hk⟩
      obtain ⟨m, hm, hk⟩ := hmember
      rw [calls]
      exact exists_assemble_of_mem_members hcs hm hk
  | .pipeline nodes, piped, c, h, hk => by
      obtain ⟨cs, hcs, rfl⟩ := assembleStage_pipeline_eq_ok h
      rw [Command.schedule, Command.mem_scheduleAll] at hk
      obtain ⟨m, hm, hk⟩ := hk
      rw [calls]
      exact exists_assemble_of_mem_stages hcs hm hk
  | .call parts, piped, c, h, hk => by
      obtain ⟨own, hown, rfl⟩ := assembleStage_call_eq_ok h
      rw [calls]
      exact ⟨_, List.mem_singleton_self _, own, hown, hk⟩

theorem exists_assemble_of_mem_members :
    ∀ {nodes : List Node} {cs : List Command} {c : Command}, assembleMembers read nodes = .ok cs →
      c ∈ cs → k ∈ c.schedule → ∃ x ∈ memberCalls nodes, ∃ own,
        Call.assemble read x.1 x.2 = .ok own ∧ k ∈ (Command.call own).schedule
  | [], cs, c, h, hc, _ => by rw [assembleMembers] at h; cases h; cases hc
  | n :: ns, cs, c, h, hc, hk => by
      obtain ⟨first, rest, hfirst, hrest, rfl⟩ := assembleMembers_cons_eq_ok_iff.mp h
      rw [memberCalls]
      rcases List.mem_cons.mp hc with rfl | hc
      · obtain ⟨x, hx, hown⟩ := exists_assemble_of_mem_schedule hfirst hk
        exact ⟨x, List.mem_append_left _ hx, hown⟩
      · obtain ⟨x, hx, hown⟩ := exists_assemble_of_mem_members hrest hc hk
        exact ⟨x, List.mem_append_right _ hx, hown⟩

theorem exists_assemble_of_mem_stages :
    ∀ {nodes : List Node} {cs : List Command} {c : Command}, assembleStages read nodes = .ok cs →
      c ∈ cs → k ∈ c.schedule → ∃ x ∈ stageCalls nodes, ∃ own,
        Call.assemble read x.1 x.2 = .ok own ∧ k ∈ (Command.call own).schedule
  | [], cs, c, h, hc, _ => by rw [assembleStages] at h; cases h; cases hc
  | n :: ns, cs, c, h, hc, hk => by
      obtain ⟨first, rest, hfirst, hrest, rfl⟩ := assembleStages_cons_eq_ok_iff.mp h
      rw [stageCalls]
      rcases List.mem_cons.mp hc with rfl | hc
      · obtain ⟨x, hx, hown⟩ := exists_assemble_of_mem_schedule hfirst hk
        exact ⟨x, List.mem_append_left _ hx, hown⟩
      · obtain ⟨x, hx, hown⟩ := exists_assemble_of_mem_stages hrest hc hk
        exact ⟨x, List.mem_append_right _ hx, hown⟩

end

end Node

/-- **The calls of a text without backquotes** are plain, and each is one that its line has. -/
lemma Command.forall_schedule_of_ofText {line : Text} {c : Command} (h : ofText line = .ok c)
    {node : Node} (hnode : Node.parse line = .ok node) (hline : '`' ∉ line) :
    ∀ k ∈ c.schedule, k.IsPlain ∧
      ∃ x ∈ node.calls false, Call.assemble ofText x.1 x.2 = .ok k := by
  rw [ofText_eq, hnode] at h
  intro k hk
  obtain ⟨x, hx, own, hown, hk⟩ := Node.exists_assemble_of_mem_schedule h hk
  have hcan := Node.canonicalList_of_calls (Node.canonical_of_parse hnode) x hx
  have hspans := Node.backquoted_eq_nil_of_parse hnode hline x hx
  have hplain := Call.isPlain_of_assemble hcan.1 hspans hown
  rw [Call.schedule_of_isPlain hplain, List.mem_singleton] at hk
  subst hk
  exact ⟨hplain, x, hx, hown⟩

/-- The command of a text without backquotes has plain calls only. -/
lemma Command.isPlain_of_ofText {line : Text} {c : Command} (h : ofText line = .ok c)
    (hline : '`' ∉ line) : ∀ k ∈ c.schedule, k.IsPlain := by
  obtain ⟨node, hnode, _⟩ := exists_node_of_ofText h
  exact fun k hk => (forall_schedule_of_ofText h hnode hline k hk).1

/-- The target of a redirection is the one that was written. -/
lemma Part.target_of_redirections {parts : List Part} (hcan : ∀ p ∈ parts, p.Canonical) :
    ∀ r ∈ parts.flatMap Part.redirections,
      r.filename ≠ [] ∧ ∀ c ∈ r.filename, LineShell.isBlank c = false := by
  intro r hr
  obtain ⟨p, hp, hmem⟩ := List.mem_flatMap.mp hr
  cases p with
  | literal run => cases hmem
  | quoted kind contents => cases hmem
  | redirect op target =>
      obtain ⟨hne, hchars⟩ := hcan _ hp
      have hname : (Redirection.ofOperator op target).filename = target := by cases op <;> rfl
      rw [List.mem_singleton.mp hmem, hname]
      exact ⟨hne, fun c hc => (hchars c hc).1⟩

lemma Part.backquote_not_mem_of_flatMap {parts : List Part} {t : Text}
    (hcan : ∀ p ∈ parts, p.Canonical) (h : parts.flatMap Part.backquoted = [t]) : '`' ∉ t := by
  induction parts with
  | nil => cases h
  | cons p rest ih =>
      obtain ⟨hp, hrest⟩ := List.forall_mem_cons.mp hcan
      rw [List.flatMap_cons] at h
      rcases List.append_eq_singleton_iff.mp h with ⟨_, h⟩ | ⟨h, _⟩
      · exact ih hrest h
      · exact Part.backquote_not_mem_of_backquoted hp h

/-- Without single quotes around it, a substitution is the command of a text without backquotes. -/
lemma Draft.substitution_cases {parts : List Part} (hcan : ∀ p ∈ parts, p.Canonical)
    (hlength : (parts.flatMap Part.backquoted).length ≤ 1)
    (hs : parts.any Part.silences = false) {substitution : Option (Substitution Command)}
    (h : (({} : Draft).extendBy parts).substitution read = .ok substitution) :
    substitution = none ∨ ∃ inner command before after, '`' ∉ inner ∧ read inner = .ok command ∧
      substitution = some ⟨.parsed command, before, after⟩ := by
  cases hspans : parts.flatMap Part.backquoted with
  | nil =>
      rw [substitution_of_backquoted_eq_nil hspans] at h
      cases h
      exact Or.inl rfl
  | cons inner rest =>
      obtain rfl : rest = [] := by
        rw [hspans, List.length_cons] at hlength
        exact List.length_eq_zero_iff.mp (by omega)
      have hinner := Part.backquote_not_mem_of_flatMap hcan hspans
      rw [substitution_of_backquoted_eq_singleton hs hspans] at h
      split_ifs at h
      · cases h
        exact Or.inl rfl
      · cases hcommand : read inner with
        | error e => rw [hcommand] at h; cases h
        | ok command =>
            rw [hcommand] at h
            cases h
            exact Or.inr ⟨inner, command, _, _, hinner, hcommand, rfl⟩

/-- A stage that another one follows sends no output elsewhere. -/
lemma Call.sendsOutput_of_assemble {parts : List Part} {k : Call Command}
    (hcan : ∀ p ∈ parts, p.Canonical) (h : Call.assemble read true parts = .ok k) :
    (Command.call k).sendsOutput = false := by
  obtain ⟨hgathers, _, _, rfl⟩ := (Call.assemble_eq_ok_iff hcan).mp h
  exact hgathers.output rfl

/-- What is left of some members: one of them, or a sequence of two or more. -/
lemma Command.wellFormed_ofMembers {cs : List Command} {c : Command}
    (hcs : ∀ m ∈ cs, (∀ cs, m ≠ .sequence cs) ∧ m.WellFormed) (h : ofMembers cs = .ok c) :
    c.WellFormed := by
  have hkept : ∀ m ∈ cs.filter fun m => !m.isEmptyCall,
      ((∀ cs, m ≠ .sequence cs) ∧ m.isEmptyCall = false) ∧ m.WellFormed := by
    intro m hm
    obtain ⟨hmem, hempty⟩ := List.mem_filter.mp hm
    obtain ⟨hsequence, hwell⟩ := hcs m hmem
    exact ⟨⟨hsequence, by simpa using hempty⟩, hwell⟩
  simp only [ofMembers] at h
  split at h
  · cases h
  · next m hone =>
      cases h
      exact (hkept c (by rw [hone]; exact List.mem_singleton_self c)).2
  · next hnil hone =>
      cases h
      refine .sequence ?_ (fun m hm => (hkept m hm).1) fun m hm => (hkept m hm).2
      rcases hlist : cs.filter fun m => !m.isEmptyCall with _ | ⟨m, _ | ⟨m', rest⟩⟩
      · exact (hnil hlist).elim
      · exact (hone m hlist).elim
      · simp [hlist]

section

-- what is read of a substitution is well-formed, and plain where there is no backquote to read
variable (hread : ∀ t c, read t = .ok c → c.WellFormed ∧ ('`' ∉ t → ∀ k ∈ c.schedule, k.IsPlain))
include hread

/-- **A call is well-formed** if what is read of its substitution is. -/
lemma Call.wellFormed_of_assemble {piped : Bool} {parts : List Part} {k : Call Command}
    (hcan : ∀ p ∈ parts, p.Canonical) (h : Call.assemble read piped parts = .ok k) :
    (Command.call k).WellFormed := by
  obtain ⟨hgathers, substitution, hsub, rfl⟩ := (Call.assemble_eq_ok_iff hcan).mp h
  have htrimmed := Text.trimmed_trim (parts.flatMap Part.unwrapped)
  have htarget := Part.target_of_redirections hcan
  cases hs : parts.any Part.silences with
  | true =>
      obtain ⟨inner, before, after, heq⟩ := Draft.substitution_of_silences read hs
      rw [heq] at hsub
      cases hsub
      refine .call htrimmed htarget ⟨fun _ => ⟨_, _, _, rfl⟩, fun _ => rfl⟩ ?_ ?_
      · rintro command before after ⟨⟩
      · rintro command before after ⟨⟩
  | false =>
      rcases Draft.substitution_cases hcan (hgathers.single hs) hs hsub with
        rfl | ⟨inner, command, before, after, hinner, hcommand, rfl⟩
      · refine .call htrimmed htarget (by simp) ?_ ?_
        · rintro command before after ⟨⟩
        · rintro command before after ⟨⟩
      · obtain ⟨hwell, hplain⟩ := hread inner command hcommand
        refine .call htrimmed htarget (by simp) ?_ ?_
        · rintro _ _ _ ⟨⟩
          exact ⟨rfl, hplain hinner⟩
        · rintro _ _ _ ⟨⟩
          exact hwell

namespace Node

lemma wellFormed_of_assembleStages {stages : List (List Part)} :
    ∀ {cs : List Command}, (∀ parts ∈ stages, Part.CanonicalList parts) →
      assembleStages read (stages.map .call) = .ok cs →
      cs.length = stages.length ∧ (∀ c ∈ cs, ∃ k, c = .call k) ∧
        (∀ c ∈ cs.dropLast, c.sendsOutput = false) ∧ ∀ c ∈ cs, c.WellFormed := by
  induction stages with
  | nil =>
      intro cs _ h
      rw [List.map_nil, assembleStages] at h
      cases h
      simp
  | cons parts rest ih =>
      intro cs hcan h
      obtain ⟨hparts, hrest⟩ := List.forall_mem_cons.mp hcan
      obtain ⟨c, cs, hc, hcs, rfl⟩ := assembleStages_cons_eq_ok_iff.mp h
      obtain ⟨k, hk, rfl⟩ := assembleStage_call_eq_ok hc
      obtain ⟨hlength, hcalls, houtput, hwell⟩ := ih hrest hcs
      refine ⟨by simp [hlength], List.forall_mem_cons.mpr ⟨⟨k, rfl⟩, hcalls⟩, ?_,
        List.forall_mem_cons.mpr ⟨Call.wellFormed_of_assemble hread hparts.1 hk, hwell⟩⟩
      cases rest with
      | nil =>
          rw [List.length_nil, List.length_eq_zero_iff] at hlength
          simp [hlength]
      | cons parts' rest =>
          have hne : cs ≠ [] := by
            rintro rfl
            cases hlength
          rw [List.dropLast_cons_of_ne_nil hne, List.forall_mem_cons]
          exact ⟨Call.sendsOutput_of_assemble hparts.1 hk, houtput⟩

/-- A member is assembled to a call or a pipeline. -/
lemma wellFormed_of_assembleStage {node : Node} (hcan : node.CanonicalMember) {piped : Bool}
    {c : Command} (h : assembleStage read piped node = .ok c) :
    (∀ cs, c ≠ .sequence cs) ∧ c.WellFormed := by
  cases node with
  | sequence _ => exact hcan.elim
  | call parts =>
      obtain ⟨k, hk, rfl⟩ := assembleStage_call_eq_ok h
      exact ⟨by simp, Call.wellFormed_of_assemble hread hcan.1 hk⟩
  | pipeline nodes =>
      obtain ⟨htwo, hstages⟩ := hcan
      obtain ⟨stages, rfl⟩ := Reader.exists_calls_of_canonicalStage hstages
      obtain ⟨cs, hcs, rfl⟩ := assembleStage_pipeline_eq_ok h
      have hparts : ∀ parts ∈ stages, Part.CanonicalList parts := by
        intro parts hp
        exact (hstages _ (List.mem_map_of_mem hp)).1
      obtain ⟨hlength, hcalls, houtput, hwell⟩ := wellFormed_of_assembleStages hread hparts hcs
      rw [List.length_map, ← hlength] at htwo
      exact ⟨by simp, .pipeline htwo hcalls houtput hwell⟩

lemma wellFormed_of_assembleMembers {nodes : List Node} :
    ∀ {cs : List Command}, (∀ n ∈ nodes, n.CanonicalMember) →
      assembleMembers read nodes = .ok cs →
      ∀ c ∈ cs, (∀ cs, c ≠ .sequence cs) ∧ c.WellFormed := by
  induction nodes with
  | nil =>
      intro cs _ h
      rw [assembleMembers] at h
      cases h
      simp
  | cons n ns ih =>
      intro cs hcan h
      obtain ⟨hn, hns⟩ := List.forall_mem_cons.mp hcan
      obtain ⟨c, cs, hc, hcs, rfl⟩ := assembleMembers_cons_eq_ok_iff.mp h
      exact List.forall_mem_cons.mpr ⟨wellFormed_of_assembleStage hread hn hc, ih hns hcs⟩

/-- A node is assembled to a well-formed command. -/
lemma wellFormed_of_assembleWith {node : Node} (hcan : node.Canonical) {c : Command}
    (h : node.assembleWith read = .ok c) : c.WellFormed := by
  rcases hcan.member_or_sequence with hmember | ⟨nodes, rfl, hnodes⟩
  · exact (wellFormed_of_assembleStage hread hmember h).2
  · obtain ⟨cs, hcs, hc⟩ := assembleStage_sequence_eq_ok h
    exact Command.wellFormed_ofMembers (wellFormed_of_assembleMembers hread hnodes hcs) hc

end Node

end

end Assembly

/-- **Every line is read as a well-formed command.** -/
theorem Command.wellFormed_of_ofText {line : Text} {c : Command} (h : ofText line = .ok c) :
    c.WellFormed := by
  -- a substitution is read from a shorter text
  induction hlength : line.length using Nat.strong_induction_on generalizing line c with
  | _ length ih =>
      subst hlength
      rw [ofText] at h
      split at h
      · cases h
      next node hnode =>
        refine Node.wellFormed_of_assembleWith ?_ (Node.canonical_of_parse hnode) h
        intro inner command hinner
        split_ifs at hinner with hshorter
        exact ⟨ih inner.length hshorter hinner rfl, isPlain_of_ofText hinner⟩

/-- A substitution with a pipeline of its own, and a backquoted span under single quotes. -/
theorem Command.wellFormed_substitution_and_silenced :
    ∃ c, ofText "echo x`cat|sort`>f;pwd|echo '`a`'".toList = .ok c ∧
      c.schedule.map Call.text = ["cat".toList, "sort".toList, "echo x`cat|sort`".toList,
        "pwd".toList, "echo `a`".toList] ∧
      c.WellFormed := by
  have hinnerNode : Node.parse "cat|sort".toList = .ok (.pipeline
      [.call [.literal "cat".toList], .call [.literal "sort".toList]]) := rfl
  have hinner : ofText "cat|sort".toList = .ok (.pipeline
      [.call ⟨"cat".toList, [], none, false⟩, .call ⟨"sort".toList, [], none, false⟩]) := by
    rw [ofText_eq, hinnerNode]
    rfl
  have hnode : Node.parse "echo x`cat|sort`>f;pwd|echo '`a`'".toList = .ok (.sequence
      [.call [.literal "echo x".toList, .quoted .back (.text "cat|sort".toList .done),
          .redirect .output "f".toList],
        .pipeline [.call [.literal "pwd".toList], .call [.literal "echo ".toList,
          .quoted .single (.span .back (.text "a".toList .done) .done)]]]) := rfl
  have hgather : Draft.gather false [.literal "echo x".toList,
      .quoted .back (.text "cat|sort".toList .done), .redirect .output "f".toList] =
        .ok (⟨"echo x`cat|sort`".toList, some "cat|sort".toList, 1, false⟩,
          [⟨.output, "f".toList, .plain⟩]) := rfl
  have hsub : Draft.substitution ofText ⟨"echo x`cat|sort`".toList, some "cat|sort".toList, 1,
      false⟩ = .ok (some ⟨.parsed (.pipeline [.call ⟨"cat".toList, [], none, false⟩,
        .call ⟨"sort".toList, [], none, false⟩]), "echo x".toList, []⟩) := by
    simp only [Draft.substitution, hinner]
    rfl
  have hline : ofText "echo x`cat|sort`>f;pwd|echo '`a`'".toList = .ok (.sequence
      [.call ⟨"echo x`cat|sort`".toList, [⟨.output, "f".toList, .plain⟩],
          some ⟨.parsed (.pipeline [.call ⟨"cat".toList, [], none, false⟩,
            .call ⟨"sort".toList, [], none, false⟩]), "echo x".toList, []⟩, false⟩,
        .pipeline [.call ⟨"pwd".toList, [], none, false⟩,
          .call ⟨"echo `a`".toList, [], some ⟨.raw "a".toList, "echo ".toList, []⟩, true⟩]]) := by
    rw [ofText_eq, hnode]
    show Node.assembleStage ofText false _ = _
    simp only [Node.assembleStage, Node.assembleMembers, Call.assemble, hgather, hsub]
    rfl
  exact ⟨_, hline, rfl, wellFormed_of_ofText hline⟩

end LineShell
