import LineShell.Proofs.Command.Shape
import LineShell.Proofs.Line.Verbatim
import Mathlib.Tactic.Common

/-!
# Where the calls and spans of a line end up

**Calls.**  Every call of a line is assembled from its own parts to a call of the command, unless
nothing is left of it (`Command.mem_schedule_of_ofText`).

**Spans.**  A backquoted span stands in the line as it was written, and in the text of its call
(`Part.infix_trim_unwrapped`): quotes around it may be dropped, its own are not.

**Substitutions.**  A call with a backquoted span under single quotes holds text and runs none of
its spans.  In any other call the only span that is not blank is the one that is read.
-/

namespace LineShell

/-! ## Calls -/

namespace Command

lemma mem_schedule_call (k : Call Command) : k ∈ schedule (.call k) := by
  obtain ⟨text, redirections, substitution, disqualified⟩ := k
  rcases substitution with _ | ⟨_ | _, before, after⟩ <;> simp [schedule]

/-- An empty call is all of its schedule. -/
lemma isEmptyCall_of_mem_schedule {c : Command} {k : Call Command} (hc : c.isEmptyCall = true)
    (hk : k ∈ c.schedule) : (call k).isEmptyCall = true := by
  cases c with
  | sequence children => simp [isEmptyCall] at hc
  | pipeline stages => simp [isEmptyCall] at hc
  | call k' =>
      obtain ⟨text, redirections, substitution, disqualified⟩ := k'
      cases substitution with
      | some _ => simp [isEmptyCall] at hc
      | none =>
          simp only [schedule, List.mem_singleton] at hk
          rw [hk]
          exact hc

/-- Of the calls of some members only empty ones are dropped. -/
lemma mem_schedule_ofMembers {cs : List Command} {c m : Command} {k : Call Command}
    (h : ofMembers cs = .ok c) (hm : m ∈ cs) (hk : k ∈ m.schedule)
    (hkept : (call k).isEmptyCall = false) : k ∈ c.schedule := by
  have hmem : m ∈ cs.filter fun m => !m.isEmptyCall := by
    refine List.mem_filter.mpr ⟨hm, ?_⟩
    cases hempty : m.isEmptyCall with
    | false => rfl
    | true =>
        rw [isEmptyCall_of_mem_schedule hempty hk] at hkept
        cases hkept
  simp only [ofMembers] at h
  split at h
  · cases h
  · next m' hone =>
      cases h
      rw [hone, List.mem_singleton] at hmem
      exact hmem ▸ hk
  · cases h
    rw [schedule, mem_scheduleAll]
    exact ⟨m, hmem, hk⟩

end Command

namespace Node

variable {read : Text → Except SyntaxError Command} {x : Bool × List Part}

mutual

/-- The calls of a node are assembled one by one, and none but empty ones are dropped. -/
theorem mem_schedule_of_assembleStage : ∀ {node : Node} {piped : Bool} {c : Command},
    assembleStage read piped node = .ok c → x ∈ node.calls piped →
    ∃ k, Call.assemble read x.1 x.2 = .ok k ∧
      ((Command.call k).isEmptyCall = false → k ∈ c.schedule)
  | .sequence nodes, piped, c, h, hx => by
      rw [calls] at hx
      obtain ⟨cs, hcs, hc⟩ := assembleStage_sequence_eq_ok h
      obtain ⟨k, hk, m, hm, hmem⟩ := mem_schedule_of_assembleMembers hcs hx
      refine ⟨k, hk, fun hkept => ?_⟩
      exact Command.mem_schedule_ofMembers hc hm (hmem hkept) hkept
  | .pipeline nodes, piped, c, h, hx => by
      rw [calls] at hx
      obtain ⟨cs, hcs, rfl⟩ := assembleStage_pipeline_eq_ok h
      obtain ⟨k, hk, m, hm, hmem⟩ := mem_schedule_of_assembleStages hcs hx
      refine ⟨k, hk, fun hkept => ?_⟩
      rw [Command.schedule, Command.mem_scheduleAll]
      exact ⟨m, hm, hmem hkept⟩
  | .call parts, piped, c, h, hx => by
      rw [calls, List.mem_singleton] at hx
      subst hx
      obtain ⟨k, hk, rfl⟩ := assembleStage_call_eq_ok h
      exact ⟨k, hk, fun _ => Command.mem_schedule_call k⟩

theorem mem_schedule_of_assembleMembers : ∀ {nodes : List Node} {cs : List Command},
    assembleMembers read nodes = .ok cs → x ∈ memberCalls nodes →
    ∃ k, Call.assemble read x.1 x.2 = .ok k ∧
      ∃ m ∈ cs, (Command.call k).isEmptyCall = false → k ∈ m.schedule
  | [], cs, h, hx => by rw [memberCalls] at hx; cases hx
  | n :: ns, cs, h, hx => by
      rw [memberCalls, List.mem_append] at hx
      obtain ⟨c, cs', hc, hcs, rfl⟩ := assembleMembers_cons_eq_ok_iff.mp h
      rcases hx with hx | hx
      · obtain ⟨k, hk, hmem⟩ := mem_schedule_of_assembleStage hc hx
        exact ⟨k, hk, c, List.mem_cons_self, hmem⟩
      · obtain ⟨k, hk, m, hm, hmem⟩ := mem_schedule_of_assembleMembers hcs hx
        exact ⟨k, hk, m, List.mem_cons_of_mem c hm, hmem⟩

theorem mem_schedule_of_assembleStages : ∀ {nodes : List Node} {cs : List Command},
    assembleStages read nodes = .ok cs → x ∈ stageCalls nodes →
    ∃ k, Call.assemble read x.1 x.2 = .ok k ∧
      ∃ m ∈ cs, (Command.call k).isEmptyCall = false → k ∈ m.schedule
  | [], cs, h, hx => by rw [stageCalls] at hx; cases hx
  | n :: ns, cs, h, hx => by
      rw [stageCalls, List.mem_append] at hx
      obtain ⟨c, cs', hc, hcs, rfl⟩ := assembleStages_cons_eq_ok_iff.mp h
      rcases hx with hx | hx
      · obtain ⟨k, hk, hmem⟩ := mem_schedule_of_assembleStage hc hx
        exact ⟨k, hk, c, List.mem_cons_self, hmem⟩
      · obtain ⟨k, hk, m, hm, hmem⟩ := mem_schedule_of_assembleStages hcs hx
        exact ⟨k, hk, m, List.mem_cons_of_mem c hm, hmem⟩

end

end Node

/-- **Every call of a line is a call of its command**, unless nothing is left of it. -/
theorem Command.mem_schedule_of_ofText {line : Text} {node : Node} {c : Command}
    (hnode : Node.parse line = .ok node) (h : ofText line = .ok c) {piped : Bool}
    {parts : List Part} (hx : (piped, parts) ∈ node.calls false) :
    ∃ k, Call.assemble ofText piped parts = .ok k ∧
      ((Command.call k).isEmptyCall = false → k ∈ c.schedule) := by
  rw [ofText_eq, hnode] at h
  exact Node.mem_schedule_of_assembleStage h hx

/-! ## Spans -/

lemma trimmed_backquote (inner : Text) : Text.Trimmed (backquote inner) := by
  have hback : isBlank '`' = false := by decide
  refine ⟨?_, ?_⟩
  · intro c hc
    obtain rfl : '`' = c := by simpa [backquote] using hc
    exact hback
  · intro c hc
    rw [backquote, ← List.cons_append, List.getLast?_concat] at hc
    obtain rfl : '`' = c := by simpa using hc
    exact hback

namespace Part

variable {inner : Text} {p : Part} {parts : List Part}

/-- **Trimming the text of a call does not cut into its backquoted spans.** -/
lemma infix_trim_unwrapped (hp : p ∈ parts) (h : inner ∈ p.backquoted) :
    backquote inner <:+: Text.trim (parts.flatMap unwrapped) := by
  have hspan := infix_of_backquoted (List.mem_flatMap.mpr ⟨p, hp, h⟩)
  exact Text.infix_trim (backquote_ne_nil inner) (trimmed_backquote inner) hspan.2

/-- **A backquoted span stands in its line as it was written.** -/
lemma infix_line_of_backquoted {line : Text} {node : Node} (hnode : Node.parse line = .ok node)
    {piped : Bool} (hx : (piped, parts) ∈ node.calls false) (hp : p ∈ parts)
    (h : inner ∈ p.backquoted) : backquote inner <:+: line := by
  cases p with
  | literal run => cases h
  | redirect op target => cases h
  | quoted kind contents =>
      have hquoted := Node.quotedIn_of_parse hnode _ hx kind contents hp
      exact (infix_render_of_backquoted h).trans hquoted

end Part

/-! ## Substitutions -/

section Substitutions

variable {read : Text → Except SyntaxError Command} {piped : Bool} {parts : List Part}
  {k : Call Command}

/-- One span under single quotes keeps all spans of its call from being read. -/
lemma Call.disqualified_of_assemble (hcan : ∀ p ∈ parts, p.Canonical)
    (h : Call.assemble read piped parts = .ok k) (hs : parts.any Part.silences = true) :
    k.text = Text.trim (parts.flatMap Part.unwrapped) ∧ k.disqualified = true ∧
      ∃ text before after, k.substitution = some ⟨.raw text, before, after⟩ := by
  obtain ⟨_, substitution, hsub, rfl⟩ := (Call.assemble_eq_ok_iff hcan).mp h
  obtain ⟨text, before, after, heq⟩ := Draft.substitution_of_silences read hs
  rw [heq] at hsub
  cases hsub
  exact ⟨rfl, hs, text, before, after, rfl⟩

/-- Without one, a span that is not blank is the only one, and it is read. -/
lemma Call.parsed_of_assemble (hcan : ∀ p ∈ parts, p.Canonical)
    (h : Call.assemble read piped parts = .ok k) (hs : parts.any Part.silences = false)
    {inner : Text} (hinner : inner ∈ parts.flatMap Part.backquoted)
    (hblank : Text.isBlankText inner = false) :
    k.disqualified = false ∧ ∃ command before after, read inner = .ok command ∧
      k.substitution = some ⟨.parsed command, before, after⟩ := by
  obtain ⟨hgathers, substitution, hsub, rfl⟩ := (Call.assemble_eq_ok_iff hcan).mp h
  have hspans := hgathers.backquoted_eq_singleton hs hinner
  rw [Draft.substitution_of_backquoted_eq_singleton hs hspans, hblank] at hsub
  cases hread : read inner with
  | error e =>
      rw [hread] at hsub
      cases hsub
  | ok command =>
      rw [hread] at hsub
      cases hsub
      exact ⟨hs, command, _, _, rfl, rfl⟩

end Substitutions

end LineShell
