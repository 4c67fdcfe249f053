import LineShell.Proofs.Command.Occurrence
import Mathlib.Logic.Function.Iterate
import Mathlib.Tactic.Common

/-!
# Why reading ends

While a node is assembled, the text of a substitution is read as a line, so the recursion goes from
a node to a text and on to the node of that text.  Nothing here asks where the first node comes
from: its literals and its quoted texts may hold quotes, and its calls may be nested in any way.

**Lengths.**  What a substitution holds stands between two backquotes in the text of its call, also
after trimming (`Draft.length_lt_of_pending`).  That text is no longer than the call is printed, and
a node that has been read is printed no longer than its line (`Node.length_text_le_of_parse`).

**Descent.**  `Node.ReadFrom` is one step of the recursion.  The printed length goes down along it
(`Node.ReadFrom.length_lt`), so it is well founded, and what holds of every call that can be
assembled holds of all calls of a command (`Command.forall_schedule_of_assemble`).

**Levels.**  `Command.readWith` is one level of reading, and it has no guard.  As many levels as the
node has characters are enough, whatever stands below the last one
(`Node.assembleWith_iterate_readWith`).
-/

namespace LineShell

/-! ## Lengths -/

lemma Text.length_collapseFrom_le (s : Text) (inRun : Bool) :
    (collapseFrom inRun s).length ≤ s.length := by
  induction s generalizing inRun with
  | nil => exact Nat.le_refl _
  | cons c cs ih =>
      have hrun := ih true
      have hfresh := ih false
      rw [collapseFrom]
      split_ifs
      · exact Nat.le_succ_of_le hrun
      · exact Nat.succ_le_succ hrun
      · exact Nat.succ_le_succ hfresh

/-- A part is no longer in its call than it is printed. -/
lemma Part.length_unwrapped_le (p : Part) : p.unwrapped.length ≤ p.render.length := by
  cases p with
  | literal run => exact Text.length_collapseFrom_le run false
  | redirect op target => exact Nat.zero_le _
  | quoted kind contents =>
      cases kind with
      | back => exact Nat.le_refl _
      | single | double =>
          simp only [unwrapped, render, List.length_cons, List.length_append]
          omega

lemma Part.length_flatMap_unwrapped_le (parts : List Part) :
    (parts.flatMap unwrapped).length ≤ (parts.flatMap render).length := by
  induction parts with
  | nil => exact Nat.le_refl _
  | cons p rest ih =>
      have hp := length_unwrapped_le p
      simp only [List.flatMap_cons, List.length_append]
      omega

namespace Draft

variable {piped : Bool} {parts : List Part} {d : Draft} {rs : List Redirection} {inner : Text}

lemma length_lt_of_pending (h : parts.foldlM (addPart piped) ({}, []) = .ok (d, rs))
    (hpending : d.pending = some inner) : inner.length < (Text.trim d.text).length := by
  have hspan := Text.infix_trim (backquote_ne_nil inner) (trimmed_backquote inner)
    (infix_of_pending h hpending).2
  have hlength := hspan.length_le
  rw [length_backquote] at hlength
  omega

lemma length_text_le (h : parts.foldlM (addPart piped) ({}, []) = .ok (d, rs)) :
    d.text.length ≤ (parts.flatMap Part.render).length := by
  obtain ⟨_, _, heq⟩ := extendBy_of_foldlM h
  obtain ⟨rfl, -⟩ := Prod.mk.inj heq
  rw [text_extendBy]
  exact Part.length_flatMap_unwrapped_le parts

end Draft

lemma Text.length_trim_le (s : Text) : (trim s).length ≤ s.length := by
  have hkept := dropEndWhile_prefix isBlank (trimStart s)
  have hstart : trimStart s <:+ s := List.dropWhile_suffix isBlank
  exact hkept.length_le.trans hstart.length_le

/-- The texts of a line's calls are no longer than the line. -/
lemma Node.length_text_le_of_parse {line : Text} {node : Node} (hnode : parse line = .ok node)
    {x : Bool × List Part} (hx : x ∈ node.calls false) {d : Draft} {rs : List Redirection}
    (h : x.2.foldlM (Draft.addPart x.1) ({}, []) = .ok (d, rs)) : d.text.length ≤ line.length :=
  calc d.text.length ≤ (x.2.flatMap Part.render).length := Draft.length_text_le h
    _ ≤ node.render.length := (infix_render_of_calls hx).length_le
    _ ≤ line.length := length_render_le_of_parse hnode

/-! ## Substitutions -/

section Substitutions

variable {read : Text → Except SyntaxError Command} {d : Draft} {s : Substitution Command}

/-- **Where a substitution comes from**: it is the last backquoted span, kept as text in a
    disqualified call and read in any other. -/
lemma Draft.substitution_eq_some (h : d.substitution read = .ok (some s)) :
    ∃ inner, d.pending = some inner ∧ s.before = Text.trimStart (d.around inner).1 ∧
      s.after = Text.trimEnd (d.around inner).2 ∧
      (s.payload = .raw inner ∨
        ∃ command, s.payload = .parsed command ∧ d.runnable? = some inner ∧
          read inner = .ok command) := by
  rw [Draft.substitution] at h
  split at h
  · cases h
  next inner hpending =>
    refine ⟨inner, hpending, ?_⟩
    simp only at h
    split_ifs at h with hsilenced hblank
    · cases h
      exact ⟨rfl, rfl, Or.inl rfl⟩
    · cases h
    · split at h
      · cases h
      next command hcommand =>
        cases h
        refine ⟨rfl, rfl, Or.inr ⟨command, rfl, ?_, hcommand⟩⟩
        simp [runnable?, hpending, hsilenced, hblank]

/-- A command in a call has been read from what its draft has to run. -/
lemma Call.exists_read_of_parsed {piped : Bool} {parts : List Part} {k : Call Command}
    (h : Call.assemble read piped parts = .ok k) {command : Command} {before after : Text}
    (hparsed : k.substitution = some ⟨.parsed command, before, after⟩) :
    ∃ d rs inner, Draft.gather piped parts = .ok (d, rs) ∧ d.runnable? = some inner ∧
      read inner = .ok command := by
  obtain ⟨d, hgather, hsub, _, _⟩ := Call.exists_draft_of_assemble h
  rw [hparsed] at hsub
  obtain ⟨inner, _, _, _, hraw | ⟨c, hc, hrunnable, hread⟩⟩ := Draft.substitution_eq_some hsub
  · cases hraw
  · cases hc
    exact ⟨d, k.redirections, inner, hgather, hrunnable, hread⟩

end Substitutions

/-! ## Descent -/

namespace Node

/-- `m` is the node of the text that is read for a substitution while `n` is assembled. -/
def ReadFrom (m n : Node) : Prop :=
  ∃ x ∈ n.calls false, ∃ d rs inner, Draft.gather x.1 x.2 = .ok (d, rs) ∧
    d.runnable? = some inner ∧ parse inner = .ok m

/-- **Every step of the recursion leads to a node that is printed shorter.** -/
lemma ReadFrom.length_lt {m n : Node} (h : m.ReadFrom n) : m.render.length < n.render.length := by
  obtain ⟨x, hx, d, rs, inner, hgather, hrunnable, hparse⟩ := h
  have hfold := (Draft.gather_eq_ok_iff.mp hgather).1
  have hpending : d.pending = some inner := (Option.filter_eq_some_iff.mp hrunnable).1
  calc m.render.length ≤ inner.length := length_render_le_of_parse hparse
    _ < (Text.trim d.text).length := Draft.length_lt_of_pending hfold hpending
    _ ≤ d.text.length := Text.length_trim_le d.text
    _ ≤ (x.2.flatMap Part.render).length := Draft.length_text_le hfold
    _ ≤ n.render.length := (infix_render_of_calls hx).length_le

lemma wellFounded_readFrom : WellFounded ReadFrom :=
  Subrelation.wf ReadFrom.length_lt (measure fun n : Node => n.render.length).wf

end Node

namespace Command

lemma mem_schedule_call_iff {k own : Call Command} :
    k ∈ (call own).schedule ↔ k = own ∨ ∃ command before after,
      own.substitution = some ⟨.parsed command, before, after⟩ ∧ k ∈ command.schedule := by
  obtain ⟨text, redirections, substitution, disqualified⟩ := own
  rcases substitution with _ | ⟨_ | command, before, after⟩
  · simp [schedule]
  · simp [schedule]
  · simp [schedule, or_comm]

/-- **What holds of every call that can be assembled holds of all calls of a command**, those of
    its substitutions included. -/
theorem forall_schedule_of_assemble {P : Call Command → Prop}
    (hcall : ∀ piped parts k, Call.assemble ofText piped parts = .ok k → P k) {node : Node}
    {c : Command} (h : node.assemble = .ok c) : ∀ k ∈ c.schedule, P k := by
  induction node using Node.wellFounded_readFrom.induction generalizing c with
  | _ node ih =>
      intro k hk
      obtain ⟨x, hx, own, hown, hk⟩ := Node.exists_assemble_of_mem_schedule h hk
      rcases mem_schedule_call_iff.mp hk with rfl | ⟨command, before, after, hparsed, hk⟩
      · exact hcall x.1 x.2 k hown
      · obtain ⟨d, rs, inner, hgather, hrunnable, hread⟩ := Call.exists_read_of_parsed hown hparsed
        obtain ⟨m, hm, hassemble⟩ := exists_node_of_ofText hread
        exact ih m ⟨x, hx, d, rs, inner, hgather, hrunnable, hm⟩ hassemble k hk

/-! ## Levels -/

/-- One level of reading: a line is parsed and its node assembled, with the texts of substitutions
    left to `read`. -/
def readWith (read : Text → Except SyntaxError Command) (line : Text) :
    Except SyntaxError Command :=
  Node.parse line >>= Node.assembleWith read

/-- A line has fewer levels than it would take one character each. -/
lemma iterate_readWith (cut : Text → Except SyntaxError Command) {depth : Nat} :
    ∀ {line : Text}, line.length < depth → readWith^[depth] cut line = ofText line := by
  induction depth with
  | zero => intro line h; omega
  | succ depth ih =>
      intro line h
      rw [Function.iterate_succ_apply', readWith, ofText_eq]
      cases hparse : Node.parse line with
      | error e => rfl
      | ok node =>
          refine Node.assembleStage_congr ?_ node false (Node.length_render_le_of_parse hparse)
          intro inner hinner
          exact ih (by omega)

end Command

/-- As many levels as a node has characters assemble it, whatever the last one is cut off with. -/
lemma Node.assembleWith_iterate_readWith (node : Node)
    (cut : Text → Except SyntaxError Command) :
    node.assembleWith (Command.readWith^[node.render.length] cut) = node.assemble := by
  refine assembleStage_congr ?_ node false (Nat.le_refl _)
  intro inner hinner
  exact Command.iterate_readWith cut (by omega)

/-- **Assembling a node ends**, whatever the node is made of.  No chain of substitutions read from
    it goes on for ever, and cutting the recursion off below as many levels as the node has
    characters makes no difference.  Each text that is read for a substitution is shorter than the
    trimmed text of its call, and the calls of a line have texts no longer than the line. -/
theorem Node.assemble_ends (node : Node) :
    Acc ReadFrom node ∧
      (∀ cut, node.assembleWith (Command.readWith^[node.render.length] cut) = node.assemble) ∧
      ∀ x ∈ node.calls false, ∀ d rs,
        x.2.foldlM (Draft.addPart x.1) ({}, []) = .ok (d, rs) →
        (∀ inner, d.pending = some inner → inner.length < (Text.trim d.text).length) ∧
          ∀ line, parse line = .ok node → d.text.length ≤ line.length := by
  refine ⟨wellFounded_readFrom.apply node, assembleWith_iterate_readWith node, ?_⟩
  intro x hx d rs h
  refine ⟨fun inner hpending => Draft.length_lt_of_pending h hpending, ?_⟩
  intro line hnode
  exact length_text_le_of_parse hnode hx h

/-- A node with quotes in its literal and backquotes in its quoted text, which no line is read as,
    and the node of a line. -/
theorem Node.assemble_ends_quoted_quotes :
    (∃ d, [Part.literal "cat 'x".toList, .quoted .back (.text "echo `pwd`".toList .done)].foldlM
        (Draft.addPart false) ({}, []) = .ok (d, []) ∧
      d.pending = some "echo `pwd`".toList ∧
      "echo `pwd`".toList.length < (Text.trim d.text).length) ∧
    ∃ node, parse "echo   `cat 'x'`".toList = .ok node ∧
      ∃ d, [Part.literal "echo   ".toList, .quoted .back (.text "cat ".toList
          (.span .single (.text "x".toList .done) .done))].foldlM
        (Draft.addPart false) ({}, []) = .ok (d, []) ∧
      d.text.length ≤ "echo   `cat 'x'`".toList.length := by
  constructor
  · obtain ⟨_, _, hcalls⟩ := assemble_ends (.call [.literal "cat 'x".toList,
      .quoted .back (.text "echo `pwd`".toList .done)])
    rw [calls, List.forall_mem_singleton] at hcalls
    exact ⟨_, rfl, rfl, (hcalls _ _ rfl).1 _ rfl⟩
  · obtain ⟨_, _, hcalls⟩ := assemble_ends (.call [.literal "echo   ".toList,
      .quoted .back (.text "cat ".toList (.span .single (.text "x".toList .done) .done))])
    rw [calls, List.forall_mem_singleton] at hcalls
    exact ⟨_, rfl, _, rfl, (hcalls _ _ rfl).2 _ rfl⟩

end LineShell
