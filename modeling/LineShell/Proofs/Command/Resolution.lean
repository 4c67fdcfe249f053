import LineShell.Proofs.Command.Assembly
import Mathlib.Tactic.Common

/-!
# Commands with nothing left to read

Running a call can mean reading text: a substitution may be held as text (`Payload.raw`).  A
command is *resolved* when that never happens, because text is held by disqualified calls alone,
and those do not run their substitution.

Every command that a line is read as is resolved (`Command.resolved_of_ofText`), with the commands
in its substitutions, and those in theirs: reading a line reads all of it.
-/

namespace LineShell

namespace Command

/-- Commands that hold no text that is still to be read: the substitution of a call is text just
    when the call is disqualified, and a command in a substitution is resolved itself. -/
inductive Resolved : Command → Prop
  | sequence {children : List Command} :
      (∀ c ∈ children, Resolved c) → Resolved (.sequence children)
  | pipeline {stages : List Command} : (∀ c ∈ stages, Resolved c) → Resolved (.pipeline stages)
  | bare {text : Text} {redirections : List Redirection} {disqualified : Bool} :
      Resolved (.call ⟨text, redirections, none, disqualified⟩)
  | silenced {text inner before after : Text} {redirections : List Redirection} :
      Resolved (.call ⟨text, redirections, some ⟨.raw inner, before, after⟩, true⟩)
  | substituted {text before after : Text} {redirections : List Redirection} {command : Command} :
      Resolved command →
      Resolved (.call ⟨text, redirections, some ⟨.parsed command, before, after⟩, false⟩)

lemma resolved_ofMembers {cs : List Command} {c : Command} (hcs : ∀ m ∈ cs, m.Resolved)
    (h : ofMembers cs = .ok c) : c.Resolved := by
  have hkept : ∀ m ∈ cs.filter fun m => !m.isEmptyCall, m.Resolved := by
    intro m hm
    exact hcs m (List.mem_filter.mp hm).1
  simp only [ofMembers] at h
  split at h
  · cases h
  · next m hone =>
      cases h
      exact hkept c (by rw [hone]; exact List.mem_singleton_self c)
  · cases h
    exact .sequence hkept

end Command

section Assembly

variable {read : Text → Except SyntaxError Command}

/-- A call is resolved if what is read for its substitution is. -/
lemma Call.resolved_assemble (hread : ∀ t c, read t = .ok c → c.Resolved) {piped : Bool}
    {parts : List Part} {k : Call Command} (h : Call.assemble read piped parts = .ok k) :
    (Command.call k).Resolved := by
  simp only [Call.assemble] at h
  split at h
  · cases h
  next d rs _ =>
    split at h
    · cases h
    next substitution hsub =>
      cases h
      simp only [Draft.substitution] at hsub
      split at hsub
      · cases hsub
        exact .bare
      next inner _ =>
        split_ifs at hsub with hsilent hblank
        · cases hsub
          rw [hsilent]
          exact .silenced
        · cases hsub
          exact .bare
        · rw [Bool.not_eq_true] at hsilent
          split at hsub
          · cases hsub
          next command hcommand =>
            cases hsub
            rw [hsilent]
            exact .substituted (hread inner command hcommand)

namespace Node

mutual

/-- A node is assembled to a resolved command if every substitution is read as one. -/
theorem resolved_of_assembleStage (hread : ∀ t c, read t = .ok c → c.Resolved) :
    ∀ {node : Node} {piped : Bool} {c : Command},
      assembleStage read piped node = .ok c → c.Resolved
  | .sequence nodes, piped, c, h => by
      obtain ⟨cs, hcs, hc⟩ := assembleStage_sequence_eq_ok h
      exact Command.resolved_ofMembers (resolved_of_assembleMembers hread hcs) hc
  | .pipeline nodes, piped, c, h => by
      obtain ⟨cs, hcs, rfl⟩ := assembleStage_pipeline_eq_ok h
      exact .pipeline (resolved_of_assembleStages hread hcs)
  | .call parts, piped, c, h => by
      obtain ⟨k, hk, rfl⟩ := assembleStage_call_eq_ok h
      exact Call.resolved_assemble hread hk

theorem resolved_of_assembleMembers (hread : ∀ t c, read t = .ok c → c.Resolved) :
    ∀ {nodes : List Node} {cs : List Command},
      assembleMembers read nodes = .ok cs → ∀ c ∈ cs, c.Resolved
  | [], cs, h => by
      rw [assembleMembers] at h
      cases h
      simp
  | node :: rest, cs, h => by
      obtain ⟨c, cs', hc, hcs, rfl⟩ := assembleMembers_cons_eq_ok_iff.mp h
      exact List.forall_mem_cons.mpr
        ⟨resolved_of_assembleStage hread hc, resolved_of_assembleMembers hread hcs⟩

theorem resolved_of_assembleStages (hread : ∀ t c, read t = .ok c → c.Resolved) :
    ∀ {nodes : List Node} {cs : List Command},
      assembleStages read nodes = .ok cs → ∀ c ∈ cs, c.Resolved
  | [], cs, h => by
      rw [assembleStages] at h
      cases h
      simp
  | node :: rest, cs, h => by
      obtain ⟨c, cs', hc, hcs, rfl⟩ := assembleStages_cons_eq_ok_iff.mp h
      exact List.forall_mem_cons.mpr
        ⟨resolved_of_assembleStage hread hc, resolved_of_assembleStages hread hcs⟩

end

end Node

end Assembly

/-- **Reading a line leaves nothing to read.** -/
theorem Command.resolved_of_ofText {line : Text} {c : Command} (h : ofText line = .ok c) :
    c.Resolved := by
  rw [ofText] at h
  split at h
  · cases h
  next node _ =>
    refine Node.resolved_of_assembleStage ?_ h
    intro inner c' hinner
    split_ifs at hinner with hshorter
    exact resolved_of_ofText hinner
termination_by line.length

end LineShell
