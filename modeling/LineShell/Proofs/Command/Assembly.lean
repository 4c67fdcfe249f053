import LineShell.Proofs.Command.Backquotes
import LineShell.Proofs.Line.Concatenation
import Mathlib.Tactic.Common

/-!
# Commands of lines

**The knot.**  A substitution is read as a line of its own, guarded by a test that it is shorter
than the line it stands in.  `Command.ofText_eq` removes the guard: a line is parsed and the node
assembled, with substitutions read by the same function.  The node prints no longer than the line,
and what is read of it stands between delimiters.

**Lines put together.**  `Command.ofText_semicolon` and `Command.ofText_bar` say what command two
lines with a separator between them are, in terms of the commands of the two.
-/

namespace LineShell

/-! ## Reading substitutions -/

section Congruence

variable {read read' : Text → Except SyntaxError Command} {bound : Nat}

/-- Only the text of a substitution is read. -/
lemma Call.assemble_congr (hread : ∀ t : Text, t.length + 2 ≤ bound → read t = read' t)
    {piped : Bool} {parts : List Part} (hlen : (parts.flatMap Part.render).length ≤ bound) :
    Call.assemble read piped parts = Call.assemble read' piped parts := by
  simp only [Call.assemble]
  cases hgather : Draft.gather piped parts with
  | error e => rfl
  | ok e =>
      obtain ⟨d, rs⟩ := e
      have hsub : d.substitution read = d.substitution read' := by
        simp only [Draft.substitution]
        cases hp : d.pending with
        | none => rfl
        | some inner =>
            have hinner := Draft.length_pending_of_gather hgather hp
            simp only [hread inner (by omega)]
      simp only [hsub]

namespace Node

/-- Each of some nodes is printed among them as it is printed alone. -/
lemma infix_renderAll (sep : Char) {n : Node} :
    ∀ {nodes : List Node}, n ∈ nodes → n.render <:+: renderAll sep nodes
  | [], h => by cases h
  | [m], h => by
      obtain rfl := List.mem_singleton.mp h
      simp [renderAll]
  | m :: m' :: rest, h => by
      have hcons : renderAll sep (m :: m' :: rest)
          = m.render ++ sep :: renderAll sep (m' :: rest) := by
        simp [renderAll]
      rw [hcons]
      rcases List.mem_cons.mp h with rfl | h
      · exact List.infix_append_of_infix_left List.infix_rfl
      · have ih := infix_renderAll sep h
        exact List.infix_append_of_infix_right (List.infix_cons ih)

mutual

/-- Readers that agree on the texts that a node can hold assemble it alike. -/
theorem assembleStage_congr (hread : ∀ t : Text, t.length + 2 ≤ bound → read t = read' t) :
    ∀ (node : Node) (piped : Bool), node.render.length ≤ bound →
      assembleStage read piped node = assembleStage read' piped node
  | .sequence nodes, piped, h => by
      rw [render] at h
      rw [assembleStage, assembleStage, assembleMembers_congr hread nodes
        fun n hn => (infix_renderAll ';' hn).length_le.trans h]
  | .pipeline nodes, piped, h => by
      rw [render] at h
      rw [assembleStage, assembleStage, assembleStages_congr hread nodes
        fun n hn => (infix_renderAll '|' hn).length_le.trans h]
  | .call parts, piped, h => by
      rw [render_call] at h
      rw [assembleStage, assembleStage, Call.assemble_congr hread h]

theorem assembleMembers_congr (hread : ∀ t : Text, t.length + 2 ≤ bound → read t = read' t) :
    ∀ nodes : List Node, (∀ n ∈ nodes, n.render.length ≤ bound) →
      assembleMembers read nodes = assembleMembers read' nodes
  | [], _ => by rw [assembleMembers, assembleMembers]
  | node :: rest, h => by
      rw [assembleMembers, assembleMembers, assembleStage_congr hread node false (h node (by simp)),
        assembleMembers_congr hread rest fun n hn => h n (List.mem_cons_of_mem node hn)]

theorem assembleStages_congr (hread : ∀ t : Text, t.length + 2 ≤ bound → read t = read' t) :
    ∀ nodes : List Node, (∀ n ∈ nodes, n.render.length ≤ bound) →
      assembleStages read nodes = assembleStages read' nodes
  | [], _ => by rw [assembleStages, assembleStages]
  | node :: rest, h => by
      rw [assembleStages, assembleStages,
        assembleStage_congr hread node (!rest.isEmpty) (h node (by simp)),
        assembleStages_congr hread rest fun n hn => h n (List.mem_cons_of_mem node hn)]

end

end Node

end Congruence

/-- A node that has been read is printed no longer than its line. -/
lemma Node.length_render_le_of_parse {line : Text} {node : Node} (h : parse line = .ok node) :
    node.render.length ≤ line.length := by
  rw [render_of_parse h]
  exact Text.length_tidyFrom_le line [] false

/-- **Reading a line is parsing it and assembling the node**, with substitutions read as lines of
    their own. -/
theorem Command.ofText_eq (line : Text) :
    Command.ofText line = Node.parse line >>= Node.assemble := by
  rw [Command.ofText]
  cases hparse : Node.parse line with
  | error e => rfl
  | ok node =>
      refine Node.assembleStage_congr ?_ node false (Node.length_render_le_of_parse hparse)
      intro t ht
      rw [if_pos (by omega)]

/-! ## What assembling gives -/

namespace Node

variable {read : Text → Except SyntaxError Command}

lemma assembleStage_sequence_eq_ok {piped : Bool} {nodes : List Node} {c : Command}
    (h : assembleStage read piped (.sequence nodes) = .ok c) :
    ∃ cs, assembleMembers read nodes = .ok cs ∧ Command.ofMembers cs = .ok c := by
  rw [assembleStage] at h
  split at h
  · cases h
  · next cs hcs => exact ⟨cs, hcs, h⟩

lemma assembleStage_pipeline_eq_ok {piped : Bool} {nodes : List Node} {c : Command}
    (h : assembleStage read piped (.pipeline nodes) = .ok c) :
    ∃ cs, assembleStages read nodes = .ok cs ∧ c = .pipeline cs := by
  rw [assembleStage] at h
  split at h
  · cases h
  · next cs hcs => cases h; exact ⟨cs, hcs, rfl⟩

lemma assembleStage_call_eq_ok {piped : Bool} {parts : List Part} {c : Command}
    (h : assembleStage read piped (.call parts) = .ok c) :
    ∃ k, Call.assemble read piped parts = .ok k ∧ c = .call k := by
  rw [assembleStage] at h
  split at h
  · cases h
  · next k hk => cases h; exact ⟨k, hk, rfl⟩

lemma assembleMembers_cons_eq_ok_iff {node : Node} {rest : List Node} {cs : List Command} :
    assembleMembers read (node :: rest) = .ok cs ↔
      ∃ c cs', assembleStage read false node = .ok c ∧ assembleMembers read rest = .ok cs' ∧
        cs = c :: cs' := by
  rw [assembleMembers]
  cases assembleStage read false node with
  | error e => simp
  | ok c =>
      cases assembleMembers read rest with
      | error e => simp
      | ok cs' =>
          constructor
          · intro h; cases h; exact ⟨c, cs', rfl, rfl, rfl⟩
          · rintro ⟨_, _, ⟨⟩, ⟨⟩, rfl⟩; rfl

lemma assembleStages_cons_eq_ok_iff {node : Node} {rest : List Node} {cs : List Command} :
    assembleStages read (node :: rest) = .ok cs ↔
      ∃ c cs', assembleStage read (!rest.isEmpty) node = .ok c ∧
        assembleStages read rest = .ok cs' ∧ cs = c :: cs' := by
  rw [assembleStages]
  cases assembleStage read (!rest.isEmpty) node with
  | error e => simp
  | ok c =>
      cases assembleStages read rest with
      | error e => simp
      | ok cs' =>
          constructor
          · intro h; cases h; exact ⟨c, cs', rfl, rfl, rfl⟩
          · rintro ⟨_, _, ⟨⟩, ⟨⟩, rfl⟩; rfl

end Node

namespace Command

/-- The children of a sequence; another command is its only one. -/
def members : Command → List Command
  | sequence children => children
  | c => [c]

/-- The stages of a pipeline; another command is its only one. -/
def stages : Command → List Command
  | pipeline children => children
  | c => [c]

/-- Whether the command is a call that sends its output to a file. -/
def sendsOutput : Command → Bool
  | call c => Redirection.anyOutput c.redirections
  | _ => false

/-- Whether the last stage sends its output to a file. -/
def lastSendsOutput (c : Command) : Bool :=
  c.stages.getLast?.any sendsOutput

/-- A sequence has the members that are not empty calls, and one of them at least. -/
lemma ofMembers_eq_ok {cs : List Command} {c : Command} (h : ofMembers cs = .ok c)
    (hmembers : ∀ m ∈ cs, m.members = [m]) :
    (cs.filter fun m => !m.isEmptyCall) = c.members ∧ c.members ≠ [] := by
  simp only [ofMembers] at h
  split at h
  · cases h
  · next m hfilter =>
      have hm : m ∈ cs.filter fun m => !m.isEmptyCall := by
        rw [hfilter]
        exact List.mem_singleton_self m
      obtain rfl : m = c := Except.ok.inj h
      rw [hfilter, hmembers m (List.mem_filter.mp hm).1]
      simp
  · next children hnil _ =>
      cases h
      exact ⟨rfl, hnil⟩

/-- Two kept members or more make a sequence. -/
lemma ofMembers_of_two_le {cs : List Command}
    (h : 2 ≤ (cs.filter fun m => !m.isEmptyCall).length) :
    ofMembers cs = .ok (.sequence (cs.filter fun m => !m.isEmptyCall)) := by
  simp only [ofMembers]
  split
  · next hnil => rw [hnil] at h; simp at h
  · next m hone => rw [hone] at h; simp at h
  · rfl

end Command

/-! ## Lines with a semicolon -/

namespace Node

variable {read : Text → Except SyntaxError Command}

lemma assembleMembers_append : ∀ {xs ys : List Node} {cs ds : List Command},
    assembleMembers read xs = .ok cs → assembleMembers read ys = .ok ds →
    assembleMembers read (xs ++ ys) = .ok (cs ++ ds)
  | [], ys, cs, ds, hx, hy => by
      rw [assembleMembers] at hx
      cases hx
      exact hy
  | x :: xs, ys, cs, ds, hx, hy => by
      obtain ⟨c, cs', hc, hcs, rfl⟩ := assembleMembers_cons_eq_ok_iff.mp hx
      have hrest := assembleMembers_append hcs hy
      exact assembleMembers_cons_eq_ok_iff.mpr ⟨c, cs' ++ ds, hc, hrest, rfl⟩

/-- A member of a sequence is a call or a pipeline, and is assembled to one. -/
lemma members_of_assembleStage {node : Node} (hcan : node.CanonicalMember) {piped : Bool}
    {c : Command} (h : assembleStage read piped node = .ok c) : c.members = [c] := by
  cases node with
  | sequence _ => exact hcan.elim
  | pipeline nodes =>
      obtain ⟨cs, _, rfl⟩ := assembleStage_pipeline_eq_ok h
      rfl
  | call parts =>
      obtain ⟨k, _, rfl⟩ := assembleStage_call_eq_ok h
      rfl

lemma members_of_assembleMembers : ∀ {nodes : List Node} {cs : List Command},
    (∀ n ∈ nodes, n.CanonicalMember) → assembleMembers read nodes = .ok cs →
    ∀ c ∈ cs, c.members = [c]
  | [], cs, _, h => by
      rw [assembleMembers] at h
      cases h
      simp
  | node :: rest, cs, hcan, h => by
      obtain ⟨c, cs', hc, hcs, rfl⟩ := assembleMembers_cons_eq_ok_iff.mp h
      intro m hm
      rcases List.mem_cons.mp hm with rfl | hm
      · exact members_of_assembleStage (hcan node (by simp)) hc
      · have hrest : ∀ n ∈ rest, n.CanonicalMember := fun n hn => hcan n (by simp [hn])
        exact members_of_assembleMembers hrest hcs m hm

/-- The members of a line are assembled to the members of its command, the empty calls among
    them dropped. -/
lemma assembleMembers_members {node : Node} (hcan : node.Canonical) {c : Command}
    (h : node.assembleWith read = .ok c) (hne : c.isEmptyCall = false) :
    ∃ cs, assembleMembers read node.members = .ok cs ∧
      (cs.filter fun m => !m.isEmptyCall) = c.members ∧ c.members ≠ [] := by
  have halone : node.CanonicalMember → node.members = [node] → ∃ cs,
      assembleMembers read node.members = .ok cs ∧
        (cs.filter fun m => !m.isEmptyCall) = c.members ∧ c.members ≠ [] := by
    intro hmember hnode
    have hc := members_of_assembleStage hmember h
    refine ⟨[c], ?_, by simp [hne, hc], by simp [hc]⟩
    rw [hnode]
    exact assembleMembers_cons_eq_ok_iff.mpr ⟨c, [], h, by rw [assembleMembers], rfl⟩
  cases node with
  | call parts => exact halone hcan.1 rfl
  | pipeline nodes => exact halone hcan rfl
  | sequence nodes =>
      obtain ⟨cs, hcs, hc⟩ := assembleStage_sequence_eq_ok h
      exact ⟨cs, hcs, Command.ofMembers_eq_ok hc (members_of_assembleMembers hcan.2 hcs)⟩

end Node

namespace Command

/-- What has been read as a command has been parsed and assembled. -/
lemma exists_node_of_ofText {line : Text} {c : Command} (h : ofText line = .ok c) :
    ∃ node, Node.parse line = .ok node ∧ node.assemble = .ok c := by
  rw [ofText_eq, bind_eq_ok_iff] at h
  exact h

/-- **Lines with a semicolon between them** are the sequence of their members. -/
lemma ofText_semicolon {a b : Text} {ca cb : Command} (ha : ofText a = .ok ca)
    (hb : ofText b = .ok cb) (hea : ca.isEmptyCall = false) (heb : cb.isEmptyCall = false) :
    ofText (a ++ ';' :: b) = .ok (.sequence (ca.members ++ cb.members)) := by
  obtain ⟨na, hna, haa⟩ := exists_node_of_ofText ha
  obtain ⟨nb, hnb, hab⟩ := exists_node_of_ofText hb
  obtain ⟨cs, hcs, hfa, hma⟩ := Node.assembleMembers_members (Node.canonical_of_parse hna) haa hea
  obtain ⟨ds, hds, hfb, hmb⟩ := Node.assembleMembers_members (Node.canonical_of_parse hnb) hab heb
  have hfilter : ((cs ++ ds).filter fun m => !m.isEmptyCall) = ca.members ++ cb.members := by
    rw [List.filter_append, hfa, hfb]
  have hlen : 2 ≤ ((cs ++ ds).filter fun m => !m.isEmptyCall).length := by
    have hpa := List.length_pos_iff.mpr hma
    have hpb := List.length_pos_iff.mpr hmb
    rw [hfilter, List.length_append]
    omega
  rw [ofText_eq, Node.parse_semicolon hna hnb]
  show Node.assembleStage ofText false _ = _
  rw [Node.assembleStage, Node.assembleMembers_append hcs hds]
  simp only
  rw [ofMembers_of_two_le hlen, hfilter]

end Command

/-! ## Lines with a bar -/

section Bar

variable {read : Text → Except SyntaxError Command}

/-- A stage with another one after it is the call it would be alone, but its output goes
    nowhere else. -/
lemma Call.assemble_piped {parts : List Part} {k : Call Command}
    (h : Call.assemble read false parts = .ok k) :
    Call.assemble read true parts =
      if Redirection.anyOutput k.redirections then .error .outputInPipeline else .ok k := by
  simp only [Call.assemble] at h ⊢
  cases hgather : Draft.gather false parts with
  | error e => rw [hgather] at h; cases h
  | ok e =>
      obtain ⟨d, rs⟩ := e
      rw [hgather] at h
      simp only at h
      cases hsub : d.substitution read with
      | error e => rw [hsub] at h; cases h
      | ok substitution =>
          rw [hsub] at h
          cases h
          rw [Draft.gather_piped hgather]
          split_ifs with hout
          · rfl
          · simp only [hsub]

namespace Node

lemma assembleStage_piped {parts : List Part} {c : Command}
    (h : assembleStage read false (.call parts) = .ok c) :
    assembleStage read true (.call parts) =
      if c.sendsOutput then .error .outputInPipeline else .ok c := by
  obtain ⟨k, hk, rfl⟩ := assembleStage_call_eq_ok h
  rw [assembleStage, Call.assemble_piped hk, Command.sendsOutput]
  split_ifs <;> rfl

/-- Before other stages, the last of the first ones is no longer the last of all. -/
lemma assembleStages_append {ys : List Node} {ds : List Command} (hne : ys ≠ [])
    (hy : assembleStages read ys = .ok ds) :
    ∀ {xs : List (List Part)} {cs : List Command},
      assembleStages read (xs.map .call) = .ok cs →
      assembleStages read (xs.map .call ++ ys) =
        if cs.getLast?.any Command.sendsOutput then .error .outputInPipeline else .ok (cs ++ ds)
  | [], cs, hx => by
      rw [List.map_nil, assembleStages] at hx
      cases hx
      simpa using hy
  | [x], cs, hx => by
      obtain ⟨c, cs', hc, hcs, rfl⟩ := assembleStages_cons_eq_ok_iff.mp hx
      rw [List.map_nil, assembleStages] at hcs
      cases hcs
      have hempty : ys.isEmpty = false := by simpa using hne
      rw [List.map_cons, List.map_nil, List.singleton_append, assembleStages, hempty,
        Bool.not_false, assembleStage_piped hc, hy]
      by_cases hout : c.sendsOutput = true <;> simp [hout]
  | x :: x' :: xs, cs, hx => by
      obtain ⟨c, cs', hc, hcs, rfl⟩ := assembleStages_cons_eq_ok_iff.mp hx
      have ih := assembleStages_append hne hy hcs
      obtain ⟨c', cs'', _, _, rfl⟩ := assembleStages_cons_eq_ok_iff.mp hcs
      rw [List.map_cons, List.cons_append, assembleStages]
      rw [show (!(List.map Node.call (x' :: xs) ++ ys).isEmpty) = true by simp]
      rw [show (!(List.map Node.call (x' :: xs)).isEmpty) = true by simp] at hc
      rw [hc, ih, List.getLast?_cons_cons]
      simp only
      split_ifs <;> rfl

/-- The stages of a line are assembled to the stages of its command. -/
lemma assembleStages_stages {node : Node} (hseq : node.isSequence = false) {c : Command}
    (h : node.assembleWith read = .ok c) : assembleStages read node.stages = .ok c.stages := by
  cases node with
  | sequence _ => cases hseq
  | pipeline nodes =>
      obtain ⟨cs, hcs, rfl⟩ := assembleStage_pipeline_eq_ok h
      exact hcs
  | call parts =>
      obtain ⟨k, _, rfl⟩ := assembleStage_call_eq_ok h
      exact assembleStages_cons_eq_ok_iff.mpr ⟨.call k, [], h, by rw [assembleStages], rfl⟩

end Node

namespace Command

/-- What a line that is no sequence is parsed and assembled to, stage by stage. -/
lemma exists_stages_of_ofText {line : Text} {c : Command} {node : Node} (h : ofText line = .ok c)
    (hnode : Node.parse line = .ok node) (hseq : node.isSequence = false) :
    ∃ calls : List (List Part), node.stages = calls.map .call ∧ calls ≠ [] ∧
      Node.assembleStages ofText (calls.map .call) = .ok c.stages := by
  rw [ofText_eq, hnode] at h
  obtain ⟨r, _, _, hcalls, _⟩ := Node.exists_reads_of_isSequence hnode hseq
  refine ⟨r.stages ++ [r.parts], hcalls, by simp, ?_⟩
  rw [← hcalls]
  exact Node.assembleStages_stages hseq h

lemma stages_ne_nil_of_ofText {line : Text} {c : Command} {node : Node} (h : ofText line = .ok c)
    (hnode : Node.parse line = .ok node) (hseq : node.isSequence = false) : c.stages ≠ [] := by
  obtain ⟨calls, _, hne, hstages⟩ := exists_stages_of_ofText h hnode hseq
  obtain ⟨x, xs, rfl⟩ := List.exists_cons_of_ne_nil hne
  obtain ⟨c', cs, _, _, hcs⟩ := Node.assembleStages_cons_eq_ok_iff.mp hstages
  simp [hcs]

/-- **Lines with a bar between them** are the pipeline of their stages, unless the last stage of
    the first sends its output to a file. -/
lemma ofText_bar {a b : Text} {ca cb : Command} {na nb : Node} (ha : ofText a = .ok ca)
    (hb : ofText b = .ok cb) (hna : Node.parse a = .ok na) (hnb : Node.parse b = .ok nb)
    (hsa : na.isSequence = false) (hsb : nb.isSequence = false) :
    ofText (a ++ '|' :: b) =
      if ca.lastSendsOutput then .error .outputInPipeline
      else .ok (.pipeline (ca.stages ++ cb.stages)) := by
  obtain ⟨xs, hxs, _, hstagesA⟩ := exists_stages_of_ofText ha hna hsa
  obtain ⟨ys, hys, hne, hstagesB⟩ := exists_stages_of_ofText hb hnb hsb
  rw [ofText_eq, Node.parse_bar hna hnb hsa hsb, hxs, hys]
  show Node.assembleStage ofText false _ = _
  rw [Node.assembleStage, Node.assembleStages_append (by simpa using hne) hstagesB hstagesA,
    lastSendsOutput]
  split_ifs <;> rfl

end Command

end Bar

end LineShell
