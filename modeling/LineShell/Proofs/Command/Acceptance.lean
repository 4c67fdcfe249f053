import LineShell.Proofs.Command.Assembly
import Mathlib.Data.List.Forall2
import Mathlib.Tactic.Common

/-!
# Which lines are commands

A line that can be parsed need not be a command.  `Node.Admissible` lists what is asked of its
node beyond that, call by call: where output may go, how backquoted spans may stand to each
other, that what they hold is a command itself, and that something of a sequence is left.
`Command.ofText_isOk_iff_admissible` says that nothing else is asked.

Assembling fails only at calls (`Node.exists_assembleWith_iff`), so the rest is what
`Call.exists_assemble_iff` says of one call.
-/

namespace LineShell

/-! ## Trees -/

namespace Node

variable {read : Text → Except SyntaxError Command}

lemma assembleMembers_eq_ok_iff {nodes : List Node} {cs : List Command} :
    assembleMembers read nodes = .ok cs ↔
      List.Forall₂ (fun n c => assembleStage read false n = .ok c) nodes cs := by
  induction nodes generalizing cs with
  | nil => rw [assembleMembers, List.forall₂_nil_left_iff, Except.ok.injEq, eq_comm]
  | cons n ns ih =>
      rw [assembleMembers_cons_eq_ok_iff, List.forall₂_cons_left_iff]
      simp only [ih]

lemma exists_assembleStages_iff (stages : List (List Part)) :
    (∃ cs, assembleStages read (stages.map .call) = .ok cs) ↔
      ∀ x ∈ stageCalls (stages.map .call), ∃ k, Call.assemble read x.1 x.2 = .ok k := by
  induction stages with
  | nil => simp [assembleStages, stageCalls]
  | cons parts rest ih =>
      have hstage : ∀ piped, (∃ c, assembleStage read piped (.call parts) = .ok c) ↔
          ∃ k, Call.assemble read piped parts = .ok k := by
        intro piped
        constructor
        · rintro ⟨c, hc⟩
          obtain ⟨k, hk, _⟩ := assembleStage_call_eq_ok hc
          exact ⟨k, hk⟩
        · rintro ⟨k, hk⟩
          exact ⟨.call k, by rw [assembleStage, hk]⟩
      rw [List.map_cons, stageCalls, calls, List.singleton_append, List.forall_mem_cons, ← ih,
        ← hstage]
      simp only [assembleStages_cons_eq_ok_iff]
      constructor
      · rintro ⟨_, c, cs, hc, hcs, rfl⟩
        exact ⟨⟨c, hc⟩, cs, hcs⟩
      · rintro ⟨⟨c, hc⟩, cs, hcs⟩
        exact ⟨_, c, cs, hc, hcs, rfl⟩

/-- A member can be assembled just when its calls can. -/
lemma exists_assembleStage_iff {node : Node} (hcan : node.CanonicalMember) (piped : Bool) :
    (∃ c, assembleStage read piped node = .ok c) ↔
      ∀ x ∈ node.calls piped, ∃ k, Call.assemble read x.1 x.2 = .ok k := by
  cases node with
  | sequence _ => exact hcan.elim
  | pipeline nodes =>
      obtain ⟨stages, rfl⟩ := Reader.exists_calls_of_canonicalStage hcan.2
      rw [calls, ← exists_assembleStages_iff]
      constructor
      · rintro ⟨c, hc⟩
        obtain ⟨cs, hcs, _⟩ := assembleStage_pipeline_eq_ok hc
        exact ⟨cs, hcs⟩
      · rintro ⟨cs, hcs⟩
        exact ⟨.pipeline cs, by rw [assembleStage, hcs]⟩
  | call parts =>
      rw [calls, List.forall_mem_singleton]
      constructor
      · rintro ⟨c, hc⟩
        obtain ⟨k, hk, _⟩ := assembleStage_call_eq_ok hc
        exact ⟨k, hk⟩
      · rintro ⟨k, hk⟩
        exact ⟨.call k, by rw [assembleStage, hk]⟩

lemma exists_assembleMembers_iff {nodes : List Node} (hcan : ∀ n ∈ nodes, n.CanonicalMember) :
    (∃ cs, assembleMembers read nodes = .ok cs) ↔
      ∀ x ∈ memberCalls nodes, ∃ k, Call.assemble read x.1 x.2 = .ok k := by
  induction nodes with
  | nil => simp [assembleMembers, memberCalls]
  | cons n ns ih =>
      obtain ⟨hn, hns⟩ := List.forall_mem_cons.mp hcan
      rw [memberCalls, List.forall_mem_append, ← ih hns, ← exists_assembleStage_iff hn]
      simp only [assembleMembers_cons_eq_ok_iff]
      constructor
      · rintro ⟨_, c, cs, hc, hcs, rfl⟩
        exact ⟨⟨c, hc⟩, cs, hcs⟩
      · rintro ⟨⟨c, hc⟩, cs, hcs⟩
        exact ⟨_, c, cs, hc, hcs, rfl⟩

end Node

/-- A sequence is left when one of its members is. -/
lemma Command.exists_ofMembers_iff {cs : List Command} :
    (∃ c, ofMembers cs = .ok c) ↔ ∃ c ∈ cs, c.isEmptyCall = false := by
  have hfilter : (∃ c ∈ cs, c.isEmptyCall = false) ↔
      (cs.filter fun c => !c.isEmptyCall) ≠ [] := by
    simp [List.filter_eq_nil_iff]
  rw [hfilter, ofMembers]
  split
  · next h => simp [h]
  · next c h => simp [h]
  · next hnil _ => exact ⟨fun _ => hnil, fun _ => ⟨_, rfl⟩⟩

namespace Node

variable {read : Text → Except SyntaxError Command}

/-- A member that is kept is one that is not assembled to an empty call. -/
lemma exists_kept_iff {nodes : List Node} {cs : List Command}
    (h : assembleMembers read nodes = .ok cs) :
    (∃ c ∈ cs, c.isEmptyCall = false) ↔
      ∃ m ∈ nodes, ¬ ∃ c, m.assembleWith read = .ok c ∧ c.isEmptyCall = true := by
  induction assembleMembers_eq_ok_iff.mp h with
  | nil => simp
  | @cons n c ns cs hn hns ih =>
      have hkept : (¬ ∃ c', n.assembleWith read = .ok c' ∧ c'.isEmptyCall = true) ↔
          c.isEmptyCall = false := by
        simp [assembleWith, hn]
      rw [List.exists_mem_cons_iff, List.exists_mem_cons_iff, hkept,
        ih (assembleMembers_eq_ok_iff.mpr hns)]

/-- A line is a member by itself, or a sequence of members. -/
lemma Canonical.member_or_sequence {node : Node} (h : node.Canonical) :
    node.CanonicalMember ∨
      ∃ members, node = .sequence members ∧ ∀ n ∈ members, n.CanonicalMember := by
  cases node with
  | call parts => exact Or.inl h.1
  | pipeline stages => exact Or.inl h
  | sequence members => exact Or.inr ⟨members, rfl, h.2⟩

/-- **Assembling fails only at calls**, or because nothing of a sequence is left. -/
lemma exists_assembleWith_iff {node : Node} (hcan : node.Canonical) :
    (∃ c, node.assembleWith read = .ok c) ↔
      (∀ x ∈ node.calls false, ∃ k, Call.assemble read x.1 x.2 = .ok k) ∧
        ∀ members, node = .sequence members →
          ∃ m ∈ members, ¬ ∃ c, m.assembleWith read = .ok c ∧ c.isEmptyCall = true := by
  rcases hcan.member_or_sequence with hmember | ⟨nodes, rfl, hnodes⟩
  · rw [assembleWith, exists_assembleStage_iff hmember, iff_self_and]
    rintro _ members rfl
    exact hmember.elim
  · rw [calls, ← exists_assembleMembers_iff hnodes]
    have hsequence : (∃ c, assembleWith read (.sequence nodes) = .ok c) ↔
        ∃ cs, assembleMembers read nodes = .ok cs ∧ ∃ c, Command.ofMembers cs = .ok c := by
      constructor
      · rintro ⟨c, hc⟩
        obtain ⟨cs, hcs, hmembers⟩ := assembleStage_sequence_eq_ok hc
        exact ⟨cs, hcs, c, hmembers⟩
      · rintro ⟨cs, hcs, c, hc⟩
        exact ⟨c, by rw [assembleWith, assembleStage, hcs]; exact hc⟩
    rw [hsequence]
    constructor
    · rintro ⟨cs, hcs, hc⟩
      refine ⟨⟨cs, hcs⟩, ?_⟩
      rintro _ ⟨⟩
      exact (exists_kept_iff hcs).mp (Command.exists_ofMembers_iff.mp hc)
    · rintro ⟨⟨cs, hcs⟩, hkept⟩
      exact ⟨cs, hcs, Command.exists_ofMembers_iff.mpr ((exists_kept_iff hcs).mpr (hkept _ rfl))⟩

lemma canonicalList_of_stageCalls {nodes : List Node} (hcan : ∀ n ∈ nodes, n.CanonicalStage) :
    ∀ x ∈ stageCalls nodes, Part.CanonicalList x.2 := by
  induction nodes with
  | nil => simp [stageCalls]
  | cons n ns ih =>
      obtain ⟨hn, hns⟩ := List.forall_mem_cons.mp hcan
      rw [stageCalls, List.forall_mem_append]
      refine ⟨?_, ih hns⟩
      cases n with
      | sequence _ => exact hn.elim
      | pipeline _ => exact hn.elim
      | call parts =>
          rw [calls, List.forall_mem_singleton]
          exact hn.1

lemma canonicalList_of_calls_member {node : Node} (hcan : node.CanonicalMember) (piped : Bool) :
    ∀ x ∈ node.calls piped, Part.CanonicalList x.2 := by
  cases node with
  | sequence _ => exact hcan.elim
  | pipeline nodes =>
      rw [calls]
      exact canonicalList_of_stageCalls hcan.2
  | call parts =>
      rw [calls, List.forall_mem_singleton]
      exact hcan

lemma canonicalList_of_memberCalls {nodes : List Node}
    (hcan : ∀ n ∈ nodes, n.CanonicalMember) :
    ∀ x ∈ memberCalls nodes, Part.CanonicalList x.2 := by
  induction nodes with
  | nil => simp [memberCalls]
  | cons n ns ih =>
      obtain ⟨hn, hns⟩ := List.forall_mem_cons.mp hcan
      rw [memberCalls, List.forall_mem_append]
      exact ⟨canonicalList_of_calls_member hn false, ih hns⟩

/-- The calls of a line that has been read are canonical. -/
lemma canonicalList_of_calls {node : Node} (hcan : node.Canonical) :
    ∀ x ∈ node.calls false, Part.CanonicalList x.2 := by
  rcases hcan.member_or_sequence with hmember | ⟨nodes, rfl, hnodes⟩
  · exact canonicalList_of_calls_member hmember false
  · rw [calls]
    exact canonicalList_of_memberCalls hnodes

/-! ## Admissible nodes -/

/-- What is asked of a node, call by call, so that its line is a command. -/
structure Admissible (node : Node) : Prop where
  /-- A stage that is not the last sends its output to the next one. -/
  output : ∀ parts, (true, parts) ∈ node.calls false →
    ∀ op target, Part.redirect op target ∈ parts → op ≠ .output ∧ op ≠ .append
  /-- No backquoted span lies under a backquoted span of the call. -/
  nested : ∀ piped parts, (piped, parts) ∈ node.calls false →
    ∀ contents, Part.quoted .back contents ∈ parts → contents.backCount = 0
  /-- A call has one backquoted span at most, unless one lies under single quotes. -/
  single : ∀ piped parts, (piped, parts) ∈ node.calls false →
    parts.any Part.silences = false → (parts.flatMap Part.backquoted).length ≤ 1
  /-- What it holds is a command, unless it is blank. -/
  runnable : ∀ piped parts, (piped, parts) ∈ node.calls false →
    parts.any Part.silences = false → ∀ inner, parts.flatMap Part.backquoted = [inner] →
      Text.isBlankText inner = false → ∃ command, Command.ofText inner = .ok command
  /-- A member of a sequence is not assembled to an empty call. -/
  kept : ∀ members, node = .sequence members →
    ∃ m ∈ members, ¬ ∃ c, m.assemble = .ok c ∧ c.isEmptyCall = true

end Node

namespace Part

lemma any_nests_eq_false_iff {parts : List Part} :
    parts.any nests = false ↔
      ∀ contents, Part.quoted .back contents ∈ parts → contents.backCount = 0 := by
  rw [List.any_eq_false]
  constructor
  · intro h contents hmem
    have hnests := h _ hmem
    simpa [nests] using hnests
  · intro h p hp
    cases p with
    | literal run => simp [nests]
    | redirect op target => simp [nests]
    | quoted kind contents =>
        simp only [nests, decide_eq_true_eq, not_and, not_not]
        rintro rfl
        exact h contents hp

lemma anyOutput_redirections_eq_false_iff {parts : List Part} :
    Redirection.anyOutput (parts.flatMap redirections) = false ↔
      ∀ op target, Part.redirect op target ∈ parts → op ≠ .output ∧ op ≠ .append := by
  have hop : ∀ (op : Operator) (target : Text),
      ((Redirection.ofOperator op target).direction == .output) = false ↔
        op ≠ .output ∧ op ≠ .append := by
    intro op target
    cases op <;> simp [Redirection.ofOperator]
  simp only [Redirection.anyOutput, List.any_eq_false, Bool.not_eq_true]
  constructor
  · intro h op target hmem
    exact (hop op target).mp (h _ (List.mem_flatMap.mpr ⟨_, hmem, by simp [redirections]⟩))
  · intro h r hr
    obtain ⟨p, hp, hmem⟩ := List.mem_flatMap.mp hr
    cases p with
    | literal run => cases hmem
    | quoted kind contents => cases hmem
    | redirect op target =>
        rw [List.mem_singleton.mp hmem]
        exact (hop op target).mpr (h op target hp)

end Part

lemma Node.admissible_iff {node : Node} (hcan : node.Canonical) :
    node.Admissible ↔ ∃ c, node.assemble = .ok c := by
  have hcalls := canonicalList_of_calls hcan
  rw [assemble, exists_assembleWith_iff hcan]
  constructor
  · rintro ⟨houtput, hnested, hsingle, hrunnable, hkept⟩
    refine ⟨?_, hkept⟩
    rintro ⟨piped, parts⟩ hx
    refine (Call.exists_assemble_iff (hcalls _ hx).1).mpr
      ⟨⟨?_, ?_, hsingle piped parts hx⟩, hrunnable piped parts hx⟩
    · exact Part.any_nests_eq_false_iff.mpr (hnested piped parts hx)
    · rintro rfl
      exact Part.anyOutput_redirections_eq_false_iff.mpr (houtput parts hx)
  · rintro ⟨hassemble, hkept⟩
    have hgathers : ∀ piped parts, (piped, parts) ∈ node.calls false → _ :=
      fun piped parts hx => (Call.exists_assemble_iff (hcalls _ hx).1).mp (hassemble _ hx)
    refine ⟨?_, ?_, ?_, ?_, hkept⟩
    · intro parts hx
      exact Part.anyOutput_redirections_eq_false_iff.mp ((hgathers true parts hx).1.output rfl)
    · intro piped parts hx
      exact Part.any_nests_eq_false_iff.mp (hgathers piped parts hx).1.nests
    · exact fun piped parts hx => (hgathers piped parts hx).1.single
    · exact fun piped parts hx => (hgathers piped parts hx).2

/-- **Which lines are commands.**  A line that can be parsed is a command just when its node is
    admissible, and any other is a syntax error.  In particular, where no backquoted span of a
    call lies under single quotes, none lies under another one, through whatever quotes. -/
theorem Command.ofText_isOk_iff_admissible {line : Text} {node : Node}
    (h : Node.parse line = .ok node) :
    ((∃ c, ofText line = .ok c) ↔ node.Admissible) ∧
      (¬ node.Admissible → ∃ e : SyntaxError, ofText line = .error e) ∧
      ∀ piped parts, (piped, parts) ∈ node.calls false → parts.any Part.silences = false →
        ∀ p ∈ parts, p.nestsBack = true → ∃ e : SyntaxError, ofText line = .error e := by
  have hiff : (∃ c, ofText line = .ok c) ↔ node.Admissible := by
    rw [Node.admissible_iff (Node.canonical_of_parse h), ofText_eq, h]
    rfl
  have hfails : ¬ node.Admissible → ∃ e : SyntaxError, ofText line = .error e := by
    intro hnot
    cases hline : ofText line with
    | error e => exact ⟨e, rfl⟩
    | ok c => exact absurd (hiff.mp ⟨c, hline⟩) hnot
  refine ⟨hiff, hfails, ?_⟩
  intro piped parts hcall hsilences p hp hnests
  refine hfails fun hadmissible => ?_
  -- the outer span and the inner one are two
  have htwo := Part.two_le_length_backquoted hnests
  have hone := hadmissible.single piped parts hcall hsilences
  have hle : p.backquoted.length ≤ (parts.flatMap Part.backquoted).length :=
    (List.sublist_flatten_of_mem (List.mem_map_of_mem hp)).length_le
  omega

/-- Double quotes, backquotes, single quotes, backquotes: the inner span is found by counting. -/
theorem Command.ofText_nested_in_double :
    ∃ node, Node.parse "echo \"`a '`b`'`\"".toList = .ok node ∧ ¬ node.Admissible ∧
      ∃ e : SyntaxError, ofText "echo \"`a '`b`'`\"".toList = .error e := by
  let span : Part := .quoted .double (.span .back (.text "a ".toList
    (.span .single (.span .back (.text "b".toList .done) .done) .done)) .done)
  have hparse : Node.parse "echo \"`a '`b`'`\"".toList =
      .ok (.call [.literal "echo ".toList, span]) := rfl
  obtain ⟨hiff, _, hnested⟩ := ofText_isOk_iff_admissible hparse
  obtain ⟨e, he⟩ := hnested false [.literal "echo ".toList, span] (by simp [Node.calls]) rfl span
    (by simp) rfl
  refine ⟨_, hparse, fun hadmissible => ?_, e, he⟩
  obtain ⟨c, hc⟩ := hiff.mpr hadmissible
  rw [hc] at he
  cases he

/-- The same span is let through by a call that has a backquoted span under single quotes
    elsewhere. -/
theorem Command.ofText_nested_beside_single :
    ∃ contents, Node.parse "echo '`x`' \"`a '`b`'`\"".toList = .ok (.call
        [.literal "echo ".toList, .quoted .single (.span .back (.text "x".toList .done) .done),
          .literal " ".toList, .quoted .double contents]) ∧
      contents.nestsBack = true ∧
      ∃ c, ofText "echo '`x`' \"`a '`b`'`\"".toList = .ok c := by
  have hparse : Node.parse "echo '`x`' \"`a '`b`'`\"".toList = .ok (.call
      [.literal "echo ".toList, .quoted .single (.span .back (.text "x".toList .done) .done),
        .literal " ".toList, .quoted .double (.span .back (.text "a ".toList
          (.span .single (.span .back (.text "b".toList .done) .done) .done)) .done)]) := rfl
  refine ⟨_, hparse, rfl, ?_⟩
  rw [ofText_eq, hparse]
  exact ⟨_, rfl⟩

end LineShell
