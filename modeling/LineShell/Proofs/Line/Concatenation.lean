import LineShell.Proofs.Line.RoundTrip
import Mathlib.Tactic.Common

/-!
# Lines put together

Two lines with a semicolon between them are read as one sequence, two pipelines with a bar between
them as one pipeline.

**The reader does not look back.**  `Reader.behind` is a reader with more members and stages before
what it has read, and with its columns moved on.  `Reader.Advance.behind` says that every
transition is the same there.  The one exception is ending a pipeline, where the stages before it
would take part; so a run may stand behind stages only if it ends no pipeline.

**The laws.**  `Node.parse_semicolon` and `Node.parse_bar`.  A separator never stands inside a
quote or a target of the first line, because that line can be read to its end.
-/

namespace LineShell

namespace Reader

/-! ## Readers behind other readers -/

/-- The same in progress, with every column moved on. -/
def shift (k : Nat) : Reading → Reading
  | .quoted top below =>
    .quoted { top with column := top.column + k }
      (below.map fun s => { s with column := s.column + k })
  | reading => reading

/-- The reader with members and stages before what it has read, after `k` more characters. -/
def behind (members : List Node) (stages : List (List Part)) (k : Nat) (r : Reader) : Reader :=
  { members := members ++ r.members
    stages := stages ++ r.stages
    parts := r.parts
    reading := shift k r.reading
    count := r.count + k }

variable {members : List Node} {stages : List (List Part)} {k : Nat}

lemma targetOf_shift (reading : Reading) : targetOf (shift k reading) = targetOf reading := by
  cases reading <;> rfl

lemma PlainStep.behind {r r' : Reader} {c : Char} (h : PlainStep r c r')
    (hr : r.reading = .plain) (hend : stages = [] ∨ r'.members = []) :
    PlainStep (r.behind members stages k) c (r'.behind members stages k) := by
  have hr' : (r.behind members stages k).reading = .plain := by simp [Reader.behind, hr, shift]
  cases h with
  | close hnode =>
      rcases hend with rfl | hnil
      · have hclose := PlainStep.close (r := r.behind members [] k)
          (by simpa [Reader.behind] using hnode)
        simpa [Reader.behind] using hclose
      · simp at hnil
  | bar =>
      have hbar := PlainStep.bar (r := r.behind members stages k)
      simpa [Reader.behind] using hbar
  | sign d =>
      have hsign := PlainStep.sign (r := r.behind members stages k) d
      simpa [Reader.behind, shift] using hsign
  | quote kind =>
      have hquote := PlainStep.quote (r := r.behind members stages k) kind
      simpa [Reader.behind, shift, Nat.add_right_comm] using hquote
  | literal hc =>
      have hliteral := PlainStep.literal (r := r.behind members stages k) hc
      simpa [Reader.behind, shift] using hliteral

/-- **A reader does not look back.**  It makes the same transitions behind other members, and
    behind other stages as long as it ends no pipeline. -/
lemma Advance.behind {r r' : Reader} {c : Char} (h : Advance r c r')
    (hend : stages = [] ∨ r'.members = []) :
    Advance (r.behind members stages k) c (r'.behind members stages k) := by
  cases h with
  | plain hr hs => exact .plain (by simp [Reader.behind, hr, shift]) (hs.behind hr hend)
  | @double d hr =>
      have hr' : (r.behind members stages k).reading = .operator d := by
        simp [Reader.behind, hr, shift]
      have hdouble := Advance.double hr'
      simpa [Reader.behind, shift] using hdouble
  | @skip op c ht hc =>
      have ht' : targetOf (r.behind members stages k).reading = some (op, []) := by
        simpa [Reader.behind, targetOf_shift] using ht
      have hskip := Advance.skip ht' hc
      simpa [Reader.behind, shift] using hskip
  | @name op name c ht hb hs =>
      have ht' : targetOf (r.behind members stages k).reading = some (op, name) := by
        simpa [Reader.behind, targetOf_shift] using ht
      have hname := Advance.name ht' hb hs
      simpa [Reader.behind, shift] using hname
  | @endTarget op name c r' hr hn hc hs =>
      have hr' : (r.behind members stages k).reading = .target op name := by
        simp [Reader.behind, hr, shift]
      exact .endTarget hr' hn hc (hs.behind rfl hend)
  | @closeOuter top hr =>
      have hr' : (r.behind members stages k).reading
          = .quoted { top with column := top.column + k } [] := by
        simp [Reader.behind, hr, shift]
      have hclose := Advance.closeOuter hr'
      simpa [Reader.behind, shift] using hclose
  | @closeInner top next rest hr =>
      have hr' : (r.behind members stages k).reading
          = .quoted { top with column := top.column + k }
            ({ next with column := next.column + k } ::
              rest.map fun s => { s with column := s.column + k }) := by
        simp [Reader.behind, hr, shift]
      have hclose := Advance.closeInner hr'
      simpa [Reader.behind, shift] using hclose
  | @openInner top below kind hr hk =>
      have hr' : (r.behind members stages k).reading
          = .quoted { top with column := top.column + k }
            (below.map fun s => { s with column := s.column + k }) := by
        simp [Reader.behind, hr, shift]
      have hopen := Advance.openInner hr' hk
      simpa [Reader.behind, shift, Nat.add_right_comm] using hopen
  | @text top below c hr hc =>
      have hr' : (r.behind members stages k).reading
          = .quoted { top with column := top.column + k }
            (below.map fun s => { s with column := s.column + k }) := by
        simp [Reader.behind, hr, shift]
      have htext := Advance.text hr' hc
      simpa [Reader.behind, shift] using htext

/-- Members are never taken back. -/
lemma PlainStep.members_prefix {r r' : Reader} {c : Char} (h : PlainStep r c r') :
    r.members <+: r'.members := by
  cases h with
  | close _ => exact List.prefix_append _ _
  | _ => exact List.prefix_rfl

lemma Advance.members_prefix {r r' : Reader} {c : Char} (h : Advance r c r') :
    r.members <+: r'.members := by
  cases h with
  | plain _ hs => exact hs.members_prefix
  | endTarget _ _ _ hs => exact hs.members_prefix
  | _ => exact List.prefix_rfl

lemma members_prefix_of_run : ∀ {text : Text} {r r' : Reader},
    text.foldlM step r = .ok r' → r.members <+: r'.members
  | [], r, r', h => by cases h; exact List.prefix_rfl
  | c :: cs, r, r', h => by
      obtain ⟨s, hs, h⟩ := foldlM_step_cons.mp h
      obtain ⟨s', ha, rfl⟩ := step_eq_ok_iff.mp hs
      have ih := members_prefix_of_run h
      exact ha.members_prefix.trans ih

/-- Hence a whole run is the same behind another reader. -/
lemma foldlM_behind : ∀ {text : Text} {r r' : Reader}, text.foldlM step r = .ok r' →
    stages = [] ∨ r'.members = [] →
    text.foldlM step (r.behind members stages k) = .ok (r'.behind members stages k)
  | [], r, r', h, _ => by cases h; rfl
  | c :: cs, r, r', h, hend => by
      obtain ⟨s, hs, h⟩ := foldlM_step_cons.mp h
      have hend' : stages = [] ∨ s.members = [] := by
        refine hend.imp_right fun hnil => ?_
        have := members_prefix_of_run h
        rwa [hnil, List.prefix_nil] at this
      obtain ⟨s', ha, rfl⟩ := step_eq_ok_iff.mp hs
      have hstep := step_of_advance (ha.behind (k := k) hend' : Advance
        (r.behind members stages k) c (s'.behind members stages k))
      have hcount : ({ s'.behind members stages k with
          count := (r.behind members stages k).count + 1 } : Reader)
          = Reader.behind members stages k { s' with count := r.count + 1 } := by
        simp [Reader.behind, Nat.add_right_comm]
      rw [foldlM_cons_of_step hstep, hcount, foldlM_behind h hend]

lemma Reads.behind {r s : Reader} {text : Text} (h : Reads r text s)
    (hend : stages = [] ∨ s.members = []) :
    Reads (r.behind members stages k) text (s.behind members stages k) := by
  obtain ⟨r', hrun, hs⟩ := h
  have hmembers : s.members = r'.members := by
    rcases settle_eq_ok_iff.mp hs with ⟨_, rfl⟩ | ⟨_, _, _, _, rfl⟩ <;> rfl
  rw [hmembers] at hend
  refine ⟨_, foldlM_behind hrun hend, ?_⟩
  rcases settle_eq_ok_iff.mp hs with ⟨hr, rfl⟩ | ⟨op, name, hr, hn, rfl⟩
  · exact settle_eq_ok_iff.mpr (Or.inl ⟨by simp [Reader.behind, hr, shift], rfl⟩)
  · exact settle_eq_ok_iff.mpr (Or.inr ⟨op, name, by simp [Reader.behind, hr, shift], hn,
      by simp [Reader.behind, shift]⟩)

/-! ## Two texts with a separator -/

lemma behind_empty : Reader.behind members stages k {} = { members, stages, count := k } := by
  simp [Reader.behind, shift]

/-- Behind a semicolon, the members of the first text are complete. -/
lemma Reads.semicolon {a b : Text} {r s : Reader} {node : Node} (ha : Reads {} a r)
    (hnode : pipelineOf (r.stages ++ [r.parts]) = .ok node) (hb : Reads {} b s) :
    Reads {} (a ++ ';' :: b) (s.behind (r.members ++ [node]) [] (r.count + 1)) := by
  have hstep := step_of_advance (.plain ha.reading_eq (.close hnode))
  have hread : Reads (Reader.behind (r.members ++ [node]) [] (r.count + 1) {}) b
      (s.behind (r.members ++ [node]) [] (r.count + 1)) := hb.behind (Or.inl rfl)
  rw [behind_empty] at hread
  refine ha.append (.cons hstep ?_) (Or.inr ?_)
  · simpa [ha.reading_eq] using hread
  · rintro c ⟨⟩
    exact Or.inr (by decide)

/-- Behind a bar, the stages of the first text are complete. -/
lemma Reads.bar {a b : Text} {r s : Reader} (ha : Reads {} a r) (hb : Reads {} b s)
    (hs : s.members = []) :
    Reads {} (a ++ '|' :: b) (s.behind r.members (r.stages ++ [r.parts]) (r.count + 1)) := by
  have hstep := step_of_advance (.plain ha.reading_eq .bar)
  have hread : Reads (Reader.behind r.members (r.stages ++ [r.parts]) (r.count + 1) {}) b
      (s.behind r.members (r.stages ++ [r.parts]) (r.count + 1)) := hb.behind (Or.inr hs)
  rw [behind_empty] at hread
  refine ha.append (.cons hstep ?_) (Or.inr ?_)
  · simpa [ha.reading_eq] using hread
  · rintro c ⟨⟩
    exact Or.inr (by decide)

end Reader

namespace Node

/-- The members of a line; one that stands alone is its only member. -/
def members : Node → List Node
  | sequence nodes => nodes
  | node => [node]

/-- The stages of a pipeline; a call that stands alone is its only stage. -/
def stages : Node → List Node
  | pipeline nodes => nodes
  | node => [node]

/-- Whether the node is a sequence. -/
def isSequence : Node → Bool
  | sequence _ => true
  | _ => false

lemma members_of_canonicalMember {node : Node} (h : node.CanonicalMember) :
    node.members = [node] := by
  cases node with
  | sequence _ => exact h.elim
  | pipeline _ => rfl
  | call _ => rfl

lemma members_lineOf {nodes : List Node} {last : Node} (h : last.CanonicalMember) :
    (Reader.lineOf (nodes ++ [last])).members = nodes ++ [last] := by
  cases nodes with
  | nil => exact members_of_canonicalMember h
  | cons n ns => rw [Reader.lineOf_of_two_le (by simp)]; rfl

/-- What a line has been read into: its members, the last of which is the open pipeline. -/
lemma exists_reads_of_parse {line : Text} {node : Node} (h : parse line = .ok node) :
    ∃ s last, Reader.Reads {} line s ∧ Reader.pipelineOf (s.stages ++ [s.parts]) = .ok last ∧
      node = Reader.lineOf (s.members ++ [last]) ∧ node.members = s.members ++ [last] := by
  obtain ⟨_, s, last, hs, hlast, rfl⟩ := parse_eq_ok_iff.mp h
  have hbuilt := hs.built Reader.canonical_empty
  have hcan := Reader.canonicalMember_of_pipelineOf hbuilt.open_stages (by simp) hlast
  exact ⟨s, last, hs, hlast, rfl, members_lineOf hcan⟩

/-- A text with a character that is not blank, such as a separator, is not blank. -/
lemma isBlankText_append_cons (a b : Text) {c : Char} (hc : isBlank c = false) :
    Text.isBlankText (a ++ c :: b) = false :=
  isBlankText_eq_false (by simp) hc

/-- **Lines with a semicolon between them** are read as the sequence of their members. -/
lemma parse_semicolon {a b : Text} {nodeA nodeB : Node} (ha : parse a = .ok nodeA)
    (hb : parse b = .ok nodeB) :
    parse (a ++ ';' :: b) = .ok (.sequence (nodeA.members ++ nodeB.members)) := by
  obtain ⟨r, lastA, hr, hlastA, _, hmembersA⟩ := exists_reads_of_parse ha
  obtain ⟨s, lastB, hs, hlastB, _, hmembersB⟩ := exists_reads_of_parse hb
  refine parse_eq_ok_iff.mpr ⟨isBlankText_append_cons a b (by decide), _, lastB,
    hr.semicolon hlastA hs, by simpa [Reader.behind] using hlastB, ?_⟩
  -- with a member on either side there are two at least
  have hlen : 2 ≤ ((r.members ++ [lastA] ++ s.members) ++ [lastB]).length := by simp; omega
  rw [hmembersA, hmembersB, ← List.append_assoc]
  exact (Reader.lineOf_of_two_le hlen).symm

/-- A pipeline that has been read has no blank stage, also one that stands alone. -/
lemma stages_of_canonical {nodes : List (List Part)} {node : Node} (hne : nodes ≠ [])
    (hnode : Reader.pipelineOf nodes = .ok node) (hcan : node.Canonical) :
    node.stages = nodes.map .call ∧ ∀ parts ∈ nodes, parts.all Part.isBlank = false := by
  rcases Reader.pipelineOf_eq_ok_iff.mp hnode with ⟨parts, rfl, rfl⟩ | ⟨_, hb, rfl⟩
  · refine ⟨rfl, ?_⟩
    intro ps hps
    rw [List.mem_singleton.mp hps]
    exact hcan.2
  · exact ⟨rfl, hb⟩

/-- A line that is no sequence has been read without ending a pipeline. -/
lemma exists_reads_of_isSequence {line : Text} {node : Node} (h : parse line = .ok node)
    (hseq : node.isSequence = false) :
    ∃ s, Reader.Reads {} line s ∧ s.members = [] ∧
      node.stages = (s.stages ++ [s.parts]).map .call ∧
      ∀ parts ∈ s.stages ++ [s.parts], parts.all Part.isBlank = false := by
  obtain ⟨s, last, hs, hlast, hline, _⟩ := exists_reads_of_parse h
  have hnil : s.members = [] := by
    cases hm : s.members with
    | nil => rfl
    | cons n ns =>
        rw [hline, hm, Reader.lineOf_of_two_le (by simp)] at hseq
        cases hseq
  rw [hnil] at hline
  obtain rfl : node = last := hline
  obtain ⟨hstages, hblank⟩ := stages_of_canonical (by simp) hlast (canonical_of_parse h)
  exact ⟨s, hs, hnil, hstages, hblank⟩

/-- **Pipelines with a bar between them** are read as the pipeline of their stages. -/
lemma parse_bar {a b : Text} {nodeA nodeB : Node} (ha : parse a = .ok nodeA)
    (hb : parse b = .ok nodeB) (hseqA : nodeA.isSequence = false)
    (hseqB : nodeB.isSequence = false) :
    parse (a ++ '|' :: b) = .ok (.pipeline (nodeA.stages ++ nodeB.stages)) := by
  obtain ⟨r, hr, hnilA, hstagesA, hblankA⟩ := exists_reads_of_isSequence ha hseqA
  obtain ⟨s, hs, hnilB, hstagesB, hblankB⟩ := exists_reads_of_isSequence hb hseqB
  have hread := hr.bar hs hnilB
  refine parse_eq_ok_iff.mpr ⟨isBlankText_append_cons a b (by decide), _,
    .pipeline (nodeA.stages ++ nodeB.stages), hread, ?_, by simp [Reader.behind, hnilA, hnilB,
      Reader.lineOf]⟩
  refine Reader.pipelineOf_eq_ok_iff.mpr (Or.inr ⟨by simp [Reader.behind]; omega, ?_, ?_⟩)
  · intro parts hp
    have hmem : parts ∈ (r.stages ++ [r.parts]) ++ (s.stages ++ [s.parts]) := by
      simpa [Reader.behind] using hp
    rcases List.mem_append.mp hmem with hmem | hmem
    · exact hblankA parts hmem
    · exact hblankB parts hmem
  · rw [hstagesA, hstagesB]
    simp [Reader.behind]

end Node

end LineShell
