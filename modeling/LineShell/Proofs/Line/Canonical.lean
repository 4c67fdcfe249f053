import LineShell.Proofs.Line.Transition
import Mathlib.Data.List.Chain
import Mathlib.Tactic.Common

/-!
# Canonical parse trees

A parse tree is canonical when nothing in it could have been written otherwise: inner nodes have
two children or more, runs of text are nonempty and never adjacent, a run after a redirection
starts with the blank that ends its target, and a span never stands directly in one of its own
kind.

**Definitions.**  `Quotation.Canonical`, `Part.Canonical` with `Part.Follows` for neighbours, and
`Node.Canonical` for the levels of the tree.  All are decidable.

**The reader builds canonical trees.**  `Reader.Canonical` says the same of what has been read;
`Reader.Canonical.advance` keeps it along every transition, hence `Reader.Canonical.run` along
every text.  What is left open is whether a call that stands alone is blank, which only the whole
line decides.
-/

namespace LineShell

/-! ## Quotations -/

namespace Quotation

/-- Whether a run of text stands first. -/
def startsWithText : Quotation → Bool
  | text _ _ => true
  | _ => false

/-- The contents of a span of kind `enclosing` in the one form that reading gives. -/
def Canonical (enclosing : Quote) : Quotation → Prop
  | done => True
  | text run rest =>
    run ≠ [] ∧ (∀ c ∈ run, Quote.ofChar? c = none) ∧ rest.startsWithText = false ∧
      rest.Canonical enclosing
  | span kind inner rest => kind ≠ enclosing ∧ inner.Canonical kind ∧ rest.Canonical enclosing

instance decidableCanonical :
    (enclosing : Quote) → (q : Quotation) → Decidable (q.Canonical enclosing)
  | _, done => isTrue trivial
  | enclosing, text _ rest =>
    have := decidableCanonical enclosing rest
    inferInstanceAs (Decidable (_ ∧ _ ∧ _ ∧ _))
  | enclosing, span kind inner rest =>
    have := decidableCanonical kind inner
    have := decidableCanonical enclosing rest
    inferInstanceAs (Decidable (_ ∧ _ ∧ _))

lemma startsWithText_pushSpan (kind : Quote) (inner q : Quotation) :
    (pushSpan kind inner q).startsWithText = q.startsWithText := by
  cases q <;> rfl

/-- A span may be added at the end if its kind is another one. -/
lemma canonical_pushSpan {enclosing kind : Quote} {inner : Quotation} (hk : kind ≠ enclosing)
    (hi : inner.Canonical kind) :
    ∀ {q : Quotation}, q.Canonical enclosing → (pushSpan kind inner q).Canonical enclosing
  | done, _ => ⟨hk, hi, trivial⟩
  | text run rest, ⟨hrun, hc, hs, hr⟩ =>
      ⟨hrun, hc, by rw [startsWithText_pushSpan]; exact hs, canonical_pushSpan hk hi hr⟩
  | span k i rest, ⟨hk', hi', hr⟩ => ⟨hk', hi', canonical_pushSpan hk hi hr⟩

/-- A character that is no delimiter may be added at the end: it joins the run that stands there
    or starts a new one. -/
lemma canonical_pushChar {enclosing : Quote} {c : Char} (hc : Quote.ofChar? c = none) :
    ∀ {q : Quotation}, q.Canonical enclosing → (q.pushChar c).Canonical enclosing
  | done, _ => ⟨by simp, by simpa using hc, rfl, trivial⟩
  | text run done, ⟨hrun, hr, _, _⟩ => by
      refine ⟨by simp, ?_, rfl, trivial⟩
      intro d hd
      rcases List.mem_append.mp hd with hd | hd
      · exact hr d hd
      · rw [List.mem_singleton.mp hd]; exact hc
  | text run (text _ _), ⟨_, _, hs, _⟩ => by simp [startsWithText] at hs
  | text run (span k i rest), ⟨hrun, hr, _, hk, hi, hrest⟩ =>
      ⟨hrun, hr, rfl, hk, hi, canonical_pushChar hc hrest⟩
  | span k i rest, ⟨hk, hi, hrest⟩ => ⟨hk, hi, canonical_pushChar hc hrest⟩

end Quotation

/-! ## Parts -/

namespace Part

/-- A part in the one form that reading gives. -/
def Canonical : Part → Prop
  | literal run => run ≠ [] ∧ ∀ c ∈ run, isSpecial c = false ∧ c ≠ '\n' ∧ c ≠ '\r'
  | quoted kind contents => contents.Canonical kind
  | redirect _ target =>
    target ≠ [] ∧ ∀ c ∈ target, LineShell.isBlank c = false ∧ isSpecial c = false

/-- Whether the second part may stand right after the first: literals are never adjacent, and one
    after a redirection starts with a blank. -/
def Follows : Part → Part → Prop
  | literal _, literal _ => False
  | redirect _ _, literal run => run.head?.any LineShell.isBlank = true
  | _, _ => True

instance : DecidablePred Canonical
  | literal _ => inferInstanceAs (Decidable (_ ∧ _))
  | quoted kind contents => Quotation.decidableCanonical kind contents
  | redirect _ _ => inferInstanceAs (Decidable (_ ∧ _))

instance : DecidableRel Follows
  | literal _, literal _ => isFalse id
  | redirect _ _, literal _ => inferInstanceAs (Decidable (_ = true))
  | literal _, quoted _ _ | literal _, redirect _ _ | quoted _ _, _ | redirect _ _, quoted _ _
  | redirect _ _, redirect _ _ => isTrue trivial

/-- The parts of a call in the one form that reading gives. -/
def CanonicalList (parts : List Part) : Prop :=
  (∀ p ∈ parts, p.Canonical) ∧ parts.IsChain Follows

instance : DecidablePred CanonicalList :=
  fun parts => inferInstanceAs (Decidable ((∀ p ∈ parts, p.Canonical) ∧ parts.IsChain Follows))

end Part

/-! ## Nodes -/

namespace Node

/-- A stage of a pipeline: a call that is not blank. -/
def CanonicalStage : Node → Prop
  | call parts => Part.CanonicalList parts ∧ parts.all Part.isBlank = false
  | _ => False

/-- A member of a sequence: a call, or a pipeline of two stages or more. -/
def CanonicalMember : Node → Prop
  | call parts => Part.CanonicalList parts
  | pipeline stages => 2 ≤ stages.length ∧ ∀ n ∈ stages, n.CanonicalStage
  | sequence _ => False

/-- A line: a call that is not blank, a pipeline, or a sequence of two members or more. -/
def Canonical : Node → Prop
  | sequence members => 2 ≤ members.length ∧ ∀ n ∈ members, n.CanonicalMember
  | pipeline stages => (pipeline stages).CanonicalMember
  | call parts => (call parts).CanonicalStage

instance : DecidablePred CanonicalStage
  | call _ => inferInstanceAs (Decidable (_ ∧ _))
  | pipeline _ | sequence _ => isFalse id

instance : DecidablePred CanonicalMember
  | call parts => inferInstanceAs (Decidable (Part.CanonicalList parts))
  | pipeline _ => inferInstanceAs (Decidable (_ ∧ _))
  | sequence _ => isFalse id

instance : DecidablePred Canonical
  | sequence _ => inferInstanceAs (Decidable (_ ∧ _))
  | pipeline stages => inferInstanceAs (Decidable (pipeline stages).CanonicalMember)
  | call parts => inferInstanceAs (Decidable (call parts).CanonicalStage)

end Node

/-! ## Readers -/

namespace Reader

/-- A part may be added where it may follow what stands last. -/
lemma canonicalList_concat {parts : List Part} {p : Part} (h : Part.CanonicalList parts)
    (hp : p.Canonical) (hf : ∀ q ∈ parts.getLast?, q.Follows p) :
    Part.CanonicalList (parts ++ [p]) := by
  refine ⟨?_, ?_⟩
  · intro q hq
    rcases List.mem_append.mp hq with hq | hq
    · exact h.1 q hq
    · rw [List.mem_singleton.mp hq]; exact hp
  · refine List.isChain_append.mpr ⟨h.2, List.isChain_singleton p, ?_⟩
    intro q hq p' hp'
    simp only [List.head?_cons, Option.mem_def, Option.some.injEq] at hp'
    exact hp' ▸ hf q hq

/-- A character that is not special may be added, after a redirection only if it is a blank. -/
lemma canonicalList_pushLiteral {parts : List Part} {c : Char} (h : Part.CanonicalList parts)
    (hc : isSpecial c = false)
    (hblank : ∀ op name, parts.getLast? = some (.redirect op name) → isBlank c = true) :
    Part.CanonicalList (pushLiteral c parts) := by
  have hcan : ∀ d ∈ [unbreak c], isSpecial d = false ∧ d ≠ '\n' ∧ d ≠ '\r' := by
    intro d hd
    rw [List.mem_singleton.mp hd]
    exact ⟨isSpecial_unbreak hc, unbreak_ne c⟩
  rcases pushLiteral_cases c parts with ⟨ps, run, rfl, heq⟩ | ⟨hlast, heq⟩
  · rw [heq]
    obtain ⟨hrun, hrunc⟩ := h.1 (.literal run) (by simp)
    obtain ⟨hchain, _, hjoin⟩ := List.isChain_append.mp h.2
    refine canonicalList_concat ⟨fun p hp => h.1 p (by simp [hp]), hchain⟩ ⟨by simp, ?_⟩ ?_
    · intro d hd
      rcases List.mem_append.mp hd with hd | hd
      · exact hrunc d hd
      · exact hcan d hd
    · -- the longer run starts as the old one did
      intro q hq
      have hfollows := hjoin q hq (.literal run) (by simp)
      obtain ⟨e, es, rfl⟩ := List.exists_cons_of_ne_nil hrun
      cases q with
      | literal _ => exact hfollows
      | quoted _ _ => trivial
      | redirect _ _ => exact hfollows
  · rw [heq]
    refine canonicalList_concat h ⟨by simp, hcan⟩ ?_
    intro q hq
    cases q with
    | literal run => exact absurd hq (hlast run)
    | quoted _ _ => trivial
    | redirect op name => simpa [Part.Follows] using hblank op name hq

/-- The spans that are open, innermost first. -/
def spansOf : Reading → List OpenSpan
  | .quoted top below => top :: below
  | _ => []

/-- What has been read to its end is canonical. -/
structure Built (r : Reader) : Prop where
  members : ∀ n ∈ r.members, n.CanonicalMember
  stages : ∀ parts ∈ r.stages, Part.CanonicalList parts
  parts : Part.CanonicalList r.parts

/-- What has been read is canonical, and so is what is in progress.  A plain reader never stands
    right after a redirection, because the character that ended the target has been taken. -/
structure Canonical (r : Reader) : Prop extends Built r where
  plain : r.reading = .plain → ∀ op name, r.parts.getLast? ≠ some (.redirect op name)
  target : ∀ op name, targetOf r.reading = some (op, name) →
    ∀ c ∈ name, isBlank c = false ∧ isSpecial c = false
  spans : ∀ s ∈ spansOf r.reading, s.contents.Canonical s.kind
  nested : ((spansOf r.reading).map OpenSpan.kind).IsChain (· ≠ ·)

/-- Nothing has been read. -/
lemma canonical_empty : Canonical {} where
  members := by simp
  stages := by simp
  parts := by simp [Part.CanonicalList]
  plain := by simp
  target := by simp [targetOf]
  spans := by simp [spansOf]
  nested := by simp [spansOf]

lemma canonicalMember_of_pipelineOf {stages : List (List Part)} {node : Node}
    (hs : ∀ parts ∈ stages, Part.CanonicalList parts) (hne : stages ≠ [])
    (h : pipelineOf stages = .ok node) : node.CanonicalMember := by
  rcases pipelineOf_eq_ok_iff.mp h with ⟨parts, rfl, rfl⟩ | ⟨hlen, hb, rfl⟩
  · exact hs parts (by simp)
  · have hpos := List.length_pos_iff.mpr hne
    refine ⟨by simp; omega, ?_⟩
    intro n hn
    obtain ⟨parts, hp, rfl⟩ := List.mem_map.mp hn
    exact ⟨hs parts hp, hb parts hp⟩

lemma Built.open_stages {r : Reader} (h : Built r) :
    ∀ parts ∈ r.stages ++ [r.parts], Part.CanonicalList parts := by
  intro parts hp
  rcases List.mem_append.mp hp with hp | hp
  · exact h.stages parts hp
  · rw [List.mem_singleton.mp hp]; exact h.parts

/-- Inside quotes, the open spans decide. -/
lemma Built.canonical_quoted {r : Reader} (h : Built r) {top : OpenSpan} {below : List OpenSpan}
    (hspans : ∀ s ∈ top :: below, s.contents.Canonical s.kind)
    (hnested : ((top :: below).map OpenSpan.kind).IsChain (· ≠ ·)) :
    Canonical { r with reading := .quoted top below } :=
  ⟨⟨h.members, h.stages, h.parts⟩, by simp, by simp [targetOf], hspans, hnested⟩

/-- A character taken in the plain state keeps what is built canonical, if it can follow the last
    part. -/
lemma PlainStep.canonical {r r' : Reader} {c : Char} (hs : PlainStep r c r') (h : Built r)
    (hr : r.reading = .plain)
    (hblank : isSpecial c = false → ∀ op name, r.parts.getLast? = some (.redirect op name) →
      isBlank c = true) : Canonical r' := by
  cases hs with
  | @close node hnode =>
      refine ⟨⟨?_, by simp, by simp [Part.CanonicalList]⟩, by simp, ?_, ?_, ?_⟩
      · intro n hn
        rcases List.mem_append.mp hn with hn | hn
        · exact h.members n hn
        · rw [List.mem_singleton.mp hn]
          exact canonicalMember_of_pipelineOf h.open_stages (by simp) hnode
      all_goals simp [hr, targetOf, spansOf]
  | bar =>
      refine ⟨⟨h.members, h.open_stages, by simp [Part.CanonicalList]⟩, by simp, ?_, ?_, ?_⟩
      all_goals simp [hr, targetOf, spansOf]
  | sign d =>
      refine ⟨⟨h.members, h.stages, h.parts⟩, by simp, ?_, ?_, ?_⟩
      all_goals simp [targetOf, spansOf]
  | quote k =>
      refine ⟨⟨h.members, h.stages, h.parts⟩, by simp, ?_, ?_, ?_⟩
      all_goals simp [targetOf, spansOf, Quotation.Canonical]
  | literal hc =>
      have hparts := canonicalList_pushLiteral h.parts hc (hblank hc)
      refine ⟨⟨h.members, h.stages, hparts⟩, ?_, ?_, ?_, ?_⟩
      · intro _ op name
        rcases pushLiteral_cases c r.parts with ⟨ps, run, _, heq⟩ | ⟨_, heq⟩ <;> simp [heq]
      all_goals simp [hr, targetOf, spansOf]

/-- **Every transition keeps the reader canonical.** -/
lemma Canonical.advance {r r' : Reader} {c : Char} (h : Canonical r) (ha : Advance r c r') :
    Canonical r' := by
  cases ha with
  | plain hr hs =>
      exact hs.canonical h.toBuilt hr fun _ op name hlast => absurd hlast (h.plain hr op name)
  | double hr =>
      refine ⟨⟨h.members, h.stages, h.parts⟩, by simp, ?_, ?_, ?_⟩
      all_goals simp [targetOf, spansOf]
  | skip ht hc =>
      refine ⟨⟨h.members, h.stages, h.parts⟩, by simp, ?_, ?_, ?_⟩
      all_goals simp [targetOf, spansOf]
  | @name op name c ht hb hs =>
      refine ⟨⟨h.members, h.stages, h.parts⟩, by simp, ?_, by simp [spansOf], by simp [spansOf]⟩
      intro op' name' heq d hd
      cases heq
      rcases List.mem_append.mp hd with hd | hd
      · exact h.target op name ht d hd
      · rw [List.mem_singleton.mp hd]; exact ⟨hb, hs⟩
  | @endTarget op name c r' hr hn hc hs =>
      have hred : Part.Canonical (.redirect op name) :=
        ⟨hn, h.target op name (by rw [hr]; rfl)⟩
      refine hs.canonical ⟨h.members, h.stages, ?_⟩ rfl ?_
      · refine canonicalList_concat h.parts hred ?_
        intro q _
        cases q <;> trivial
      · intro hsp _ _ _
        rcases hc with hc | hc
        · exact hc
        · rw [hsp] at hc; cases hc
  | @closeOuter top hr =>
      have htop := h.spans top (by simp [hr, spansOf])
      have hparts : Part.CanonicalList (r.parts ++ [.quoted top.kind top.contents]) := by
        refine canonicalList_concat h.parts htop ?_
        intro q _
        cases q <;> trivial
      refine ⟨⟨h.members, h.stages, hparts⟩, by simp, ?_, ?_, ?_⟩
      all_goals simp [targetOf, spansOf]
  | @closeInner top next rest hr =>
      have hspans := h.spans
      have hnested := h.nested
      simp only [hr, spansOf, List.map_cons, List.forall_mem_cons] at hspans hnested
      obtain ⟨htop, hnext, hrest⟩ := hspans
      obtain ⟨hkind, hchain⟩ := List.isChain_cons_cons.mp hnested
      refine h.toBuilt.canonical_quoted ?_ hchain
      exact List.forall_mem_cons.mpr ⟨Quotation.canonical_pushSpan hkind htop hnext, hrest⟩
  | @openInner top below k hr hk =>
      have hspans := h.spans
      have hnested := h.nested
      simp only [hr, spansOf, List.map_cons] at hspans hnested
      refine h.toBuilt.canonical_quoted ?_ (List.isChain_cons_cons.mpr ⟨hk, hnested⟩)
      exact List.forall_mem_cons.mpr ⟨trivial, hspans⟩
  | @text top below c hr hc =>
      have hspans := h.spans
      have hnested := h.nested
      simp only [hr, spansOf, List.map_cons, List.forall_mem_cons] at hspans hnested
      refine h.toBuilt.canonical_quoted ?_ hnested
      exact List.forall_mem_cons.mpr ⟨Quotation.canonical_pushChar hc hspans.1, hspans.2⟩

lemma Canonical.step {r r' : Reader} {c : Char} (h : Canonical r) (hs : r.step c = .ok r') :
    Canonical r' := by
  obtain ⟨s, ha, rfl⟩ := step_eq_ok_iff.mp hs
  have hc := h.advance ha
  exact ⟨⟨hc.members, hc.stages, hc.parts⟩, hc.plain, hc.target, hc.spans, hc.nested⟩

/-- Hence reading a text keeps it canonical, too. -/
lemma Canonical.run {r r' : Reader} {text : Text} (h : Canonical r)
    (hr : text.foldlM Reader.step r = .ok r') : Canonical r' :=
  foldlM_step_induction (fun _ _ _ hP hs => hP.step hs) h hr

/-- Whatever can be read to its end builds canonical parts, stages and members. -/
lemma Reads.built {r s : Reader} {text : Text} (h : Reads r text s) (hr : Canonical r) :
    Built s := by
  obtain ⟨r', hrun, hs⟩ := h
  have hc := hr.run hrun
  rcases settle_eq_ok_iff.mp hs with ⟨_, rfl⟩ | ⟨op, name, hread, hn, rfl⟩
  · exact hc.toBuilt
  · refine ⟨hc.members, hc.stages, canonicalList_concat hc.parts ⟨hn, ?_⟩ ?_⟩
    · exact hc.target op name (by rw [hread]; rfl)
    · intro q _
      cases q <;> trivial

/-- A line of canonical members is canonical, if a call that stands alone is not blank. -/
lemma canonical_lineOf {members : List Node} {last : Node}
    (hm : ∀ n ∈ members, n.CanonicalMember) (hlast : last.CanonicalMember)
    (hb : members = [] → ∀ parts, last = .call parts → parts.all Part.isBlank = false) :
    (lineOf (members ++ [last])).Canonical := by
  cases members with
  | nil =>
      cases last with
      | sequence _ => exact hlast.elim
      | pipeline _ => exact hlast
      | call parts => exact ⟨hlast, hb rfl parts rfl⟩
  | cons n ns =>
      rw [lineOf_of_two_le (by simp)]
      refine ⟨by simp, ?_⟩
      intro m hmem
      rcases List.mem_append.mp hmem with hmem | hmem
      · exact hm m hmem
      · rw [List.mem_singleton.mp hmem]; exact hlast

end Reader

end LineShell
