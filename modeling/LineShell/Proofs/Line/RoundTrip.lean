import LineShell.Proofs.Line.Canonical
import LineShell.Proofs.Line.Printing
import Mathlib.Tactic.Common

/-!
# Reading and printing undo each other

A canonical node that is printed and read again is the same node, and a line that has been read
and printed again is the tidied line.

**Reading what was printed.**  The proof goes up the grammar: `Reader.foldlM_quotation` for the
contents of a span, `Reader.reads_part` for one part, `Reader.reads_parts` for a call, then stages
and members.  At every level a reader takes the printed text and ends with exactly that piece
added.  The pieces compose by `Reader.Reads.append`, which asks that a target is not extended by
what stands behind it; this is what the rules for neighbours are for.
-/

namespace LineShell

/-! ## Quotations -/

namespace Quotation

/-- One quotation behind another. -/
def append : Quotation → Quotation → Quotation
  | done, q => q
  | text run rest, q => text run (rest.append q)
  | span kind inner rest, q => span kind inner (rest.append q)

@[simp] lemma append_done : ∀ q : Quotation, q.append done = q
  | done => rfl
  | text run rest => by rw [append, append_done rest]
  | span kind inner rest => by rw [append, append_done rest]

lemma append_assoc (q₁ q₂ q₃ : Quotation) :
    (q₁.append q₂).append q₃ = q₁.append (q₂.append q₃) := by
  induction q₁ with
  | done => rfl
  | text run rest ih => simp only [append, ih]
  | span kind inner rest _ ih => simp only [append, ih]

lemma pushSpan_eq_append (kind : Quote) (inner : Quotation) :
    ∀ q : Quotation, pushSpan kind inner q = q.append (span kind inner done)
  | done => rfl
  | text run rest => by rw [pushSpan, append, pushSpan_eq_append kind inner rest]
  | span k i rest => by rw [pushSpan, append, pushSpan_eq_append kind inner rest]

/-- Whether a run of text stands last. -/
def endsWithText : Quotation → Bool
  | done => false
  | text _ done => true
  | text _ rest => rest.endsWithText
  | span _ _ rest => rest.endsWithText

lemma endsWithText_append_span (kind : Quote) (inner : Quotation) :
    ∀ q : Quotation, (q.append (span kind inner done)).endsWithText = false
  | done => rfl
  | text _ done => rfl
  | text _ (text r rest) => endsWithText_append_span kind inner (text r rest)
  | text _ (span k i rest) => endsWithText_append_span kind inner (span k i rest)
  | span _ _ rest => endsWithText_append_span kind inner rest

/-- A character starts a run of its own unless one stands last. -/
lemma pushChar_of_endsWithText (c : Char) :
    ∀ q : Quotation, q.endsWithText = false → q.pushChar c = q.append (text [c] done)
  | done, _ => rfl
  | text run done, h => by cases h
  | text run (text r rest), h => by
      rw [pushChar, append, pushChar_of_endsWithText c (text r rest) h]
      simp
  | text run (span k i rest), h => by
      rw [pushChar, append, pushChar_of_endsWithText c (span k i rest) h]
      simp
  | span k i rest, h => by
      rw [pushChar, append, pushChar_of_endsWithText c rest h]

/-- A character joins the run that stands last. -/
lemma pushChar_append_text (c : Char) (run : Text) :
    ∀ q : Quotation, (q.append (text run done)).pushChar c = q.append (text (run ++ [c]) done)
  | done => rfl
  | text r done => rfl
  | text r (text r' rest) => by
      have ih := pushChar_append_text c run (text r' rest)
      simp only [append] at ih ⊢
      rw [pushChar, ih]
      simp
  | text r (span k i rest) => by
      have ih := pushChar_append_text c run (span k i rest)
      simp only [append] at ih ⊢
      rw [pushChar, ih]
      simp
  | span k i rest => by
      have ih := pushChar_append_text c run rest
      simp only [append]
      rw [pushChar, ih]

end Quotation

lemma Part.render_ne_nil {p : Part} (h : p.Canonical) : p.render ≠ [] := by
  cases p with
  | literal run => exact h.1
  | quoted kind contents => simp [Part.render]
  | redirect op target => cases op <;> simp [Part.render, Operator.symbol]

namespace Reader

section Pieces

variable {members : List Node} {stages : List (List Part)} {parts : List Part}

/-- Text inside a span joins the run that stands last. -/
lemma foldlM_run_extend (kind : Quote) (column : Nat) (acc : Quotation)
    (below : List OpenSpan) :
    ∀ (cs run : Text) (n : Nat), (∀ c ∈ cs, Quote.ofChar? c = none) →
      cs.foldlM step ⟨members, stages, parts,
          .quoted ⟨kind, column, acc.append (.text run .done)⟩ below, n⟩
        = .ok ⟨members, stages, parts,
          .quoted ⟨kind, column, acc.append (.text (run ++ cs) .done)⟩ below, n + cs.length⟩
  | [], run, n, _ => by simp; rfl
  | c :: cs, run, n, h => by
      have ih := foldlM_run_extend kind column acc below cs (run ++ [c]) (n + 1)
        fun d hd => h d (List.mem_cons_of_mem c hd)
      rw [foldlM_cons_of_step (step_of_advance (.text rfl (h c (by simp))))]
      simp only [Quotation.pushChar_append_text]
      rw [ih]
      simp [Nat.add_assoc, Nat.add_comm 1]

/-- **The contents of a span.**  They are added to what its span holds already, as long as no two
    runs of text meet. -/
lemma foldlM_quotation :
    ∀ (q : Quotation) (kind : Quote) (column : Nat) (acc : Quotation) (below : List OpenSpan)
      (n : Nat), q.Canonical kind → (acc.endsWithText = true → q.startsWithText = false) →
      q.render.foldlM step ⟨members, stages, parts, .quoted ⟨kind, column, acc⟩ below, n⟩
        = .ok ⟨members, stages, parts, .quoted ⟨kind, column, acc.append q⟩ below,
          n + q.render.length⟩
  | .done, kind, column, acc, below, n, _, _ => by simp [Quotation.render]; rfl
  | .text run rest, kind, column, acc, below, n, ⟨hrun, hchars, hrest, hcan⟩, hmeet => by
      obtain ⟨c, cs, rfl⟩ := List.exists_cons_of_ne_nil hrun
      have hacc : acc.endsWithText = false := by
        cases h : acc.endsWithText with
        | false => rfl
        | true => exact absurd (hmeet h) (by simp [Quotation.startsWithText])
      have ih := foldlM_quotation rest kind column (acc.append (.text (c :: cs) .done)) below
        (n + 1 + cs.length) hcan fun _ => hrest
      rw [Quotation.render, List.cons_append,
        foldlM_cons_of_step (step_of_advance (.text rfl (hchars c (by simp))))]
      simp only [Quotation.pushChar_of_endsWithText c acc hacc]
      rw [foldlM_append_of_run (foldlM_run_extend kind column acc below cs [c] (n + 1)
        fun d hd => hchars d (List.mem_cons_of_mem c hd)), List.singleton_append, ih,
        Quotation.append_assoc]
      simp only [Quotation.append, List.length_cons, List.length_append]
      congr 2
      omega
  | .span k inner rest, kind, column, acc, below, n, ⟨hk, hinner, hrest⟩, _ => by
      have ihInner := foldlM_quotation inner k (n + 1) .done (⟨kind, column, acc⟩ :: below)
        (n + 1) hinner fun h => by cases h
      have ihRest := foldlM_quotation rest kind column (acc.append (.span k inner .done)) below
        (n + 1 + inner.render.length + 1) hrest fun h => by
          rw [Quotation.endsWithText_append_span] at h
          cases h
      have hclose : ∀ m, step ⟨members, stages, parts,
          .quoted ⟨k, n + 1, inner⟩ (⟨kind, column, acc⟩ :: below), m⟩ k.delimiter
          = .ok ⟨members, stages, parts,
            .quoted ⟨kind, column, Quotation.pushSpan k inner acc⟩ below, m + 1⟩ :=
        fun m => step_of_advance (@Advance.closeInner ⟨members, stages, parts, _, m⟩
          ⟨k, n + 1, inner⟩ ⟨kind, column, acc⟩ below rfl)
      rw [Quotation.render, foldlM_cons_of_step (step_of_advance (.openInner rfl hk)),
        foldlM_append_of_run ihInner]
      simp only [Quotation.append]
      rw [foldlM_cons_of_step (hclose _), Quotation.pushSpan_eq_append, ihRest,
        Quotation.append_assoc]
      simp only [Quotation.append, List.length_cons, List.length_append]
      congr 2
      omega

/-! ## Parts -/

/-- Unquoted text joins the literal that stands last. -/
lemma foldlM_literal_extend :
    ∀ (cs run : Text) (n : Nat), (∀ c ∈ cs, isSpecial c = false ∧ c ≠ '\n' ∧ c ≠ '\r') →
      cs.foldlM step ⟨members, stages, parts ++ [.literal run], .plain, n⟩
        = .ok ⟨members, stages, parts ++ [.literal (run ++ cs)], .plain, n + cs.length⟩
  | [], run, n, _ => by simp; rfl
  | c :: cs, run, n, h => by
      obtain ⟨hs, hn, hr⟩ := h c (by simp)
      have hunbreak : unbreak c = c := by simp [unbreak, hn, hr]
      have ih := foldlM_literal_extend cs (run ++ [c]) (n + 1)
        fun d hd => h d (List.mem_cons_of_mem c hd)
      rw [foldlM_cons_of_step (step_of_advance (.plain rfl (.literal hs)))]
      simp only [pushLiteral_concat, hunbreak]
      rw [ih]
      simp [Nat.add_assoc, Nat.add_comm 1]

/-- The characters of a target are added to its name. -/
lemma foldlM_target_extend (op : Operator) :
    ∀ (cs name : Text) (n : Nat), (∀ c ∈ cs, isBlank c = false ∧ isSpecial c = false) →
      cs.foldlM step ⟨members, stages, parts, .target op name, n⟩
        = .ok ⟨members, stages, parts, .target op (name ++ cs), n + cs.length⟩
  | [], name, n, _ => by simp; rfl
  | c :: cs, name, n, h => by
      obtain ⟨hb, hs⟩ := h c (by simp)
      have ih := foldlM_target_extend op cs (name ++ [c]) (n + 1)
        fun d hd => h d (List.mem_cons_of_mem c hd)
      rw [foldlM_cons_of_step (step_of_advance (.name rfl hb hs)), ih]
      simp [Nat.add_assoc, Nat.add_comm 1]

/-- A target after a sign that could have been doubled, or after one that was. -/
lemma foldlM_target {reading : Reading} {op : Operator} (hop : targetOf reading = some (op, []))
    (target : Text) (n : Nat) (hne : target ≠ [])
    (h : ∀ c ∈ target, isBlank c = false ∧ isSpecial c = false) :
    target.foldlM step ⟨members, stages, parts, reading, n⟩
      = .ok ⟨members, stages, parts, .target op target, n + target.length⟩ := by
  obtain ⟨c, cs, rfl⟩ := List.exists_cons_of_ne_nil hne
  obtain ⟨hb, hs⟩ := h c (by simp)
  rw [foldlM_cons_of_step (step_of_advance (.name hop hb hs)), List.nil_append,
    foldlM_target_extend op cs [c] (n + 1) fun d hd => h d (List.mem_cons_of_mem c hd)]
  simp [Nat.add_assoc, Nat.add_comm 1]

/-- A whole redirection leaves its target in progress. -/
lemma foldlM_redirect (op : Operator) (target : Text) (n : Nat)
    (h : (Part.redirect op target).Canonical) :
    (Part.redirect op target).render.foldlM step ⟨members, stages, parts, .plain, n⟩
      = .ok ⟨members, stages, parts, .target op target,
        n + (Part.redirect op target).render.length⟩ := by
  obtain ⟨hne, hchars⟩ := h
  have hsingle : ∀ d, (sign d :: target).foldlM step ⟨members, stages, parts, .plain, n⟩
      = .ok ⟨members, stages, parts, .target (single d) target, n + (target.length + 1)⟩ := by
    intro d
    have hop : targetOf (.operator d) = some (single d, []) := rfl
    rw [foldlM_cons_of_step (step_of_advance (.plain rfl (.sign d))),
      foldlM_target hop target (n + 1) hne hchars]
    simp [Nat.add_assoc, Nat.add_comm 1]
  have hdouble : ∀ d, (sign d :: sign d :: target).foldlM step ⟨members, stages, parts, .plain, n⟩
      = .ok ⟨members, stages, parts, .target (doubled d) target, n + (target.length + 2)⟩ := by
    intro d
    have hop : targetOf (.target (doubled d) []) = some (doubled d, []) := rfl
    rw [foldlM_cons_of_step (step_of_advance (.plain rfl (.sign d))),
      foldlM_cons_of_step (step_of_advance (.double rfl)),
      foldlM_target hop target (n + 1 + 1) hne hchars]
    simp [Nat.add_assoc, Nat.add_comm 2]
  cases op with
  | input => exact hsingle .input
  | output => exact hsingle .output
  | append => exact hdouble .output
  | heredoc => exact hdouble .input

end Pieces

lemma Reads.cons {r s s' : Reader} {c : Char} {text : Text} (h : r.step c = .ok s)
    (hs : Reads s text s') : Reads r (c :: text) s' := by
  obtain ⟨r', hr', hsettle⟩ := hs
  exact ⟨r', by rw [foldlM_cons_of_step h, hr'], hsettle⟩

/-- **One part.**  It is added behind a part that it may follow. -/
lemma reads_part {s : Reader} {p : Part} (hs : s.reading = .plain) (hp : p.Canonical)
    (hf : ∀ q ∈ s.parts.getLast?, q.Follows p) :
    Reads s p.render { s with parts := s.parts ++ [p], count := s.count + p.render.length } := by
  obtain ⟨members, stages, parts, reading, n⟩ := s
  cases hs
  cases p with
  | literal run =>
      obtain ⟨hne, hchars⟩ := hp
      obtain ⟨c, cs, rfl⟩ := List.exists_cons_of_ne_nil hne
      obtain ⟨hc, hn, hr⟩ := hchars c (by simp)
      have hunbreak : unbreak c = c := by simp [unbreak, hn, hr]
      have hlast : ∀ run', parts.getLast? ≠ some (.literal run') := fun run' h => hf _ h
      refine ⟨_, ?_, settle_eq_ok_iff.mpr (Or.inl ⟨rfl, rfl⟩)⟩
      rw [Part.render, foldlM_cons_of_step (step_of_advance (.plain rfl (.literal hc)))]
      simp only [pushLiteral_of_ne c parts hlast, hunbreak]
      rw [foldlM_literal_extend cs [c] (n + 1) fun d hd => hchars d (List.mem_cons_of_mem c hd)]
      simp [Nat.add_assoc, Nat.add_comm 1]
  | quoted kind contents =>
      have hclose : ∀ m, step ⟨members, stages, parts, .quoted ⟨kind, n + 1, contents⟩ [], m⟩
          kind.delimiter
          = .ok ⟨members, stages, parts ++ [.quoted kind contents], .plain, m + 1⟩ :=
        fun m => step_of_advance (@Advance.closeOuter ⟨members, stages, parts, _, m⟩
          ⟨kind, n + 1, contents⟩ rfl)
      refine ⟨_, ?_, settle_eq_ok_iff.mpr (Or.inl ⟨rfl, rfl⟩)⟩
      rw [Part.render, foldlM_cons_of_step (step_of_advance (.plain rfl (.quote kind))),
        foldlM_append_of_run (foldlM_quotation contents kind (n + 1) .done [] (n + 1) hp
          fun h => by cases h)]
      simp only [Quotation.append]
      rw [foldlM_cons_of_step (hclose _)]
      simp [Nat.add_assoc, Nat.add_comm 1]
      rfl
  | redirect op target =>
      exact ⟨_, foldlM_redirect op target n hp,
        settle_eq_ok_iff.mpr (Or.inr ⟨op, target, rfl, hp.1, rfl⟩)⟩

/-- What may stand behind a redirection starts with a character that ends its target. -/
lemma head_render_of_follows {op : Operator} {target : Text} {p : Part}
    (hf : (Part.redirect op target).Follows p) :
    ∀ c ∈ p.render.head?, isBlank c = true ∨ isSpecial c = true := by
  intro c hc
  cases p with
  | literal run =>
      simp only [Part.render, Option.mem_def] at hc
      simp only [Part.Follows, hc, Option.any_some] at hf
      exact Or.inl hf
  | quoted kind contents =>
      simp only [Part.render, List.head?_cons, Option.mem_def, Option.some.injEq] at hc
      exact Or.inr (hc ▸ isSpecial_delimiter kind)
  | redirect op' target' =>
      cases op' <;> cases hc <;> exact Or.inr (by decide)

/-- Nor does the text of the parts behind a redirection extend its target. -/
lemma head_render_of_isChain {op : Operator} {target : Text} :
    ∀ {parts : List Part}, (∀ p ∈ parts, p.Canonical) →
      (Part.redirect op target :: parts).IsChain Part.Follows →
      ∀ c ∈ (parts.flatMap Part.render).head?, isBlank c = true ∨ isSpecial c = true
  | [], _, _ => by simp
  | p :: rest, hcan, hchain => by
      intro c hc
      have hne := Part.render_ne_nil (hcan p (by simp))
      rw [List.flatMap_cons, List.head?_append_of_ne_nil _ hne] at hc
      exact head_render_of_follows (List.isChain_cons_cons.mp hchain).1 c hc

/-- **A call.**  Its parts are added in order. -/
lemma reads_parts : ∀ (parts : List Part) {s : Reader}, s.reading = .plain →
    (∀ p ∈ parts, p.Canonical) → (s.parts ++ parts).IsChain Part.Follows →
    Reads s (parts.flatMap Part.render)
      { s with
        parts := s.parts ++ parts
        count := s.count + (parts.flatMap Part.render).length }
  | [], s, hs, _, _ => by simpa using Reads.nil hs
  | p :: rest, s, hs, hcan, hchain => by
      obtain ⟨_, hchain', hjoin⟩ := List.isChain_append.mp hchain
      have hcan' : ∀ q ∈ rest, q.Canonical := fun q hq => hcan q (List.mem_cons_of_mem p hq)
      have hp := reads_part hs (hcan p (by simp)) fun q hq => hjoin q hq p (by simp)
      have hrest := reads_parts rest
        (s := { s with parts := s.parts ++ [p], count := s.count + p.render.length }) hs hcan'
        (by simpa using hchain)
      have happend := hp.append hrest ?_
      · simpa [Nat.add_assoc] using happend
      · -- only a redirection leaves a target that could be extended
        cases p with
        | literal run => exact Or.inl (by simp)
        | quoted kind contents => exact Or.inl (by simp)
        | redirect op target => exact Or.inr (head_render_of_isChain hcan' hchain')

/-! ## Stages and members -/

/-- **A pipeline.**  The stages before the last are complete, and the last one is open. -/
lemma reads_stages (last : List Part) (hlast : Part.CanonicalList last) :
    ∀ (stages : List (List Part)) {s : Reader}, s.reading = .plain → s.parts = [] →
      (∀ parts ∈ stages, Part.CanonicalList parts) →
      ∃ n, Reads s (Node.renderEach '|' (stages.map .call) ++ last.flatMap Part.render)
        { s with stages := s.stages ++ stages, parts := last, count := n }
  | [], s, hs, hparts, _ => by
      have hread := reads_parts last hs hlast.1 (by simpa [hparts] using hlast.2)
      exact ⟨_, by simpa [Node.renderEach, hparts] using hread⟩
  | parts :: rest, s, hs, hparts, hstages => by
      obtain ⟨hcan, hchain⟩ := hstages parts (by simp)
      have hfirst := reads_parts parts hs hcan (by simpa [hparts] using hchain)
      have hbar := step_of_advance (.plain rfl .bar : Advance
        { s with
          parts := s.parts ++ parts
          count := s.count + (parts.flatMap Part.render).length
          reading := .plain } '|' _)
      rw [← hs] at hbar
      obtain ⟨n, hrest⟩ := reads_stages last hlast rest
        (s := { s with
          stages := s.stages ++ [s.parts ++ parts]
          parts := []
          count := s.count + (parts.flatMap Part.render).length + 1 }) hs rfl
        fun ps hps => hstages ps (List.mem_cons_of_mem parts hps)
      have hsep : ∀ c ∈ ('|' :: (Node.renderEach '|' (rest.map .call) ++
          last.flatMap Part.render)).head?, isBlank c = true ∨ isSpecial c = true := by
        rintro c ⟨⟩
        exact Or.inr (by decide)
      have happend := hfirst.append (.cons hbar hrest) (Or.inr hsep)
      exact ⟨n, by simpa [Node.renderEach, Node.render_call, hparts] using happend⟩

lemma exists_calls_of_canonicalStage : ∀ {nodes : List Node}, (∀ n ∈ nodes, n.CanonicalStage) →
    ∃ calls : List (List Part), nodes = calls.map .call
  | [], _ => ⟨[], rfl⟩
  | n :: rest, h => by
      obtain ⟨hn, hrest⟩ := List.forall_mem_cons.mp h
      obtain ⟨calls, rfl⟩ := exists_calls_of_canonicalStage hrest
      cases n with
      | call parts => exact ⟨parts :: calls, rfl⟩
      | pipeline _ => exact hn.elim
      | sequence _ => exact hn.elim

/-- A canonical member is a pipeline of canonical calls. -/
lemma exists_pipelineOf {node : Node} (h : node.CanonicalMember) :
    ∃ stages last, (∀ parts ∈ stages, Part.CanonicalList parts) ∧ Part.CanonicalList last ∧
      pipelineOf (stages ++ [last]) = .ok node := by
  cases node with
  | sequence _ => exact h.elim
  | call parts => exact ⟨[], parts, by simp, h, rfl⟩
  | pipeline nodes =>
      obtain ⟨hlen, hstages⟩ := h
      obtain ⟨calls, rfl⟩ := exists_calls_of_canonicalStage hstages
      have hcan : ∀ parts ∈ calls, Part.CanonicalList parts ∧ parts.all Part.isBlank = false :=
        fun parts hp => hstages (.call parts) (List.mem_map_of_mem hp)
      rw [List.length_map] at hlen
      have hne : calls ≠ [] := by rintro rfl; simp at hlen
      obtain ⟨stages, last, rfl⟩ := List.eq_nil_or_concat' calls |>.resolve_left hne
      refine ⟨stages, last, fun ps hps => (hcan ps (by simp [hps])).1, (hcan last (by simp)).1, ?_⟩
      exact pipelineOf_eq_ok_iff.mpr (Or.inr ⟨by omega, fun ps hps => (hcan ps hps).2, rfl⟩)

/-- **A line.**  The members before the last are complete, and the last pipeline is open. -/
lemma reads_members {stages : List (List Part)} {parts : List Part} {last : Node}
    (hstages : ∀ ps ∈ stages, Part.CanonicalList ps) (hparts : Part.CanonicalList parts)
    (hlast : pipelineOf (stages ++ [parts]) = .ok last) :
    ∀ (members : List Node) {s : Reader}, s.reading = .plain → s.stages = [] → s.parts = [] →
      (∀ n ∈ members, n.CanonicalMember) →
      ∃ n, Reads s (Node.renderEach ';' members ++ last.render)
        { s with
          members := s.members ++ members
          stages := stages
          parts := parts
          count := n }
  | [], s, hs, hst, hpt, _ => by
      obtain ⟨n, hread⟩ := reads_stages parts hparts stages hs hpt hstages
      refine ⟨n, ?_⟩
      rw [Node.render_of_pipelineOf hlast, Node.render_call]
      simpa [Node.renderEach, hst] using hread
  | node :: rest, s, hs, hst, hpt, hmembers => by
      obtain ⟨stages', parts', hstages', hparts', hnode⟩ :=
        exists_pipelineOf (hmembers node (by simp))
      obtain ⟨m, hfirst⟩ := reads_stages parts' hparts' stages' hs hpt hstages'
      rw [hst, List.nil_append] at hfirst
      have hsemi := step_of_advance (.plain hs (.close hnode) :
        Advance { s with stages := stages', parts := parts', count := m } ';' _)
      obtain ⟨n, hrest⟩ := reads_members hstages hparts hlast rest
        (s := { s with members := s.members ++ [node], stages := [], parts := [], count := m + 1 })
        hs rfl rfl fun k hk => hmembers k (List.mem_cons_of_mem node hk)
      have hsep : ∀ c ∈ (';' :: (Node.renderEach ';' rest ++ last.render)).head?,
          isBlank c = true ∨ isSpecial c = true := by
        rintro c ⟨⟩
        exact Or.inr (by decide)
      have happend := hfirst.append (.cons hsemi hrest) (Or.inr hsep)
      refine ⟨n, ?_⟩
      have htext : Node.renderEach ';' (node :: rest) ++ last.render
          = Node.renderEach '|' (stages'.map .call) ++ parts'.flatMap Part.render ++
            ';' :: (Node.renderEach ';' rest ++ last.render) := by
        simp [Node.renderEach, Node.render_of_pipelineOf hnode, Node.render_call]
      rw [htext]
      simpa using happend

end Reader

/-! ## Both ways -/

namespace Node

/-- A canonical node is a line of canonical members. -/
lemma exists_lineOf {node : Node} (h : node.Canonical) :
    ∃ members last, (∀ n ∈ members, n.CanonicalMember) ∧ last.CanonicalMember ∧
      node = Reader.lineOf (members ++ [last]) := by
  cases node with
  | call parts => exact ⟨[], .call parts, by simp, h.1, rfl⟩
  | pipeline stages => exact ⟨[], .pipeline stages, by simp, h, rfl⟩
  | sequence nodes =>
      obtain ⟨hlen, hcan⟩ := h
      have hne : nodes ≠ [] := by rintro rfl; simp at hlen
      obtain ⟨members, last, rfl⟩ := List.eq_nil_or_concat' nodes |>.resolve_left hne
      exact ⟨members, last, fun n hn => hcan n (by simp [hn]), hcan last (by simp),
        (Reader.lineOf_of_two_le hlen).symm⟩

lemma isBlankText_eq_false {text : Text} {c : Char} (hc : c ∈ text) (hb : isBlank c = false) :
    Text.isBlankText text = false := by
  rw [Bool.eq_false_iff]
  intro h
  rw [List.all_eq_true.mp h c hc] at hb
  cases hb

/-- A part prints as blanks only if it is a literal of blanks. -/
lemma isBlankText_render_part (p : Part) : Text.isBlankText p.render = p.isBlank := by
  cases p with
  | literal run => rfl
  | quoted kind contents =>
      refine isBlankText_eq_false (c := kind.delimiter) (by simp [Part.render]) ?_
      exact isBlank_eq_false_of_isSpecial (isSpecial_delimiter kind)
  | redirect op target => cases op <;> rfl

/-- A call prints as blanks only if all its parts are blank. -/
lemma isBlankText_render_call (parts : List Part) :
    Text.isBlankText (call parts).render = parts.all Part.isBlank := by
  rw [render_call]
  induction parts with
  | nil => rfl
  | cons p rest ih =>
      have hp := isBlankText_render_part p
      simp only [Text.isBlankText] at ih hp ⊢
      rw [List.flatMap_cons, List.all_append, ih, hp, List.all_cons]

/-- A canonical node does not print as blanks. -/
lemma isBlankText_render {node : Node} (h : node.Canonical) :
    Text.isBlankText node.render = false := by
  have hsep : ∀ (sep : Char) (nodes : List Node), isBlank sep = false → 2 ≤ nodes.length →
      Text.isBlankText (renderAll sep nodes) = false := by
    intro sep nodes hb hlen
    match nodes, hlen with
    | n :: m :: rest, _ => exact isBlankText_eq_false (c := sep) (by simp [renderAll]) hb
  cases node with
  | call parts => rw [isBlankText_render_call]; exact h.2
  | pipeline stages => rw [render]; exact hsep '|' stages (by decide) h.1
  | sequence members => rw [render]; exact hsep ';' members (by decide) h.1

/-- **Printing, then reading.**  A canonical node is read back as it was. -/
lemma parse_render {node : Node} (h : node.Canonical) : parse node.render = .ok node := by
  obtain ⟨members, last, hmembers, hlast, rfl⟩ := exists_lineOf h
  obtain ⟨stages, parts, hstages, hparts, hpipe⟩ := Reader.exists_pipelineOf hlast
  obtain ⟨n, hread⟩ := Reader.reads_members hstages hparts hpipe members
    (s := {}) rfl rfl rfl hmembers
  rw [List.nil_append] at hread
  rw [← render_lineOf] at hread
  exact parse_eq_ok_iff.mpr ⟨isBlankText_render h, _, last, hread, hpipe, rfl⟩

/-- **Reading gives canonical nodes.** -/
lemma canonical_of_parse {line : Text} {node : Node} (h : parse line = .ok node) :
    node.Canonical := by
  have hrender := render_of_parse h
  obtain ⟨hblank, s, last, hs, hlast, rfl⟩ := parse_eq_ok_iff.mp h
  have hbuilt := hs.built Reader.canonical_empty
  refine Reader.canonical_lineOf hbuilt.members
    (Reader.canonicalMember_of_pipelineOf hbuilt.open_stages (by simp) hlast) ?_
  -- a call that stands alone prints as the whole line, which is not blank
  rintro hnil parts rfl
  rw [hnil] at hrender
  have hline : (call parts).render = Text.tidy line := hrender
  rw [← isBlankText_render_call, hline, Text.tidy, Text.isBlankText_tidyFrom, hblank]

/-- **Reading and printing undo each other.**  A canonical node that is printed and read again is
    the same node.  A line that can be read gives a canonical node, which prints as the line with
    the line breaks outside quotes turned into spaces and the spaces and tabs after the
    redirection operators outside quotes left out. -/
theorem parse_render_round_trip :
    (∀ node : Node, node.Canonical → parse node.render = .ok node) ∧
      ∀ (line : Text) (node : Node), parse line = .ok node →
        node.Canonical ∧ node.render = Text.tidy line :=
  ⟨fun _ h => parse_render h, fun _ _ h => ⟨canonical_of_parse h, render_of_parse h⟩⟩

/-- Three kinds of quotes inside one another, a redirection with blanks behind it, a line break
    and an empty member. -/
theorem parse_render_nested :
    ∃ node : Node, node.Canonical ∧ parse node.render = .ok node ∧
      parse "grep \"a 'b;``'\">>  \tout|\ncat;".toList = .ok node ∧
      node.render = "grep \"a 'b;``'\">>out| cat;".toList := by
  let node : Node := .sequence
    [.pipeline
      [.call
        [.literal "grep ".toList,
          .quoted .double (.text "a ".toList
            (.span .single (.text "b;".toList (.span .back .done .done)) .done)),
          .redirect .append "out".toList],
        .call [.literal " cat".toList]],
      .call []]
  have hparse : parse "grep \"a 'b;``'\">>  \tout|\ncat;".toList = .ok node := rfl
  obtain ⟨hprint, hread⟩ := parse_render_round_trip
  obtain ⟨hcanonical, hrender⟩ := hread _ _ hparse
  exact ⟨node, hcanonical, hprint node hcanonical, hparse, hrender⟩

end Node

end LineShell
