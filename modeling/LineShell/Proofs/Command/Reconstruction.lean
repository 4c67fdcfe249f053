import LineShell.Command.Draft
import LineShell.Proofs.Line.Transition
import Mathlib.Tactic.Common

/-!
# How a draft is put together

**One step at a time.**  What it takes to rebuild a nested span, to add a part and to put a call
together, for a draft that has been.

**Pipes only forbid.**  A stage with another one behind it is put together as it would be alone,
unless it sends its output to a file, which is then its only error (`Draft.gather_piped`).
-/

namespace LineShell

/-- Whether one of the redirections of a call sends its output to a file. -/
def Redirection.anyOutput (rs : List Redirection) : Bool :=
  rs.any fun r => r.direction == .output

namespace Draft

/-! ## Quoted spans -/

/-- What rebuilding a nested span does: the span is allowed, its contents are rebuilt, and the
    rest follows it with its delimiters. -/
lemma rebuild_span_eq_ok {outermost enclosing kind : Quote} {d d' : Draft}
    {inner rest : Quotation}
    (h : rebuild outermost enclosing d (.span kind inner rest) = .ok d') :
    ¬ (kind = .back ∧ (enclosing = .back ∨ outermost = .back)) ∧
      ∃ i, rebuild outermost kind {} inner = .ok i ∧
        rebuild outermost enclosing
          (pushSpan { d with
            disqualified := d.disqualified || decide (kind = .back ∧ outermost = .single) }
            kind i true) rest = .ok d' := by
  rw [rebuild] at h
  split_ifs at h with hback
  refine ⟨hback, ?_⟩
  split at h
  · cases h
  · next i hi => exact ⟨i, hi, h⟩

/-! ## Calls -/

lemma addPart_quoted_eq_ok {piped : Bool} {d : Draft} {rs : List Redirection} {kind : Quote}
    {contents : Quotation} {e : Draft × List Redirection}
    (h : addPart piped (d, rs) (.quoted kind contents) = .ok e) :
    ∃ i, rebuild kind kind {} contents = .ok i ∧ e = (d.pushSpan kind i (kind == .back), rs) := by
  simp only [addPart] at h
  split at h
  · cases h
  · next i hi => cases h; exact ⟨i, hi, rfl⟩

lemma addPart_redirect_eq_ok {piped : Bool} {d : Draft} {rs : List Redirection} {op : Operator}
    {target : Text} {e : Draft × List Redirection}
    (h : addPart piped (d, rs) (.redirect op target) = .ok e) :
    (piped && (Redirection.ofOperator op target).direction == .output) = false ∧
      e = (d, rs ++ [Redirection.ofOperator op target]) := by
  simp only [addPart] at h
  split_ifs at h with hout
  cases h
  exact ⟨by simpa using hout, rfl⟩

lemma gather_eq_ok_iff {piped : Bool} {parts : List Part} {d : Draft} {rs : List Redirection} :
    gather piped parts = .ok (d, rs) ↔
      parts.foldlM (addPart piped) ({}, []) = .ok (d, rs) ∧
        (d.count > 1 && !d.disqualified) = false := by
  simp only [gather]
  cases parts.foldlM (addPart piped) ({}, []) with
  | error e => simp
  | ok e =>
      obtain ⟨d', rs'⟩ := e
      simp only
      split_ifs with hmany
      · simp only [false_iff, not_and]
        rintro ⟨⟩
        simp [hmany]
      · constructor
        · rintro ⟨⟩
          exact ⟨rfl, by simpa using hmany⟩
        · exact And.left

/-! ## Stages -/

/-- Parts that are put together for a call alone are put together in the same way for a stage,
    or the first output redirection among them is refused. -/
lemma foldlM_addPart_piped : ∀ {parts : List Part} {d d' : Draft} {rs rs' : List Redirection},
    parts.foldlM (addPart false) (d, rs) = .ok (d', rs') →
    ∃ added, rs' = rs ++ added ∧
      parts.foldlM (addPart true) (d, rs) =
        if Redirection.anyOutput added then .error .outputInPipeline else .ok (d', rs')
  | [], d, d', rs, rs', h => by cases h; exact ⟨[], by simp, rfl⟩
  | p :: rest, d, d', rs, rs', h => by
      rw [List.foldlM_cons, bind_eq_ok_iff] at h
      obtain ⟨⟨e, es⟩, he, h⟩ := h
      obtain ⟨added, hadded, hrest⟩ := foldlM_addPart_piped h
      rw [List.foldlM_cons]
      cases p with
      | literal run =>
          cases he
          exact ⟨added, hadded, hrest⟩
      | quoted kind contents =>
          obtain ⟨i, hi, heq⟩ := addPart_quoted_eq_ok he
          cases heq
          refine ⟨added, hadded, ?_⟩
          rw [← hrest]
          simp only [addPart, hi]
          rfl
      | redirect op target =>
          obtain ⟨_, heq⟩ := addPart_redirect_eq_ok he
          cases heq
          refine ⟨Redirection.ofOperator op target :: added, by simp [hadded], ?_⟩
          by_cases hout : (Redirection.ofOperator op target).direction = .output
          · simp [addPart, Redirection.anyOutput, hout]
            rfl
          · have hout' : ((Redirection.ofOperator op target).direction == .output) = false := by
              simpa using hout
            simp only [addPart, hout', Bool.and_false, Redirection.anyOutput, List.any_cons,
              Bool.false_or]
            exact hrest

/-- **A stage is put together as a call alone**, unless it sends its output to a file. -/
lemma gather_piped {parts : List Part} {d : Draft} {rs : List Redirection}
    (h : gather false parts = .ok (d, rs)) :
    gather true parts =
      if Redirection.anyOutput rs then .error .outputInPipeline else .ok (d, rs) := by
  obtain ⟨hfold, hmany⟩ := gather_eq_ok_iff.mp h
  obtain ⟨added, hadded, hpiped⟩ := foldlM_addPart_piped hfold
  rw [List.nil_append] at hadded
  subst hadded
  split_ifs with hout
  · simp [gather, hpiped, hout]
  · rw [if_neg hout] at hpiped
    exact gather_eq_ok_iff.mpr ⟨hpiped, hmany⟩

end Draft

end LineShell
