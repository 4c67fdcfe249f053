import LineShell.Command.Assembly
import LineShell.Proofs.Line.Printing
import Mathlib.Tactic.Common

/-!
# Quoted spans as they were written

Reading tidies a line, but only outside its quotes: a quoted span of a call stands in the line
with its delimiters, character by character (`Node.quotedIn_of_parse`).

`Reader.Verbatim` is the invariant that carries this.  What has been read to its end stands in the
text so far, and the spans that are open are the last thing that has been read, so the delimiter
that closes the outermost one completes it in the text as well.
-/

namespace LineShell

/-- The quoted spans among some parts stand in a text, delimiters included. -/
def Part.QuotedIn (text : Text) (parts : List Part) : Prop :=
  ∀ kind contents, Part.quoted kind contents ∈ parts →
    (Part.quoted kind contents).render <:+: text

namespace Part.QuotedIn

variable {text : Text} {parts : List Part}

lemma nil : QuotedIn text [] := by
  intro kind contents h
  cases h

lemma snoc (h : QuotedIn text parts) (c : Char) : QuotedIn (text ++ [c]) parts := by
  intro kind contents hp
  exact List.infix_append_of_infix_left (h kind contents hp)

lemma concat (h : QuotedIn text parts) {p : Part}
    (hp : ∀ kind contents, p = .quoted kind contents → p.render <:+: text) :
    QuotedIn text (parts ++ [p]) := by
  intro kind contents hmem
  rcases List.mem_append.mp hmem with hmem | hmem
  · exact h kind contents hmem
  · obtain rfl := List.mem_singleton.mp hmem
    exact hp kind contents rfl

lemma redirect (h : QuotedIn text parts) (op : Operator) (name : Text) :
    QuotedIn text (parts ++ [.redirect op name]) := by
  refine h.concat ?_
  intro kind contents heq
  cases heq

lemma pushLiteral (h : QuotedIn text parts) (c : Char) :
    QuotedIn text (Reader.pushLiteral c parts) := by
  rcases Reader.pushLiteral_cases c parts with ⟨ps, run, rfl, heq⟩ | ⟨_, heq⟩
  · rw [heq]
    intro kind contents hmem
    refine h kind contents ?_
    simpa using hmem
  · rw [heq]
    refine h.concat ?_
    intro kind contents heq
    cases heq

end Part.QuotedIn

/-! ## The calls of what has been read -/

namespace Node

lemma mem_memberCalls {x : Bool × List Part} {nodes : List Node} :
    x ∈ memberCalls nodes ↔ ∃ n ∈ nodes, x ∈ n.calls false := by
  induction nodes with
  | nil => simp [memberCalls]
  | cons n ns ih => simp [memberCalls, ih]

lemma mem_stages_of_stageCalls {x : Bool × List Part} {stages : List (List Part)}
    (h : x ∈ stageCalls (stages.map .call)) : x.2 ∈ stages := by
  induction stages with
  | nil => simp [stageCalls] at h
  | cons parts rest ih =>
      rw [List.map_cons, stageCalls, calls, List.mem_append, List.mem_singleton] at h
      rcases h with rfl | h
      · exact List.mem_cons_self
      · exact List.mem_cons_of_mem parts (ih h)

lemma mem_stages_of_pipelineOf {stages : List (List Part)} {node : Node}
    (h : Reader.pipelineOf stages = .ok node) {piped : Bool} {x : Bool × List Part}
    (hx : x ∈ node.calls piped) : x.2 ∈ stages := by
  rcases Reader.pipelineOf_eq_ok_iff.mp h with ⟨parts, rfl, rfl⟩ | ⟨_, _, rfl⟩
  · rw [calls, List.mem_singleton] at hx
    simp [hx]
  · rw [calls] at hx
    exact mem_stages_of_stageCalls hx

lemma mem_members_of_lineOf {nodes : List Node} {x : Bool × List Part}
    (h : x ∈ (Reader.lineOf nodes).calls false) : ∃ n ∈ nodes, x ∈ n.calls false := by
  rcases nodes with _ | ⟨n, _ | ⟨m, rest⟩⟩
  · simp [Reader.lineOf, calls, memberCalls] at h
  · exact ⟨n, by simp, h⟩
  · rw [Reader.lineOf_of_two_le (by simp), calls] at h
    exact mem_memberCalls.mp h

end Node

/-! ## Readers -/

namespace Reader

/-- The quoted spans that have been read stand in the text so far, and the open ones at its end. -/
structure Verbatim (r : Reader) (text : Text) : Prop where
  members : ∀ n ∈ r.members, ∀ x ∈ n.calls false, Part.QuotedIn text x.2
  stages : ∀ parts ∈ r.stages, Part.QuotedIn text parts
  parts : Part.QuotedIn text r.parts
  spans : ∀ top below, r.reading = .quoted top below → renderReading r.reading <:+ text

lemma verbatim_empty : Verbatim {} [] where
  members := by simp
  stages := by simp
  parts := .nil
  spans := by simp

variable {r r' : Reader} {text : Text} {c : Char}

lemma Verbatim.open_stages (h : Verbatim r text) :
    ∀ parts ∈ r.stages ++ [r.parts], Part.QuotedIn text parts := by
  intro parts hp
  rcases List.mem_append.mp hp with hp | hp
  · exact h.stages parts hp
  · rw [List.mem_singleton.mp hp]
    exact h.parts

/-- Whatever is in progress next, what has been read to its end stays where it is. -/
lemma Verbatim.progress (h : Verbatim r text) (c : Char) {reading : Reading}
    (hspans : ∀ top below, reading = .quoted top below →
      renderReading reading <:+ text ++ [c]) :
    Verbatim { r with reading := reading } (text ++ [c]) where
  members n hn x hx := (h.members n hn x hx).snoc c
  stages parts hp := (h.stages parts hp).snoc c
  parts := h.parts.snoc c
  spans := hspans

lemma Verbatim.plainStep (h : Verbatim r text) (hr : r.reading = .plain)
    (hs : PlainStep r c r') : Verbatim r' (text ++ [c]) := by
  cases hs with
  | @close node hnode =>
      refine ⟨?_, by simp, .nil, by simp [hr]⟩
      intro n hn x hx
      rcases List.mem_append.mp hn with hn | hn
      · exact (h.members n hn x hx).snoc _
      · rw [List.mem_singleton.mp hn] at hx
        exact (h.open_stages _ (Node.mem_stages_of_pipelineOf hnode hx)).snoc _
  | bar =>
      refine ⟨?_, ?_, .nil, by simp [hr]⟩
      · intro n hn x hx
        exact (h.members n hn x hx).snoc _
      · intro parts hp
        exact (h.open_stages parts hp).snoc _
  | sign d => exact h.progress _ (by simp)
  | quote k =>
      refine h.progress _ ?_
      intro top below _
      simp [renderReading, renderSpan, Quotation.render]
  | literal hc =>
      refine ⟨?_, ?_, ?_, by simp [hr]⟩
      · intro n hn x hx
        exact (h.members n hn x hx).snoc _
      · intro parts hp
        exact (h.stages parts hp).snoc _
      · exact (h.parts.pushLiteral c).snoc c

/-- **Every transition keeps quoted spans as they are written.**  Inside quotes the character is
    added to the open spans and to the text alike. -/
lemma Verbatim.advance (h : Verbatim r text) (ha : Advance r c r') :
    Verbatim r' (text ++ [c]) := by
  -- a character that the open spans take stands behind them in the text
  have hsnoc : ∀ {top : OpenSpan} {below : List OpenSpan} {reading : Reading},
      r.reading = .quoted top below → ∀ d : Char,
      renderReading reading = renderReading (.quoted top below) ++ [d] →
      renderReading reading <:+ text ++ [d] := by
    intro top below reading hr d heq
    have hopen := h.spans top below hr
    rw [hr] at hopen
    rw [heq, List.suffix_append_inj_of_length_eq rfl]
    exact ⟨hopen, rfl⟩
  cases ha with
  | plain hr hs => exact h.plainStep hr hs
  | double hr => exact h.progress _ (by simp)
  | skip ht hc => exact h.progress _ (by simp)
  | name ht hb hs => exact h.progress _ (by simp)
  | @endTarget op name c r' hr hn hc hs =>
      have hended : Verbatim
          { r with parts := r.parts ++ [.redirect op name], reading := .plain } text :=
        ⟨h.members, h.stages, h.parts.redirect op name, by simp⟩
      exact hended.plainStep rfl hs
  | @closeOuter top hr =>
      refine ⟨?_, ?_, (h.parts.snoc _).concat ?_, by simp⟩
      · intro n hn x hx
        exact (h.members n hn x hx).snoc _
      · intro parts hp
        exact (h.stages parts hp).snoc _
      · intro kind contents heq
        have hopen := h.spans top [] hr
        rw [hr] at hopen
        obtain ⟨before, rfl⟩ := hopen
        exact ⟨before, [], by simp [Part.render, renderReading, renderSpan]⟩
  | @closeInner top next rest hr =>
      refine h.progress _ ?_
      intro _ _ _
      refine hsnoc hr _ ?_
      simp [renderReading, renderSpan, Quotation.render_pushSpan, Part.render]
  | @openInner top below k hr hk =>
      refine h.progress _ ?_
      intro _ _ _
      refine hsnoc hr _ ?_
      simp [renderReading, renderSpan, Quotation.render]
  | @text top below c hr hc =>
      refine h.progress _ ?_
      intro _ _ _
      refine hsnoc hr _ ?_
      simp [renderReading, renderSpan, Quotation.render_pushChar]

lemma Verbatim.run : ∀ {rest : Text} {text : Text} {r r' : Reader}, Verbatim r text →
    rest.foldlM step r = .ok r' → Verbatim r' (text ++ rest)
  | [], text, r, r', h, hrun => by
      cases hrun
      simpa using h
  | c :: cs, text, r, r', h, hrun => by
      obtain ⟨s, hs, hrun⟩ := foldlM_step_cons.mp hrun
      obtain ⟨s', ha, rfl⟩ := step_eq_ok_iff.mp hs
      have hc := h.advance ha
      have hstep : Verbatim { s' with count := r.count + 1 } (text ++ [c]) :=
        ⟨hc.members, hc.stages, hc.parts, hc.spans⟩
      simpa using Verbatim.run hstep hrun

lemma Verbatim.settle {s : Reader} (h : Verbatim r text) (hs : r.settle = .ok s) :
    Verbatim s text := by
  rcases settle_eq_ok_iff.mp hs with ⟨_, rfl⟩ | ⟨op, name, _, _, rfl⟩
  · exact h
  · exact ⟨h.members, h.stages, h.parts.redirect op name, by simp⟩

end Reader

/-- **A quoted span stands in its line as it was written.** -/
theorem Node.quotedIn_of_parse {line : Text} {node : Node} (h : Node.parse line = .ok node) :
    ∀ x ∈ node.calls false, Part.QuotedIn line x.2 := by
  intro x hx
  obtain ⟨_, s, last, ⟨r, hrun, hsettle⟩, hlast, rfl⟩ := Node.parse_eq_ok_iff.mp h
  have hr : Reader.Verbatim r line := Reader.verbatim_empty.run hrun
  have hs := hr.settle hsettle
  obtain ⟨n, hn, hx⟩ := mem_members_of_lineOf hx
  rcases List.mem_append.mp hn with hn | hn
  · exact hs.members n hn x hx
  · rw [List.mem_singleton.mp hn] at hx
    exact hs.open_stages _ (mem_stages_of_pipelineOf hlast hx)

end LineShell
