import LineShell.Line.Parser
import Mathlib.Tactic.Common

/-!
# What one character does to the reader

`Reader.Advance` lists the transitions of the reader, one constructor for each thing that a
character can do: end a pipeline or a stage, start a redirection or a quoted span, extend what is
in progress, or end it.  `Reader.advance_eq_ok_iff` says that these are exactly the successful
steps, so every invariant of reading is a case analysis over the list and never opens the
reader's own tests.

**Characters.**  The facts about delimiters, special characters and blanks that tell the
transitions apart.

**Runs.**  `Reader.step_eq_ok_iff` adds the count, and `Reader.foldlM_step_cons` takes the first
character off a text.
-/

namespace LineShell

/-- A computation that goes on succeeds exactly when both of its halves do. -/
lemma bind_eq_ok_iff {ε α β : Type} {x : Except ε α} {f : α → Except ε β} {b : β} :
    (x >>= f) = .ok b ↔ ∃ a, x = .ok a ∧ f a = .ok b := by
  cases x with
  | error e =>
      constructor
      · intro h; cases h
      · rintro ⟨_, h, _⟩; cases h
  | ok a =>
      constructor
      · intro h; exact ⟨a, rfl, h⟩
      · rintro ⟨_, h, hf⟩; cases h; exact hf

/-! ## Characters -/

@[simp] lemma Quote.ofChar?_delimiter (k : Quote) : Quote.ofChar? k.delimiter = some k := by
  cases k <;> rfl

lemma Quote.ofChar?_eq_some_iff {c : Char} {k : Quote} :
    Quote.ofChar? c = some k ↔ c = k.delimiter := by
  constructor
  · intro h
    simp only [Quote.ofChar?] at h
    split_ifs at h with h1 h2 h3 <;> cases h
    · exact h1
    · exact h2
    · exact h3
  · rintro rfl
    exact Quote.ofChar?_delimiter k

@[simp] lemma isSpecial_delimiter (k : Quote) : isSpecial k.delimiter = true := by
  cases k <;> decide

@[simp] lemma isSpecial_sign (d : Direction) : isSpecial (Reader.sign d) = true := by
  cases d <;> decide

/-- The special characters are the delimiters, the signs of redirections and the separators. -/
lemma isSpecial_iff {c : Char} :
    isSpecial c = true ↔
      (∃ k : Quote, c = k.delimiter) ∨ (∃ d, c = Reader.sign d) ∨ c = ';' ∨ c = '|' := by
  constructor
  · intro h
    simp only [isSpecial, Bool.or_eq_true, decide_eq_true_eq] at h
    rcases h with (((((h | h) | h) | h) | h) | h) | h
    · exact Or.inl ⟨.single, h⟩
    · exact Or.inl ⟨.double, h⟩
    · exact Or.inl ⟨.back, h⟩
    · exact Or.inr (Or.inr (Or.inl h))
    · exact Or.inr (Or.inr (Or.inr h))
    · exact Or.inr (Or.inl ⟨.input, h⟩)
    · exact Or.inr (Or.inl ⟨.output, h⟩)
  · rintro (⟨k, rfl⟩ | ⟨d, rfl⟩ | rfl | rfl)
    · exact isSpecial_delimiter k
    · exact isSpecial_sign d
    · decide
    · decide

lemma Quote.ofChar?_eq_none {c : Char} (h : isSpecial c = false) : Quote.ofChar? c = none := by
  cases hc : Quote.ofChar? c with
  | none => rfl
  | some k =>
      rw [Quote.ofChar?_eq_some_iff.1 hc, isSpecial_delimiter] at h
      exact absurd h (by decide)

/-- No special character is a blank. -/
lemma isBlank_eq_false_of_isSpecial {c : Char} (h : isSpecial c = true) : isBlank c = false := by
  rcases isSpecial_iff.1 h with ⟨k, rfl⟩ | ⟨d, rfl⟩ | rfl | rfl
  · cases k <;> decide
  · cases d <;> decide
  · decide
  · decide

lemma isBlank_of_space_or_tab {c : Char} (h : c = ' ' ∨ c = '\t') : isBlank c = true := by
  rcases h with rfl | rfl <;> decide

namespace Reader

/-! ## Transitions -/

/-- The operator and the name of a target in progress; a sign that may still be doubled counts as
    the single operator without a name. -/
def targetOf : Reading → Option (Operator × Text)
  | .operator direction => some (single direction, [])
  | .target op name => some (op, name)
  | _ => none

/-- What a character does where neither a quote nor a redirection is in progress. -/
inductive PlainStep (r : Reader) : Char → Reader → Prop
  | close {node : Node} (h : pipelineOf (r.stages ++ [r.parts]) = .ok node) :
      PlainStep r ';' { r with members := r.members ++ [node], stages := [], parts := [] }
  | bar : PlainStep r '|' { r with stages := r.stages ++ [r.parts], parts := [] }
  | sign (d : Direction) : PlainStep r (sign d) { r with reading := .operator d }
  | quote (k : Quote) :
      PlainStep r k.delimiter { r with reading := .quoted ⟨k, r.count + 1, .done⟩ [] }
  | literal {c : Char} (h : isSpecial c = false) :
      PlainStep r c { r with parts := pushLiteral c r.parts }

/-- What a character does, the count apart. -/
inductive Advance (r : Reader) : Char → Reader → Prop
  | plain {c : Char} {r' : Reader} (h : r.reading = .plain) (hs : PlainStep r c r') :
      Advance r c r'
  | double {d : Direction} (h : r.reading = .operator d) :
      Advance r (Reader.sign d) { r with reading := .target (doubled d) [] }
  | skip {op : Operator} {c : Char} (h : targetOf r.reading = some (op, []))
      (hc : c = ' ' ∨ c = '\t') : Advance r c { r with reading := .target op [] }
  | name {op : Operator} {name : Text} {c : Char} (h : targetOf r.reading = some (op, name))
      (hb : isBlank c = false) (hs : isSpecial c = false) :
      Advance r c { r with reading := .target op (name ++ [c]) }
  | endTarget {op : Operator} {name : Text} {c : Char} {r' : Reader}
      (h : r.reading = .target op name) (hn : name ≠ [])
      (hc : isBlank c = true ∨ isSpecial c = true)
      (hs : PlainStep { r with parts := r.parts ++ [.redirect op name], reading := .plain } c r') :
      Advance r c r'
  | closeOuter {top : OpenSpan} (h : r.reading = .quoted top []) :
      Advance r top.kind.delimiter
        { r with parts := r.parts ++ [.quoted top.kind top.contents], reading := .plain }
  | closeInner {top next : OpenSpan} {rest : List OpenSpan}
      (h : r.reading = .quoted top (next :: rest)) :
      Advance r top.kind.delimiter
        { r with
          reading := .quoted
            { next with contents := Quotation.pushSpan top.kind top.contents next.contents }
            rest }
  | openInner {top : OpenSpan} {below : List OpenSpan} {k : Quote}
      (h : r.reading = .quoted top below) (hk : k ≠ top.kind) :
      Advance r k.delimiter
        { r with reading := .quoted ⟨k, r.count + 1, .done⟩ (top :: below) }
  | text {top : OpenSpan} {below : List OpenSpan} {c : Char}
      (h : r.reading = .quoted top below) (hc : Quote.ofChar? c = none) :
      Advance r c
        { r with reading := .quoted { top with contents := top.contents.pushChar c } below }

/-! ## Building parts -/

/-- The character that a literal takes for `c`: line breaks count as spaces. -/
def unbreak (c : Char) : Char := if c = '\n' ∨ c = '\r' then ' ' else c

lemma unbreak_ne (c : Char) : unbreak c ≠ '\n' ∧ unbreak c ≠ '\r' := by
  unfold unbreak
  split_ifs with h
  · decide
  · exact not_or.mp h

@[simp] lemma isBlank_unbreak (c : Char) : isBlank (unbreak c) = isBlank c := by
  unfold unbreak
  split_ifs with h
  · rcases h with rfl | rfl <;> decide
  · rfl

lemma isSpecial_unbreak {c : Char} (h : isSpecial c = false) : isSpecial (unbreak c) = false := by
  unfold unbreak
  split_ifs
  · decide
  · exact h

/-- After a literal, a character joins it. -/
lemma pushLiteral_concat (c : Char) (run : Text) :
    ∀ parts, pushLiteral c (parts ++ [.literal run]) = parts ++ [.literal (run ++ [unbreak c])]
  | [] => rfl
  | [p] => by cases p <;> rfl
  | p :: q :: rest => by
      have ih := pushLiteral_concat c run (q :: rest)
      rw [List.cons_append, List.cons_append, pushLiteral, ← List.cons_append, ih]
      · rfl
      · intro run' _ h
        simp at h

/-- Elsewhere it starts a literal of its own. -/
lemma pushLiteral_of_ne (c : Char) :
    ∀ parts, (∀ run, parts.getLast? ≠ some (.literal run)) →
      pushLiteral c parts = parts ++ [.literal [unbreak c]]
  | [], _ => rfl
  | [p], h => by
      cases p with
      | literal run => exact absurd rfl (h run)
      | _ => rfl
  | p :: q :: rest, h => by
      have ih := pushLiteral_of_ne c (q :: rest) (by simpa using h)
      rw [pushLiteral, ih]
      · rfl
      · intro run _ hq
        cases hq

/-- The two cases of adding a character, by what stands last. -/
lemma pushLiteral_cases (c : Char) (parts : List Part) :
    (∃ ps run, parts = ps ++ [.literal run] ∧
      pushLiteral c parts = ps ++ [.literal (run ++ [unbreak c])]) ∨
    ((∀ run, parts.getLast? ≠ some (.literal run)) ∧
      pushLiteral c parts = parts ++ [.literal [unbreak c]]) := by
  by_cases h : ∃ run, parts.getLast? = some (.literal run)
  · obtain ⟨run, hrun⟩ := h
    obtain ⟨ps, rfl⟩ := List.getLast?_eq_some_iff.mp hrun
    exact Or.inl ⟨ps, run, rfl, pushLiteral_concat c run ps⟩
  · have h' : ∀ run, parts.getLast? ≠ some (.literal run) := fun run hrun => h ⟨run, hrun⟩
    exact Or.inr ⟨h', pushLiteral_of_ne c parts h'⟩

/-- One stage stands alone; several make a pipeline, if none is blank. -/
lemma pipelineOf_eq_ok_iff {stages : List (List Part)} {node : Node} :
    pipelineOf stages = .ok node ↔
      (∃ parts, stages = [parts] ∧ node = .call parts) ∨
      (stages.length ≠ 1 ∧ (∀ parts ∈ stages, parts.all Part.isBlank = false) ∧
        node = .pipeline (stages.map .call)) := by
  unfold pipelineOf
  split
  · next parts =>
      constructor
      · intro h; cases h; exact Or.inl ⟨parts, rfl, rfl⟩
      · rintro (⟨_, h, rfl⟩ | ⟨h, _⟩)
        · cases h; rfl
        · exact absurd rfl h
  · next hne =>
      have hlen : stages.length ≠ 1 := by
        intro h
        obtain ⟨parts, rfl⟩ := List.length_eq_one_iff.mp h
        exact hne parts rfl
      have hne' : ¬ ∃ parts, stages = [parts] ∧ node = .call parts := by
        rintro ⟨parts, rfl, _⟩
        exact hlen rfl
      split_ifs with hb
      · obtain ⟨parts, hp, hall⟩ := List.any_eq_true.mp hb
        simp only [false_iff, not_or, not_and]
        refine ⟨hne', ?_⟩
        intro _ h
        exact absurd (h parts hp) (by simp [hall])
      · have hb' : ∀ parts ∈ stages, parts.all Part.isBlank = false := by
          intro parts hp
          by_contra h
          exact hb (List.any_eq_true.mpr ⟨parts, hp, by simpa using h⟩)
        simp only [hne', false_or, Except.ok.injEq]
        exact ⟨fun h => ⟨hlen, hb', h.symm⟩, fun h => h.2.2.symm⟩

lemma lineOf_of_two_le : ∀ {nodes : List Node}, 2 ≤ nodes.length → lineOf nodes = .sequence nodes
  | [], h => by simp at h
  | [_], h => by simp at h
  | _ :: _ :: _, _ => rfl

/-! ## The transitions are the successful steps -/

lemma stepPlain_eq_ok_iff {r r' : Reader} {c : Char} :
    r.stepPlain c = .ok r' ↔ PlainStep r c r' := by
  constructor
  · intro h
    simp only [stepPlain] at h
    split_ifs at h with hsemi hbar hin hout
    · subst hsemi
      simp only [closePipeline] at h
      split at h
      · cases h
      · next node hnode => cases h; exact .close hnode
    · subst hbar; cases h; exact .bar
    · subst hin; cases h; exact .sign .input
    · subst hout; cases h; exact .sign .output
    · split at h
      · next k hk => cases h; rw [Quote.ofChar?_eq_some_iff.1 hk]; exact .quote k
      · next hk =>
          cases h
          refine .literal ?_
          rw [Bool.eq_false_iff]
          intro hs
          rcases isSpecial_iff.1 hs with ⟨k, rfl⟩ | ⟨d, rfl⟩ | rfl | rfl
          · rw [Quote.ofChar?_delimiter] at hk; cases hk
          · cases d
            · exact hin rfl
            · exact hout rfl
          · exact hsemi rfl
          · exact hbar rfl
  · intro h
    cases h with
    | close hnode => simp [stepPlain, closePipeline, hnode]
    | bar => rfl
    | sign d => cases d <;> rfl
    | quote k => cases k <;> rfl
    | literal hs =>
        have hk := Quote.ofChar?_eq_none hs
        simp only [isSpecial, Bool.or_eq_false_iff, decide_eq_false_iff_not] at hs
        simp [stepPlain, hs, hk]

lemma stepTarget_eq_ok {r r' : Reader} {op : Operator} {name : Text} {c : Char}
    (h : r.stepTarget op name c = .ok r') :
    (name = [] ∧ (c = ' ' ∨ c = '\t') ∧ r' = { r with reading := .target op [] }) ∨
    (isBlank c = false ∧ isSpecial c = false ∧
      r' = { r with reading := .target op (name ++ [c]) }) ∨
    (name ≠ [] ∧ (isBlank c = true ∨ isSpecial c = true) ∧
      PlainStep { r with parts := r.parts ++ [.redirect op name], reading := .plain } c r') := by
  simp only [stepTarget] at h
  split_ifs at h with hc hn hb
  · cases h
    exact Or.inl ⟨List.isEmpty_iff.mp hn, hb, rfl⟩
  · refine Or.inr (Or.inr ⟨fun h0 => hn (by simp [h0]), ?_, stepPlain_eq_ok_iff.1 h⟩)
    simpa using hc
  · cases h
    simp only [Bool.or_eq_true, not_or, Bool.not_eq_true] at hc
    exact Or.inr (Or.inl ⟨hc.1, hc.2, rfl⟩)

/-- **The list of transitions is complete and sound.**  A character is taken exactly when one of
    them applies, and then the reader is the one that it names. -/
theorem advance_eq_ok_iff {r r' : Reader} {c : Char} :
    r.advance c = .ok r' ↔ Advance r c r' := by
  constructor
  · intro h
    simp only [advance] at h
    split at h
    · next hr => exact .plain hr (stepPlain_eq_ok_iff.1 h)
    · next d hr =>
        split_ifs at h with hc
        · subst hc; cases h; exact .double hr
        · rcases stepTarget_eq_ok h with ⟨_, hb, rfl⟩ | ⟨hb, hs, rfl⟩ | ⟨hn, _⟩
          · exact .skip (by rw [hr]; rfl) hb
          · exact .name (by rw [hr]; rfl) hb hs
          · exact absurd rfl hn
    · next op name hr =>
        rcases stepTarget_eq_ok h with ⟨rfl, hb, rfl⟩ | ⟨hb, hs, rfl⟩ | ⟨hn, hc, hp⟩
        · exact .skip (by rw [hr]; rfl) hb
        · exact .name (by rw [hr]; rfl) hb hs
        · exact .endTarget hr hn hc hp
    · next top below hr =>
        cases h
        simp only [stepQuoted]
        split_ifs with hc
        · subst hc
          cases below with
          | nil => exact .closeOuter hr
          | cons next rest => exact .closeInner hr
        · split
          · next k hk =>
              obtain rfl := Quote.ofChar?_eq_some_iff.1 hk
              exact .openInner hr fun h => hc (by rw [h])
          · next hk => exact .text hr hk
  · intro h
    cases h with
    | plain hr hs => simp only [advance, hr, stepPlain_eq_ok_iff.2 hs]
    | double hr => simp [advance, hr]
    | skip ht hc =>
        have hb := isBlank_of_space_or_tab hc
        cases hr : r.reading with
        | operator d =>
            rw [hr] at ht; cases ht
            have hd : c ≠ Reader.sign d := by rcases hc with rfl | rfl <;> cases d <;> decide
            simp [advance, hr, hd, stepTarget, hb, hc]
        | target op name => rw [hr] at ht; cases ht; simp [advance, hr, stepTarget, hb, hc]
        | _ => rw [hr] at ht; cases ht
    | name ht hb hs =>
        cases hr : r.reading with
        | operator d =>
            rw [hr] at ht; cases ht
            have hd : c ≠ Reader.sign d := by rintro rfl; simp at hs
            simp [advance, hr, hd, stepTarget, hb, hs]
        | target op name => rw [hr] at ht; cases ht; simp [advance, hr, stepTarget, hb, hs]
        | _ => rw [hr] at ht; cases ht
    | endTarget hr hn hc hp =>
        have hc' : (isBlank c || isSpecial c) = true := by simpa using hc
        simp [advance, hr, stepTarget, hc', hn, stepPlain_eq_ok_iff.2 hp]
    | closeOuter hr => simp [advance, hr, stepQuoted]
    | closeInner hr => simp [advance, hr, stepQuoted]
    | openInner hr hk =>
        have hd : ¬ Quote.delimiter _ = Quote.delimiter _ := fun h => hk (by
          have := congrArg Quote.ofChar? h
          simpa using this)
        simp [advance, hr, stepQuoted, hd]
    | text hr hc =>
        have hd : ∀ k : Quote, c ≠ k.delimiter := by rintro k rfl; simp at hc
        simp [advance, hr, stepQuoted, hd, hc]

/-! ## Runs -/

/-- One step with its count. -/
lemma step_eq_ok_iff {r r' : Reader} {c : Char} :
    r.step c = .ok r' ↔ ∃ s, Advance r c s ∧ r' = { s with count := r.count + 1 } := by
  simp only [step, ← advance_eq_ok_iff]
  cases r.advance c with
  | error e => simp [Except.map]
  | ok s => simp [Except.map, eq_comm]

lemma step_of_advance {r r' : Reader} {c : Char} (h : Advance r c r') :
    r.step c = .ok { r' with count := r.count + 1 } :=
  step_eq_ok_iff.2 ⟨r', h, rfl⟩

lemma foldlM_step_cons {r r' : Reader} {c : Char} {cs : Text} :
    (c :: cs).foldlM step r = .ok r' ↔ ∃ s, r.step c = .ok s ∧ cs.foldlM step s = .ok r' := by
  rw [List.foldlM_cons, bind_eq_ok_iff]

/-- Reading a text that is cut in two is reading the first half and going on with the second. -/
lemma foldlM_step_append {r r' : Reader} {t u : Text} :
    (t ++ u).foldlM step r = .ok r' ↔
      ∃ s, t.foldlM step r = .ok s ∧ u.foldlM step s = .ok r' := by
  rw [List.foldlM_append, bind_eq_ok_iff]

lemma foldlM_cons_of_step {r s : Reader} {c : Char} (h : r.step c = .ok s) (cs : Text) :
    (c :: cs).foldlM step r = cs.foldlM step s := by
  rw [List.foldlM_cons, h]
  rfl

lemma foldlM_append_of_run {r s : Reader} {t : Text} (h : t.foldlM step r = .ok s) (u : Text) :
    (t ++ u).foldlM step r = u.foldlM step s := by
  rw [List.foldlM_append, h]
  rfl

/-- A property that every step keeps is kept by a run. -/
lemma foldlM_step_induction {P : Reader → Prop}
    (hstep : ∀ r c r', P r → r.step c = .ok r' → P r') :
    ∀ {text : Text} {r r' : Reader}, P r → text.foldlM step r = .ok r' → P r'
  | [], r, r', hr, h => by cases h; exact hr
  | c :: cs, r, r', hr, h => by
      obtain ⟨s, hs, h⟩ := foldlM_step_cons.1 h
      exact foldlM_step_induction hstep (hstep r c s hr hs) h

/-! ## Boundaries

At the end of a part the reader is plain, or it holds a target that the next character has to
end.  `settle` is the same reader in both cases, and a character that can end a target does not
see the difference. -/

lemma settle_eq_ok_iff {r s : Reader} :
    r.settle = .ok s ↔ (r.reading = .plain ∧ s = r) ∨
      ∃ op name, r.reading = .target op name ∧ name ≠ [] ∧
        s = { r with parts := r.parts ++ [.redirect op name], reading := .plain } := by
  cases hr : r.reading with
  | plain => simp [settle, hr, eq_comm]
  | operator d => simp [settle, hr]
  | target op name =>
      simp only [settle, hr, List.isEmpty_iff]
      split_ifs with hn
      · simp [hn]
      · simp [hn, eq_comm]
  | quoted top below => simp [settle, hr]

lemma reading_of_settle {r s : Reader} (h : r.settle = .ok s) : s.reading = .plain := by
  rcases settle_eq_ok_iff.1 h with ⟨hr, rfl⟩ | ⟨op, name, _, _, rfl⟩
  · exact hr
  · rfl

lemma step_settle {r s : Reader} {c : Char} (h : r.settle = .ok s)
    (hc : isBlank c = true ∨ isSpecial c = true) : r.step c = s.step c := by
  rcases settle_eq_ok_iff.1 h with ⟨_, rfl⟩ | ⟨op, name, hr, hn, rfl⟩
  · rfl
  · have hc' : (isBlank c || isSpecial c) = true := by simpa using hc
    simp [step, advance, hr, stepTarget, hc', hn]

/-- Reading `text` from `r`, and ending what is then in progress, gives `s`. -/
def Reads (r : Reader) (text : Text) (s : Reader) : Prop :=
  ∃ r', text.foldlM step r = .ok r' ∧ r'.settle = .ok s

lemma Reads.reading_eq {r s : Reader} {text : Text} (h : Reads r text s) : s.reading = .plain := by
  obtain ⟨_, _, hs⟩ := h
  exact reading_of_settle hs

lemma Reads.nil {r : Reader} (h : r.reading = .plain) : Reads r [] r :=
  ⟨r, rfl, settle_eq_ok_iff.2 (Or.inl ⟨h, rfl⟩)⟩

/-- Texts read one after the other are read as one, if the second cannot extend a target at the
    end of the first. -/
lemma Reads.append {r s s' : Reader} {t u : Text} (ht : Reads r t s) (hu : Reads s u s')
    (hsep : (∀ op name, s.parts.getLast? ≠ some (.redirect op name)) ∨
      ∀ c ∈ u.head?, isBlank c = true ∨ isSpecial c = true) : Reads r (t ++ u) s' := by
  obtain ⟨r₁, hr₁, hs₁⟩ := ht
  obtain ⟨r₂, hr₂, hs₂⟩ := hu
  cases u with
  | nil =>
      cases hr₂
      rcases settle_eq_ok_iff.1 hs₂ with ⟨_, rfl⟩ | ⟨_, _, hr, _⟩
      · exact ⟨r₁, by simpa using hr₁, hs₁⟩
      · rw [reading_of_settle hs₁] at hr; cases hr
  | cons c cs =>
      have hstep : r₁.step c = s.step c := by
        rcases hsep with hlast | hc
        · rcases settle_eq_ok_iff.1 hs₁ with ⟨_, rfl⟩ | ⟨op, name, _, _, rfl⟩
          · rfl
          · exact absurd (by simp) (hlast op name)
        · exact step_settle hs₁ (hc c (by simp))
      refine ⟨r₂, foldlM_step_append.2 ⟨r₁, hr₁, ?_⟩, hs₂⟩
      rw [List.foldlM_cons] at hr₂ ⊢
      rw [hstep, hr₂]

end Reader

/-- **A line in terms of its reader.**  It is a node when it is not blank, can be read to its end
    and its last pipeline has no blank stage. -/
theorem Node.parse_eq_ok_iff {line : Text} {node : Node} :
    Node.parse line = .ok node ↔
      Text.isBlankText line = false ∧ ∃ s last, Reader.Reads {} line s ∧
        Reader.pipelineOf (s.stages ++ [s.parts]) = .ok last ∧
        node = Reader.lineOf (s.members ++ [last]) := by
  have hfinish : ∀ r : Reader, r.finish = .ok node ↔ ∃ s last, r.settle = .ok s ∧
      Reader.pipelineOf (s.stages ++ [s.parts]) = .ok last ∧
      node = Reader.lineOf (s.members ++ [last]) := by
    intro r
    simp only [Reader.finish, bind_eq_ok_iff]
    constructor
    · rintro ⟨s, hs, closed, hc, hn⟩
      simp only [Reader.closePipeline] at hc
      split at hc
      · cases hc
      · next last hlast => cases hc; cases hn; exact ⟨s, last, hs, hlast, rfl⟩
    · rintro ⟨s, last, hs, hlast, rfl⟩
      refine ⟨s, hs, { s with members := s.members ++ [last], stages := [], parts := [] }, ?_, rfl⟩
      simp [Reader.closePipeline, hlast]
  simp only [Node.parse]
  split_ifs with hb
  · simp [hb]
  · rw [bind_eq_ok_iff]
    constructor
    · rintro ⟨r, hr, hf⟩
      obtain ⟨s, last, hs, hlast, hn⟩ := (hfinish r).mp hf
      exact ⟨by simpa using hb, s, last, ⟨r, hr, hs⟩, hlast, hn⟩
    · rintro ⟨_, s, last, ⟨r, hr, hs⟩, hlast, hn⟩
      exact ⟨r, hr, (hfinish r).mpr ⟨s, last, hs, hlast, hn⟩⟩

end LineShell
