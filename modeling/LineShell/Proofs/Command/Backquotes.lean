import LineShell.Command.Assembly
import LineShell.Proofs.Command.Reconstruction
import LineShell.Proofs.Line.Canonical
import Mathlib.Tactic.Common

/-!
# The backquoted spans of a call

What a draft has learned about backquotes, read off the parts of its call.

**Spans.**  `Part.backquoted` lists what the backquoted spans of a part hold, at any depth, each
behind those inside it.  `Part.silences` says that one of them stands under single quotes that
are not themselves quoted.

**Drafts.**  `Draft.extend` adds text and spans to a draft.  Where rebuilding a quotation succeeds,
it extends the draft by the source text and the spans of the quotation
(`Draft.extend_of_rebuild`), and adding parts extends it part by part
(`Draft.extendBy_of_foldlM`).  This holds of any parts, also of ones that no line is read as.

**Spans in their call.**  A backquoted span stands in the source and in the text of its call with
its delimiters (`Part.infix_of_backquoted`): quotes around it may be dropped, its own are not.  So
what is read for a substitution is shorter than its call (`Draft.length_pending_of_gather`).

**Which calls can be put together.**  A quotation of a line is refused only because it stands in a
backquoted span and has one itself (`Draft.rebuild_of_canonical`).  Hence `Draft.gathers_of_gather`
and `Draft.gather_of_gathers`.
-/

namespace LineShell

/-! ## Spans -/

/-- A backquoted span as it is written. -/
def backquote (inner : Text) : Text := '`' :: (inner ++ ['`'])

lemma backquote_ne_nil (inner : Text) : backquote inner ≠ [] := by
  simp [backquote]

lemma length_backquote (inner : Text) : (backquote inner).length = inner.length + 2 := by
  simp [backquote]

namespace Quotation

/-- What the backquoted spans hold, at any depth; a span stands behind those inside it. -/
def backquoted : Quotation → List Text
  | done => []
  | text _ rest => rest.backquoted
  | span kind inner rest =>
    inner.backquoted ++ (if kind = .back then [inner.render] else []) ++ rest.backquoted

@[simp] lemma length_backquoted (q : Quotation) : q.backquoted.length = q.backCount := by
  induction q with
  | done => rfl
  | text run rest ih => exact ih
  | span kind inner rest ihInner ihRest =>
      rw [backquoted, backCount, List.length_append, List.length_append, ihInner, ihRest]
      split_ifs
      · simp only [List.length_singleton]; omega
      · simp only [List.length_nil]; omega

lemma backquoted_eq_nil_iff {q : Quotation} : q.backquoted = [] ↔ q.backCount = 0 := by
  rw [← List.length_eq_zero_iff, length_backquoted]

lemma backCount_span_eq_zero_iff {kind : Quote} {inner rest : Quotation} :
    (span kind inner rest).backCount = 0 ↔
      kind ≠ .back ∧ inner.backCount = 0 ∧ rest.backCount = 0 := by
  by_cases h : kind = .back <;> simp [backCount, h]

/-- Whether a backquoted span lies under a backquoted span, at any depth. -/
def nestsBack : Quotation → Bool
  | done => false
  | text _ rest => rest.nestsBack
  | span kind inner rest =>
    (kind = .back ∧ inner.backCount ≠ 0) || inner.nestsBack || rest.nestsBack

lemma two_le_backCount {q : Quotation} (h : q.nestsBack = true) : 2 ≤ q.backCount := by
  induction q with
  | done => cases h
  | text run rest ih => exact ih h
  | span kind inner rest ihInner ihRest =>
      simp only [nestsBack, Bool.or_eq_true, decide_eq_true_eq] at h
      rw [backCount]
      rcases h with (⟨hkind, hinner⟩ | h) | h
      · rw [if_pos hkind]
        omega
      · have := ihInner h
        omega
      · have := ihRest h
        omega

lemma backquote_ne_of_ofChar? {c : Char} (h : Quote.ofChar? c = none) : c ≠ '`' := by
  rintro rfl
  cases h

lemma delimiter_eq_backquote_iff {kind : Quote} : kind.delimiter = '`' ↔ kind = .back := by
  cases kind <;> decide

/-- A backquote in the source of a quotation belongs to a backquoted span. -/
lemma backquote_not_mem_render {q : Quotation} : ∀ {enclosing : Quote},
    q.Canonical enclosing → q.backquoted = [] → '`' ∉ q.render := by
  induction q with
  | done => simp [render]
  | text run rest ih =>
      rintro enclosing ⟨_, hrun, _, hrest⟩ h hmem
      rcases List.mem_append.mp hmem with hmem | hmem
      · exact backquote_ne_of_ofChar? (hrun _ hmem) rfl
      · exact ih hrest h hmem
  | span kind inner rest ihInner ihRest =>
      rintro enclosing ⟨_, hinner, hrest⟩ h hmem
      simp only [backquoted, List.append_eq_nil_iff, ite_eq_right_iff, List.cons_ne_nil,
        imp_false] at h
      obtain ⟨⟨hi, hkind⟩, hr⟩ := h
      simp only [render, List.mem_cons, List.mem_append] at hmem
      have hdelimiter : '`' ≠ kind.delimiter := fun hd =>
        hkind (delimiter_eq_backquote_iff.mp hd.symm)
      rcases hmem with hmem | hmem | hmem | hmem
      · exact hdelimiter hmem
      · exact ihInner hinner hi hmem
      · exact hdelimiter hmem
      · exact ihRest hrest hr hmem

lemma backquote_mem_render {q : Quotation} (h : q.backquoted ≠ []) : '`' ∈ q.render := by
  induction q with
  | done => exact absurd rfl h
  | text run rest ih => exact List.mem_append_right run (ih h)
  | span kind inner rest ihInner ihRest =>
      by_cases hkind : kind = .back
      · subst hkind
        exact List.mem_cons_self
      · by_cases hinner : inner.backquoted = []
        · have hrest : rest.backquoted ≠ [] := by simpa [backquoted, hkind, hinner] using h
          simp [render, ihRest hrest]
        · simp [render, ihInner hinner]

/-- A backquoted span stands in the source of its quotation. -/
lemma infix_render_of_backquoted {inner : Text} {q : Quotation}
    (h : inner ∈ q.backquoted) : backquote inner <:+: q.render := by
  induction q with
  | done => cases h
  | text run rest ih => exact List.infix_append_of_infix_right (ih h)
  | span kind contents rest ihContents ihRest =>
      have hrender : (span kind contents rest).render =
          [kind.delimiter] ++ (contents.render ++ ([kind.delimiter] ++ rest.render)) := by
        simp [render]
      simp only [backquoted, List.mem_append] at h
      rcases h with (h | h) | h
      · rw [hrender]
        exact List.infix_append_of_infix_right (List.infix_append_of_infix_left (ihContents h))
      · split_ifs at h with hback
        · obtain rfl := List.mem_singleton.mp h
          subst hback
          exact ⟨[], rest.render, by simp [backquote, render, Quote.delimiter]⟩
        · cases h
      · rw [hrender]
        exact List.infix_append_of_infix_right
          (List.infix_append_of_infix_right (List.infix_append_of_infix_right (ihRest h)))

/-- What the only backquoted span holds has no backquote. -/
lemma backquote_not_mem_of_backquoted {q : Quotation} {t : Text} : ∀ {enclosing : Quote},
    q.Canonical enclosing → q.backquoted = [t] → '`' ∉ t := by
  induction q with
  | done => intro _ _ h; cases h
  | text run rest ih => rintro enclosing ⟨_, _, _, hrest⟩ h; exact ih hrest h
  | span kind inner rest ihInner ihRest =>
      rintro enclosing ⟨_, hinner, hrest⟩ h
      rw [backquoted, List.append_assoc] at h
      rcases List.append_eq_singleton_iff.mp h with ⟨hi, h⟩ | ⟨hi, _⟩
      · rcases List.append_eq_singleton_iff.mp h with ⟨_, hr⟩ | ⟨hself, _⟩
        · exact ihRest hrest hr
        · split_ifs at hself
          obtain rfl : inner.render = t := by simpa using hself
          exact backquote_not_mem_render hinner hi
      · exact ihInner hinner hi

end Quotation

namespace Part

/-- What the backquoted spans of a part hold, at any depth. -/
def backquoted : Part → List Text
  | quoted kind contents => contents.backquoted ++ if kind = .back then [contents.render] else []
  | _ => []

/-- Whether a backquoted span stands under a single-quoted span of the call. -/
def silences : Part → Bool
  | quoted kind contents => kind = .single ∧ contents.backCount ≠ 0
  | _ => false

/-- Whether a backquoted span stands under a backquoted span of the call. -/
def nests : Part → Bool
  | quoted kind contents => kind = .back ∧ contents.backCount ≠ 0
  | _ => false

/-- Whether a backquoted span stands under a backquoted span, at any depth. -/
def nestsBack : Part → Bool
  | quoted kind contents => (kind = .back ∧ contents.backCount ≠ 0) || contents.nestsBack
  | _ => false

/-- The text of a part in its call. -/
def unwrapped : Part → Text
  | literal run => Text.collapseBlanks run
  | quoted .back contents => '`' :: (contents.render ++ ['`'])
  | quoted _ contents => contents.render
  | redirect _ _ => []

/-- The redirections of a part. -/
def redirections : Part → List Redirection
  | redirect op target => [.ofOperator op target]
  | _ => []

lemma two_le_length_backquoted {p : Part} (h : p.nestsBack = true) :
    2 ≤ p.backquoted.length := by
  cases p with
  | literal run => cases h
  | redirect op target => cases h
  | quoted kind contents =>
      simp only [nestsBack, Bool.or_eq_true, decide_eq_true_eq] at h
      rw [backquoted, List.length_append, Quotation.length_backquoted]
      rcases h with ⟨hkind, hcontents⟩ | h
      · rw [if_pos hkind, List.length_singleton]
        omega
      · have := Quotation.two_le_backCount h
        omega

lemma backquoted_ne_nil_of_silences {p : Part} (h : p.silences = true) : p.backquoted ≠ [] := by
  cases p with
  | literal run => cases h
  | redirect op target => cases h
  | quoted kind contents =>
      simp only [silences, decide_eq_true_eq] at h
      intro hnil
      exact h.2 (Quotation.backquoted_eq_nil_iff.mp (List.append_eq_nil_iff.mp hnil).1)

lemma backquote_mem_render {p : Part} (h : p.backquoted ≠ []) : '`' ∈ p.render := by
  cases p with
  | literal run => exact absurd rfl h
  | redirect op target => exact absurd rfl h
  | quoted kind contents =>
      by_cases hkind : kind = .back
      · subst hkind
        exact List.mem_cons_self
      · have hcontents : contents.backquoted ≠ [] := by simpa [backquoted, hkind] using h
        simp [render, Quotation.backquote_mem_render hcontents]

lemma backquote_not_mem_of_backquoted {p : Part} {t : Text} (hp : p.Canonical)
    (h : p.backquoted = [t]) : '`' ∉ t := by
  cases p with
  | literal run => cases h
  | redirect op target => cases h
  | quoted kind contents =>
      rcases List.append_eq_singleton_iff.mp h with ⟨hc, hself⟩ | ⟨hc, _⟩
      · split_ifs at hself
        obtain rfl : contents.render = t := by simpa using hself
        exact Quotation.backquote_not_mem_render hp hc
      · exact Quotation.backquote_not_mem_of_backquoted hp hc

/-- A backquoted span stands in the source of its part. -/
lemma infix_render_of_backquoted {p : Part} {inner : Text} (h : inner ∈ p.backquoted) :
    backquote inner <:+: p.render := by
  cases p with
  | literal run => cases h
  | redirect op target => cases h
  | quoted kind contents =>
      rcases List.mem_append.mp h with h | h
      · have hcontents := Quotation.infix_render_of_backquoted h
        exact List.infix_cons (List.infix_append_of_infix_left hcontents)
      · split_ifs at h with hback
        · obtain rfl := List.mem_singleton.mp h
          subst hback
          exact List.infix_rfl
        · cases h

/-- Quotes around a backquoted span are dropped, its own are kept. -/
lemma infix_unwrapped_of_backquoted {p : Part} {inner : Text} (h : inner ∈ p.backquoted) :
    backquote inner <:+: p.unwrapped := by
  cases p with
  | literal run => cases h
  | redirect op target => cases h
  | quoted kind contents =>
      cases kind with
      | back => exact infix_render_of_backquoted h
      | single | double =>
          have hcontents : inner ∈ contents.backquoted := by simpa [backquoted] using h
          exact Quotation.infix_render_of_backquoted hcontents

/-- **A backquoted span stands in the source of its call**, and in the text of it. -/
lemma infix_of_backquoted {parts : List Part} {inner : Text}
    (h : inner ∈ parts.flatMap backquoted) :
    backquote inner <:+: parts.flatMap render ∧ backquote inner <:+: parts.flatMap unwrapped := by
  obtain ⟨p, hp, hinner⟩ := List.mem_flatMap.mp h
  have hrender := infix_render_of_backquoted hinner
  have hunwrapped := infix_unwrapped_of_backquoted hinner
  exact ⟨hrender.trans (List.infix_of_mem_flatten (List.mem_map_of_mem hp)),
    hunwrapped.trans (List.infix_of_mem_flatten (List.mem_map_of_mem hp))⟩

end Part

/-! ## Drafts -/

namespace Draft

/-- The draft with more text and more backquoted spans, some of them silenced. -/
def extend (d : Draft) (text : Text) (spans : List Text) (silenced : Bool) : Draft where
  text := d.text ++ text
  pending := spans.getLast?.or d.pending
  count := d.count + spans.length
  disqualified := d.disqualified || silenced

@[simp] lemma extend_nil (d : Draft) : d.extend [] [] false = d := by
  simp [extend]

@[simp] lemma extend_extend (d : Draft) (text text' : Text) (spans spans' : List Text)
    (silenced silenced' : Bool) :
    (d.extend text spans silenced).extend text' spans' silenced'
      = d.extend (text ++ text') (spans ++ spans') (silenced || silenced') := by
  simp [extend, List.getLast?_append, Option.or_assoc, Nat.add_assoc, Bool.or_assoc]

lemma push_eq_extend (d : Draft) (s : Text) : d.push s = d.extend s [] false := by
  simp [push, extend]

/-- A span adds its text, with or without delimiters, and itself if it is backquoted. -/
lemma pushSpan_eq_extend (d : Draft) (kind : Quote) (text : Text) (spans : List Text)
    (silenced delimited : Bool) :
    d.pushSpan kind (({} : Draft).extend text spans silenced) delimited
      = d.extend (if delimited then kind.delimiter :: (text ++ [kind.delimiter]) else text)
          (spans ++ if kind = .back then [text] else []) silenced := by
  by_cases hkind : kind = .back
  · cases delimited <;> simp [pushSpan, extend, hkind, Nat.add_assoc]
  · cases delimited <;> simp [pushSpan, extend, hkind]

lemma rebuild_span_eq_ok_iff {outermost enclosing kind : Quote} {d d' : Draft}
    {inner rest : Quotation} :
    rebuild outermost enclosing d (.span kind inner rest) = .ok d' ↔
      ¬ (kind = .back ∧ (enclosing = .back ∨ outermost = .back)) ∧
        ∃ i, rebuild outermost kind {} inner = .ok i ∧
          rebuild outermost enclosing
            ((d.extend [] [] (kind = .back ∧ outermost = .single)).pushSpan kind i true) rest
              = .ok d' := by
  constructor
  · intro h
    obtain ⟨hback, i, hi, hrest⟩ := rebuild_span_eq_ok h
    refine ⟨hback, i, hi, ?_⟩
    simpa [extend] using hrest
  · rintro ⟨hback, i, hi, hrest⟩
    rw [rebuild, if_neg hback, hi]
    simpa [extend] using hrest

/-- A nested span adds what its contents and the rest behind it add, and its delimiters. -/
lemma extend_span (d : Draft) (outermost kind : Quote) (inner rest : Quotation) :
    ((d.extend [] [] (kind = .back ∧ outermost = .single)).pushSpan kind
        (({} : Draft).extend inner.render inner.backquoted
          (outermost = .single ∧ inner.backCount ≠ 0)) true).extend rest.render rest.backquoted
        (outermost = .single ∧ rest.backCount ≠ 0)
      = d.extend (Quotation.span kind inner rest).render
          (Quotation.span kind inner rest).backquoted
          (outermost = .single ∧ (Quotation.span kind inner rest).backCount ≠ 0) := by
  rw [pushSpan_eq_extend, extend_extend, extend_extend]
  congr 1
  · simp [Quotation.render]
  · by_cases hs : outermost = .single
    · by_cases hb : kind = .back
      · simp [Quotation.backCount, hs, hb]
      · simp [Quotation.backCount, hs, hb]
    · simp [hs]

/-- **Rebuilding a quotation** adds its source text and its spans, whatever it is made of.  It has
    no backquoted span if it stands in one of the call. -/
lemma extend_of_rebuild {outermost : Quote} {q : Quotation} :
    ∀ {enclosing : Quote} {d d' : Draft}, rebuild outermost enclosing d q = .ok d' →
      (outermost = .back → q.backCount = 0) ∧
        d' = d.extend q.render q.backquoted (outermost = .single ∧ q.backCount ≠ 0) := by
  induction q with
  | done =>
      intro enclosing d d' h
      cases h
      simp [Quotation.render, Quotation.backquoted, Quotation.backCount]
  | text run rest ih =>
      intro enclosing d d' h
      obtain ⟨hback, rfl⟩ := ih (show rebuild _ _ (d.push run) rest = .ok d' from h)
      refine ⟨hback, ?_⟩
      rw [push_eq_extend, extend_extend]
      rfl
  | span kind inner rest ihInner ihRest =>
      intro enclosing d d' h
      obtain ⟨hallowed, i, hi, hrest⟩ := rebuild_span_eq_ok_iff.mp h
      obtain ⟨hinner, rfl⟩ := ihInner hi
      obtain ⟨hback, rfl⟩ := ihRest hrest
      refine ⟨fun ho => ?_, extend_span d outermost kind inner rest⟩
      exact Quotation.backCount_span_eq_zero_iff.mpr
        ⟨fun hk => hallowed ⟨hk, Or.inr ho⟩, hinner ho, hback ho⟩

/-- A quotation as it is read can be rebuilt unless it stands in a backquoted span of the call and
    has one itself. -/
lemma rebuild_of_canonical {outermost : Quote} {q : Quotation} :
    ∀ {enclosing : Quote} {d : Draft}, q.Canonical enclosing →
      (outermost = .back → q.backCount = 0) →
      rebuild outermost enclosing d q = .ok
        (d.extend q.render q.backquoted (outermost = .single ∧ q.backCount ≠ 0)) := by
  induction q with
  | done =>
      intro enclosing d _ _
      simp [rebuild, Quotation.render, Quotation.backquoted, Quotation.backCount]
  | text run rest ih =>
      rintro enclosing d ⟨_, _, _, hrest⟩ h
      rw [rebuild, ih hrest h, push_eq_extend, extend_extend]
      rfl
  | span kind inner rest ihInner ihRest =>
      rintro enclosing d ⟨hkind, hinner, hrest⟩ h
      simp only [Quotation.backCount_span_eq_zero_iff] at h
      rw [← extend_span]
      refine rebuild_span_eq_ok_iff.mpr
        ⟨?_, _, ihInner hinner fun ho => (h ho).2.1, ihRest hrest fun ho => (h ho).2.2⟩
      -- a span never stands directly in one of its own kind
      rintro ⟨rfl, rfl | rfl⟩
      · exact hkind rfl
      · exact (h rfl).1 rfl

/-- What a call adds to a draft, part by part. -/
def extendBy (d : Draft) (parts : List Part) : Draft :=
  d.extend (parts.flatMap Part.unwrapped) (parts.flatMap Part.backquoted)
    (parts.any Part.silences)

lemma extendBy_cons (d : Draft) (p : Part) (rest : List Part) :
    (d.extend p.unwrapped p.backquoted p.silences).extendBy rest = d.extendBy (p :: rest) := by
  simp [extendBy]

/-- A quoted part adds the text of its contents, with its delimiters if they are backquotes. -/
lemma pushSpan_eq_extend_part (d : Draft) (kind : Quote) (contents : Quotation) :
    d.pushSpan kind (({} : Draft).extend contents.render contents.backquoted
        (kind = .single ∧ contents.backCount ≠ 0)) (kind == .back)
      = d.extend (Part.quoted kind contents).unwrapped (Part.quoted kind contents).backquoted
          (Part.quoted kind contents).silences := by
  rw [pushSpan_eq_extend]
  cases kind <;> rfl

lemma nests_quoted_eq_false_iff {kind : Quote} {contents : Quotation} :
    (Part.quoted kind contents).nests = false ↔ (kind = .back → contents.backCount = 0) := by
  cases kind <;> simp [Part.nests]

lemma anyOutput_redirect_eq_false_iff {piped : Bool} {op : Operator} {target : Text} :
    (piped = true → Redirection.anyOutput (Part.redirect op target).redirections = false) ↔
      (piped && (Redirection.ofOperator op target).direction == .output) = false := by
  cases piped <;> simp [Part.redirections, Redirection.anyOutput]

lemma anyOutput_redirections_cons (p : Part) (rest : List Part) :
    Redirection.anyOutput ((p :: rest).flatMap Part.redirections)
      = (Redirection.anyOutput p.redirections ||
        Redirection.anyOutput (rest.flatMap Part.redirections)) := by
  simp [Redirection.anyOutput]

/-- Adding a part adds its text, its spans and its redirections, whatever it is made of. -/
lemma extend_of_addPart {piped : Bool} {d : Draft} {rs : List Redirection} {p : Part}
    {e : Draft × List Redirection} (h : addPart piped (d, rs) p = .ok e) :
    p.nests = false ∧ (piped = true → Redirection.anyOutput p.redirections = false) ∧
      e = (d.extend p.unwrapped p.backquoted p.silences, rs ++ p.redirections) := by
  cases p with
  | literal run =>
      cases h
      simp [Part.nests, Part.redirections, Part.unwrapped, Part.backquoted, Part.silences,
        Redirection.anyOutput, push_eq_extend]
  | redirect op target =>
      obtain ⟨hpiped, rfl⟩ := addPart_redirect_eq_ok h
      refine ⟨rfl, anyOutput_redirect_eq_false_iff.mpr hpiped, ?_⟩
      simp [Part.redirections, Part.unwrapped, Part.backquoted, Part.silences]
  | quoted kind contents =>
      obtain ⟨i, hi, rfl⟩ := addPart_quoted_eq_ok h
      obtain ⟨hnest, rfl⟩ := extend_of_rebuild hi
      refine ⟨nests_quoted_eq_false_iff.mpr hnest,
        by simp [Part.redirections, Redirection.anyOutput], ?_⟩
      simp only [pushSpan_eq_extend_part, Part.redirections, List.append_nil]

lemma addPart_of_canonical {piped : Bool} {d : Draft} {rs : List Redirection} {p : Part}
    (hp : p.Canonical) (hnests : p.nests = false)
    (hout : piped = true → Redirection.anyOutput p.redirections = false) :
    addPart piped (d, rs) p =
      .ok (d.extend p.unwrapped p.backquoted p.silences, rs ++ p.redirections) := by
  cases p with
  | literal run =>
      simp [addPart, Part.redirections, Part.unwrapped, Part.backquoted, Part.silences,
        push_eq_extend]
  | redirect op target =>
      simp [addPart, anyOutput_redirect_eq_false_iff.mp hout, Part.redirections, Part.unwrapped,
        Part.backquoted, Part.silences]
  | quoted kind contents =>
      rw [addPart, rebuild_of_canonical hp (nests_quoted_eq_false_iff.mp hnests)]
      simp only [pushSpan_eq_extend_part, Part.redirections, List.append_nil]

/-- Adding parts adds what each of them has, whatever they are made of. -/
lemma extendBy_of_foldlM {piped : Bool} {parts : List Part} :
    ∀ {d : Draft} {rs : List Redirection} {e : Draft × List Redirection},
      parts.foldlM (addPart piped) (d, rs) = .ok e →
      parts.any Part.nests = false ∧
        (piped = true → Redirection.anyOutput (parts.flatMap Part.redirections) = false) ∧
        e = (d.extendBy parts, rs ++ parts.flatMap Part.redirections) := by
  induction parts with
  | nil =>
      intro d rs e h
      cases h
      simp [extendBy, Redirection.anyOutput]
  | cons p rest ih =>
      intro d rs e h
      rw [List.foldlM_cons, bind_eq_ok_iff] at h
      obtain ⟨_, hp, h⟩ := h
      obtain ⟨hnests, hout, rfl⟩ := extend_of_addPart hp
      obtain ⟨hnests', hout', rfl⟩ := ih h
      rw [anyOutput_redirections_cons, List.any_cons, Bool.or_eq_false_iff,
        Bool.or_eq_false_iff]
      refine ⟨⟨hnests, hnests'⟩, fun hpiped => ⟨hout hpiped, hout' hpiped⟩, ?_⟩
      rw [extendBy_cons, List.flatMap_cons, List.append_assoc]

lemma foldlM_of_canonical {piped : Bool} {parts : List Part} :
    ∀ {d : Draft} {rs : List Redirection}, (∀ p ∈ parts, p.Canonical) →
      parts.any Part.nests = false →
      (piped = true → Redirection.anyOutput (parts.flatMap Part.redirections) = false) →
      parts.foldlM (addPart piped) (d, rs) =
        .ok (d.extendBy parts, rs ++ parts.flatMap Part.redirections) := by
  induction parts with
  | nil =>
      intro d rs _ _ _
      simp [extendBy, pure, Except.pure]
  | cons p rest ih =>
      intro d rs hcan hnests hout
      obtain ⟨hp, hrest⟩ := List.forall_mem_cons.mp hcan
      rw [List.any_cons, Bool.or_eq_false_iff] at hnests
      rw [anyOutput_redirections_cons, Bool.or_eq_false_iff] at hout
      rw [List.foldlM_cons, addPart_of_canonical hp hnests.1 fun hpiped => (hout hpiped).1]
      show rest.foldlM (addPart piped) _ = _
      rw [ih hrest hnests.2 fun hpiped => (hout hpiped).2, extendBy_cons, List.flatMap_cons,
        List.append_assoc]

end Draft

/-- The parts that can be put together to one call: no backquoted span under a backquoted one, no
    output redirection in a stage that is not the last, and one backquoted span at most unless
    one stands under single quotes. -/
structure Part.Gathers (piped : Bool) (parts : List Part) : Prop where
  nests : parts.any Part.nests = false
  output : piped = true → Redirection.anyOutput (parts.flatMap Part.redirections) = false
  single : parts.any Part.silences = false → (parts.flatMap Part.backquoted).length ≤ 1

/-- Without single quotes around one of them, a backquoted span is the only one of its call. -/
lemma Part.Gathers.backquoted_eq_singleton {piped : Bool} {parts : List Part}
    (h : Gathers piped parts) (hs : parts.any Part.silences = false) {inner : Text}
    (hinner : inner ∈ parts.flatMap Part.backquoted) : parts.flatMap Part.backquoted = [inner] := by
  have hone : (parts.flatMap Part.backquoted).length = 1 :=
    Nat.le_antisymm (h.single hs) (List.length_pos_of_mem hinner)
  obtain ⟨t, ht⟩ := List.length_eq_one_iff.mp hone
  rw [ht, List.mem_singleton] at hinner
  rw [ht, hinner]

namespace Draft

lemma count_extendBy_iff {parts : List Part} :
    ((({} : Draft).extendBy parts).count > 1 && !(({} : Draft).extendBy parts).disqualified)
        = false ↔
      (parts.any Part.silences = false → (parts.flatMap Part.backquoted).length ≤ 1) := by
  cases hs : parts.any Part.silences <;> simp [extendBy, extend, hs]

/-- **What a call is put together to**, whatever its parts are made of. -/
lemma gathers_of_gather {piped : Bool} {parts : List Part} {d : Draft} {rs : List Redirection}
    (h : gather piped parts = .ok (d, rs)) :
    Part.Gathers piped parts ∧ d = ({} : Draft).extendBy parts ∧
      rs = parts.flatMap Part.redirections := by
  obtain ⟨hfold, hmany⟩ := gather_eq_ok_iff.mp h
  obtain ⟨hnests, hout, heq⟩ := extendBy_of_foldlM hfold
  obtain ⟨rfl, rfl⟩ := Prod.mk.inj heq
  exact ⟨⟨hnests, hout, count_extendBy_iff.mp hmany⟩, rfl, by simp⟩

/-- **Which calls can be put together.** -/
lemma gather_of_gathers {piped : Bool} {parts : List Part} (hcan : ∀ p ∈ parts, p.Canonical)
    (h : Part.Gathers piped parts) :
    gather piped parts = .ok (({} : Draft).extendBy parts, parts.flatMap Part.redirections) :=
  gather_eq_ok_iff.mpr
    ⟨foldlM_of_canonical hcan h.nests h.output, count_extendBy_iff.mpr h.single⟩

variable {piped : Bool} {parts : List Part} {d : Draft} {rs : List Redirection} {inner : Text}

lemma text_extendBy (parts : List Part) :
    (({} : Draft).extendBy parts).text = parts.flatMap Part.unwrapped := by
  simp [extendBy, extend]

/-- The last backquoted span of a call is one of them. -/
lemma mem_backquoted_of_pending (h : (({} : Draft).extendBy parts).pending = some inner) :
    inner ∈ parts.flatMap Part.backquoted := by
  have hlast : (parts.flatMap Part.backquoted).getLast? = some inner := by
    simpa [extendBy, extend] using h
  exact List.mem_of_getLast? hlast

/-- **What a draft has for substitution stands in its text and in its source**, between its
    backquotes. -/
lemma infix_of_pending (h : parts.foldlM (addPart piped) ({}, []) = .ok (d, rs))
    (hpending : d.pending = some inner) :
    backquote inner <:+: parts.flatMap Part.render ∧ backquote inner <:+: d.text := by
  obtain ⟨_, _, heq⟩ := extendBy_of_foldlM h
  obtain ⟨rfl, -⟩ := Prod.mk.inj heq
  rw [text_extendBy]
  exact Part.infix_of_backquoted (mem_backquoted_of_pending hpending)

/-- A substitution is shorter than its call, by its two delimiters at least. -/
lemma length_pending_of_gather (h : gather piped parts = .ok (d, rs))
    (hpending : d.pending = some inner) :
    inner.length + 2 ≤ (parts.flatMap Part.render).length := by
  have hsource := (infix_of_pending (gather_eq_ok_iff.mp h).1 hpending).1
  rw [← length_backquote]
  exact hsource.length_le

end Draft

/-! ## Calls -/

section Calls

variable {read : Text → Except SyntaxError Command} {piped : Bool} {parts : List Part}

/-- A call is assembled from the draft of its parts. -/
lemma Call.exists_draft_of_assemble {k : Call Command}
    (h : Call.assemble read piped parts = .ok k) :
    ∃ d, Draft.gather piped parts = .ok (d, k.redirections) ∧
      d.substitution read = .ok k.substitution ∧ k.text = Text.trim d.text ∧
      k.disqualified = d.disqualified := by
  rw [Call.assemble] at h
  split at h
  · cases h
  next d rs hgather =>
    split at h
    · cases h
    next substitution hsub =>
      cases h
      exact ⟨d, hgather, hsub, rfl, rfl⟩

/-- What a call is assembled to, up to its substitution and whatever its parts are made of. -/
lemma Call.gathers_of_assemble {k : Call Command} (h : Call.assemble read piped parts = .ok k) :
    Part.Gathers piped parts ∧
      ∃ substitution, (({} : Draft).extendBy parts).substitution read = .ok substitution ∧
        k = ⟨Text.trim (parts.flatMap Part.unwrapped), parts.flatMap Part.redirections,
          substitution, parts.any Part.silences⟩ := by
  obtain ⟨text, redirections, substitution, disqualified⟩ := k
  obtain ⟨d, hgather, hsub, rfl, rfl⟩ := Call.exists_draft_of_assemble h
  obtain ⟨hgathers, rfl, rfl⟩ := Draft.gathers_of_gather hgather
  refine ⟨hgathers, substitution, hsub, ?_⟩
  simp [Draft.extendBy, Draft.extend]

/-- The call of some parts, up to its substitution. -/
lemma Call.assemble_eq_ok_iff (hcan : ∀ p ∈ parts, p.Canonical) {k : Call Command} :
    Call.assemble read piped parts = .ok k ↔ Part.Gathers piped parts ∧
      ∃ substitution, (({} : Draft).extendBy parts).substitution read = .ok substitution ∧
        k = ⟨Text.trim (parts.flatMap Part.unwrapped), parts.flatMap Part.redirections,
          substitution, parts.any Part.silences⟩ := by
  refine ⟨Call.gathers_of_assemble, ?_⟩
  rintro ⟨hgathers, substitution, hsub, rfl⟩
  simp only [Call.assemble, Draft.gather_of_gathers hcan hgathers, hsub]
  simp [Draft.extendBy, Draft.extend]

/-- Under single quotes the last backquoted span stays text. -/
lemma Draft.substitution_of_silences (read : Text → Except SyntaxError Command)
    (hs : parts.any Part.silences = true) :
    ∃ inner before after, (({} : Draft).extendBy parts).substitution read =
      .ok (some ⟨.raw inner, before, after⟩) := by
  have hspans : parts.flatMap Part.backquoted ≠ [] := by
    obtain ⟨p, hp, hsilences⟩ := List.any_eq_true.mp hs
    intro h
    have hnil := List.flatMap_eq_nil_iff.mp h p hp
    exact Part.backquoted_ne_nil_of_silences hsilences hnil
  have hpending : (({} : Draft).extendBy parts).pending
      = some ((parts.flatMap Part.backquoted).getLast hspans) := by
    simp [extendBy, extend, List.getLast?_eq_some_getLast hspans]
  have hdisqualified : (({} : Draft).extendBy parts).disqualified = true := by
    simp [extendBy, extend, hs]
  simp only [substitution, hpending, hdisqualified, if_true]
  exact ⟨_, _, _, rfl⟩

lemma Draft.substitution_of_backquoted_eq_nil (hspans : parts.flatMap Part.backquoted = []) :
    (({} : Draft).extendBy parts).substitution read = .ok none := by
  have hpending : (({} : Draft).extendBy parts).pending = none := by
    simp [extendBy, extend, hspans]
  simp only [substitution, hpending]

/-- Elsewhere the only backquoted span is read, unless it is blank. -/
lemma Draft.substitution_of_backquoted_eq_singleton (hs : parts.any Part.silences = false)
    {inner : Text} (hspans : parts.flatMap Part.backquoted = [inner]) :
    (({} : Draft).extendBy parts).substitution read =
      if Text.isBlankText inner then .ok none
      else (read inner).map fun command => some
        ⟨.parsed command, Text.trimStart ((({} : Draft).extendBy parts).around inner).1,
          Text.trimEnd ((({} : Draft).extendBy parts).around inner).2⟩ := by
  have hpending : (({} : Draft).extendBy parts).pending = some inner := by
    simp [extendBy, extend, hspans]
  have hdisqualified : (({} : Draft).extendBy parts).disqualified = false := by
    simp [extendBy, extend, hs]
  simp only [substitution, hpending, hdisqualified]
  cases read inner <;> rfl

/-- **Which calls can be assembled.** -/
lemma Call.exists_assemble_iff (hcan : ∀ p ∈ parts, p.Canonical) :
    (∃ k, Call.assemble read piped parts = .ok k) ↔ Part.Gathers piped parts ∧
      (parts.any Part.silences = false → ∀ inner, parts.flatMap Part.backquoted = [inner] →
        Text.isBlankText inner = false → ∃ command, read inner = .ok command) := by
  have hexists : (∃ k, Call.assemble read piped parts = .ok k) ↔ Part.Gathers piped parts ∧
      ∃ substitution, (({} : Draft).extendBy parts).substitution read = .ok substitution := by
    simp only [Call.assemble_eq_ok_iff hcan]
    constructor
    · rintro ⟨k, hgathers, substitution, hsub, _⟩
      exact ⟨hgathers, substitution, hsub⟩
    · rintro ⟨hgathers, substitution, hsub⟩
      exact ⟨_, hgathers, substitution, hsub, rfl⟩
  rw [hexists]
  refine and_congr_right fun hgathers => ?_
  cases hs : parts.any Part.silences with
  | true =>
      obtain ⟨inner, before, after, hsub⟩ := Draft.substitution_of_silences read hs
      simp [hsub]
  | false =>
      have hlen := hgathers.single hs
      cases hspans : parts.flatMap Part.backquoted with
      | nil => simp [Draft.substitution_of_backquoted_eq_nil hspans]
      | cons inner rest =>
          obtain rfl : rest = [] := by
            rw [hspans, List.length_cons] at hlen
            exact List.length_eq_zero_iff.mp (by omega)
          rw [Draft.substitution_of_backquoted_eq_singleton hs hspans]
          cases hblank : Text.isBlankText inner with
          | true => simp [hblank]
          | false => cases hread : read inner <;> simp [Except.map, hblank, hread]

end Calls

end LineShell
