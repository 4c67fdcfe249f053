import LineShell.Proofs.Line.RoundTrip
import Mathlib.Tactic.Common

/-!
# The language of lines

Which texts are lines, said without a reader: `Text.WellFormed` follows the open quotes
(`Quote.nest`) and asks four things of a text.  It is not blank, every quote is closed, behind
every redirection operator outside quotes stands a target, and where bars outside quotes make a
pipeline, none of its slices is blank.

**Readers accept suffixes.**  `Reader.Accepts` asks the same of the rest of a line, given what
has been read of it: the open quotes, the operator that waits for its target, and which stages of
the open pipeline are blank so far.  A transition does not change whether the rest is accepted
(`Reader.Advance.accepts_iff`), and a reader that accepts the rest has a transition to make
(`Reader.Accepts.exists_advance`).  So reading a text to its end succeeds just when it is
accepted (`Reader.accepts_iff`).
-/

namespace LineShell

namespace Text

/-! ## Well-formed texts -/

/-- Whether a redirection operator starts with this character. -/
def isSign (c : Char) : Bool := c = '<' || c = '>'

/-- What stands behind each redirection operator outside quotes, where `<<` and `>>` are one
    operator each.  `stack` are the open quotes. -/
def behindOperators (stack : List Quote) : Text → List Text
  | [] => []
  | [c] => if stack = [] ∧ isSign c = true then [[]] else []
  | c :: d :: rest =>
    if stack = [] ∧ isSign c = true then
      if d = c then rest :: behindOperators [] rest
      else (d :: rest) :: behindOperators [] (d :: rest)
    else behindOperators (Quote.nest stack c) (d :: rest)

/-- Whether spaces and tabs are followed by a character that can stand in a target. -/
def startsTarget (text : Text) : Bool :=
  (text.dropWhile fun c => c = ' ' ∨ c = '\t').head?.any fun c => !isBlank c && !isSpecial c

/-- The pieces of a text between the occurrences of `sep` outside quotes. -/
def piecesFrom (sep : Char) (stack : List Quote) : Text → List Text
  | [] => [[]]
  | c :: cs =>
    if stack = [] ∧ c = sep then [] :: piecesFrom sep [] cs
    else (piecesFrom sep (Quote.nest stack c) cs).modifyHead (c :: ·)

/-- The texts that are lines. -/
structure WellFormed (text : Text) : Prop where
  notBlank : ∃ c ∈ text, isBlank c = false
  closed : text.foldl Quote.nest [] = []
  targets : ∀ rest ∈ behindOperators [] text, startsTarget rest = true
  stages : ∀ segment ∈ piecesFrom ';' [] text, 2 ≤ (piecesFrom '|' [] segment).length →
    ∀ slice ∈ piecesFrom '|' [] segment, ∃ c ∈ slice, isBlank c = false

lemma isBlankText_eq_false_iff {text : Text} :
    isBlankText text = false ↔ ∃ c ∈ text, isBlank c = false := by
  simp [isBlankText]

lemma wellFormed_iff_isBlankText {text : Text} :
    (isBlankText text = false ∧ text.foldl Quote.nest [] = [] ∧
      (∀ rest ∈ behindOperators [] text, startsTarget rest = true) ∧
      ∀ segment ∈ piecesFrom ';' [] text, 2 ≤ (piecesFrom '|' [] segment).length →
        ∀ slice ∈ piecesFrom '|' [] segment, isBlankText slice = false) ↔ WellFormed text := by
  simp only [isBlankText_eq_false_iff]
  exact ⟨fun ⟨h1, h2, h3, h4⟩ => ⟨h1, h2, h3, h4⟩, fun ⟨h1, h2, h3, h4⟩ => ⟨h1, h2, h3, h4⟩⟩

instance : DecidablePred WellFormed := fun _ => decidable_of_iff _ wellFormed_iff_isBlankText

/-! ## Targets -/

lemma isSign_iff {c : Char} : isSign c = true ↔ ∃ d, c = Reader.sign d := by
  constructor
  · intro h
    simp only [isSign, Bool.or_eq_true, decide_eq_true_eq] at h
    rcases h with rfl | rfl
    · exact ⟨.input, rfl⟩
    · exact ⟨.output, rfl⟩
  · rintro ⟨d, rfl⟩
    cases d <;> rfl

lemma behindOperators_double (d : Direction) (rest : Text) :
    behindOperators [] (Reader.sign d :: Reader.sign d :: rest)
      = rest :: behindOperators [] rest := by
  have hsign : isSign (Reader.sign d) = true := isSign_iff.mpr ⟨d, rfl⟩
  simp [behindOperators, hsign]

lemma behindOperators_single {d : Direction} {rest : Text}
    (h : rest.head? ≠ some (Reader.sign d)) :
    behindOperators [] (Reader.sign d :: rest) = rest :: behindOperators [] rest := by
  have hsign : isSign (Reader.sign d) = true := isSign_iff.mpr ⟨d, rfl⟩
  cases rest with
  | nil => simp [behindOperators, hsign]
  | cons c cs =>
      have hc : c ≠ Reader.sign d := fun hc => h (by rw [hc]; rfl)
      simp [behindOperators, hsign, hc]

/-- A character that starts no operator is passed over. -/
lemma behindOperators_cons {stack : List Quote} {c : Char}
    (h : ¬ (stack = [] ∧ isSign c = true)) (cs : Text) :
    behindOperators stack (c :: cs) = behindOperators (Quote.nest stack c) cs := by
  cases cs with
  | nil => simp [behindOperators, h]
  | cons d rest => rw [behindOperators, if_neg h]

lemma startsTarget_skip {c : Char} (hc : c = ' ' ∨ c = '\t') (cs : Text) :
    startsTarget (c :: cs) = startsTarget cs := by
  simp [startsTarget, hc]

lemma startsTarget_cons {c : Char} (hc : ¬ (c = ' ' ∨ c = '\t')) (cs : Text) :
    startsTarget (c :: cs) = (!isBlank c && !isSpecial c) := by
  simp [startsTarget, hc]

/-! ## Pieces -/

lemma piecesFrom_ne_nil (sep : Char) (stack : List Quote) (text : Text) :
    piecesFrom sep stack text ≠ [] := by
  induction text generalizing stack with
  | nil => simp [piecesFrom]
  | cons c cs ih =>
      rw [piecesFrom]
      split_ifs
      · simp
      · obtain ⟨p, ps, hp⟩ := List.exists_cons_of_ne_nil (ih (Quote.nest stack c))
        simp [hp]

lemma modifyHead_self {α : Type} (xs : List α) : xs.modifyHead (fun x => x) = xs := by
  cases xs <;> rfl

/-- Which slices of a segment are blank. -/
def blanksFrom (stack : List Quote) (segment : Text) : List Bool :=
  (piecesFrom '|' stack segment).map isBlankText

lemma blanksFrom_cons {stack : List Quote} {c : Char} (h : ¬ (stack = [] ∧ c = '|')) (cs : Text) :
    blanksFrom stack (c :: cs)
      = (blanksFrom (Quote.nest stack c) cs).modifyHead (isBlank c && ·) := by
  obtain ⟨p, ps, hp⟩ := List.exists_cons_of_ne_nil (piecesFrom_ne_nil '|' (Quote.nest stack c) cs)
  simp [blanksFrom, piecesFrom, h, hp, isBlankText]

lemma blanksFrom_bar (cs : Text) : blanksFrom [] ('|' :: cs) = true :: blanksFrom [] cs := by
  simp [blanksFrom, piecesFrom, isBlankText]

/-- Whether stages of which `blanks` tells the blank ones make a pipeline. -/
def Fits (blanks : List Bool) : Prop := 2 ≤ blanks.length → ∀ b ∈ blanks, b = false

/-- Whether the segments of a text are pipelines, where the first one goes on behind stages that
    have been read and behind the start of one that is blank so far or not. -/
def StagesFit (blanks : List Bool) (blank : Bool) (stack : List Quote) (text : Text) : Prop :=
  ∀ first more, piecesFrom ';' stack text = first :: more →
    Fits (blanks ++ (blanksFrom stack first).modifyHead (blank && ·)) ∧
      ∀ segment ∈ more, Fits (blanksFrom [] segment)

section StagesFit

variable {blanks : List Bool} {blank : Bool}

lemma stagesFit_nil (stack : List Quote) :
    StagesFit blanks blank stack [] ↔ Fits (blanks ++ [blank]) := by
  simp [StagesFit, piecesFrom, blanksFrom, isBlankText]

lemma stagesFit_bar (cs : Text) :
    StagesFit blanks blank [] ('|' :: cs) ↔ StagesFit (blanks ++ [blank]) true [] cs := by
  obtain ⟨p, ps, hp⟩ := List.exists_cons_of_ne_nil (piecesFrom_ne_nil ';' [] cs)
  have hnest : Quote.nest [] '|' = [] := rfl
  simp [StagesFit, piecesFrom, hnest, hp, blanksFrom_bar, modifyHead_self]

lemma stagesFit_semicolon (cs : Text) :
    StagesFit blanks blank [] (';' :: cs) ↔
      Fits (blanks ++ [blank]) ∧ StagesFit [] true [] cs := by
  obtain ⟨p, ps, hp⟩ := List.exists_cons_of_ne_nil (piecesFrom_ne_nil ';' [] cs)
  have hempty : blanksFrom [] [] = [true] := rfl
  simp [StagesFit, piecesFrom, hp, hempty, modifyHead_self]

/-- Any other character belongs to the open slice. -/
lemma stagesFit_cons {stack : List Quote} {c : Char} (h : ¬ (stack = [] ∧ (c = ';' ∨ c = '|')))
    (cs : Text) :
    StagesFit blanks blank stack (c :: cs) ↔
      StagesFit blanks (blank && isBlank c) (Quote.nest stack c) cs := by
  obtain ⟨p, ps, hp⟩ := List.exists_cons_of_ne_nil (piecesFrom_ne_nil ';' (Quote.nest stack c) cs)
  have hsemi : ¬ (stack = [] ∧ c = ';') := fun hc => h ⟨hc.1, Or.inl hc.2⟩
  have hbar : ¬ (stack = [] ∧ c = '|') := fun hc => h ⟨hc.1, Or.inr hc.2⟩
  have hcomp : (fun b => blank && b) ∘ (fun b => isBlank c && b)
      = fun b => blank && isBlank c && b := by
    funext b
    simp [Bool.and_assoc]
  simp [StagesFit, piecesFrom, hsemi, hp, blanksFrom_cons hbar, List.modifyHead_modifyHead, hcomp]

end StagesFit

end Text

namespace Reader

/-! ## Accepted rests -/

/-- Whether every operator has its target: the one in progress, and those in the rest. -/
def TargetsFit (reading : Reading) (text : Text) : Prop :=
  match reading with
  | .operator d => ∀ rest ∈ Text.behindOperators [] (sign d :: text), Text.startsTarget rest = true
  | .target _ [] => Text.startsTarget text = true ∧
      ∀ rest ∈ Text.behindOperators [] text, Text.startsTarget rest = true
  | _ => ∀ rest ∈ Text.behindOperators (openQuotes reading) text, Text.startsTarget rest = true

/-- Whether nothing but blanks has been read of the open stage. -/
def openBlank (r : Reader) : Bool := r.parts.all Part.isBlank && decide (r.reading = .plain)

/-- Whether the text can be the rest of the line. -/
structure Accepts (r : Reader) (text : Text) : Prop where
  closed : text.foldl Quote.nest (openQuotes r.reading) = []
  targets : TargetsFit r.reading text
  stages : Text.StagesFit (r.stages.map fun parts => parts.all Part.isBlank) r.openBlank
    (openQuotes r.reading) text

/-- The open pipeline can be ended just when its stages fit. -/
lemma exists_pipelineOf_iff (r : Reader) (hr : r.reading = .plain) :
    (∃ node, pipelineOf (r.stages ++ [r.parts]) = .ok node) ↔
      Text.Fits ((r.stages.map fun parts => parts.all Part.isBlank) ++ [r.openBlank]) := by
  have hmap : (r.stages.map fun parts => parts.all Part.isBlank) ++ [r.openBlank]
      = (r.stages ++ [r.parts]).map fun parts => parts.all Part.isBlank := by
    simp [openBlank, hr]
  rw [hmap]
  simp only [pipelineOf_eq_ok_iff, Text.Fits, List.length_map, List.forall_mem_map]
  constructor
  · rintro ⟨node, ⟨parts, hone, rfl⟩ | ⟨_, hblank, rfl⟩⟩ hlen
    · rw [hone] at hlen
      simp at hlen
    · exact hblank
  · intro h
    by_cases hlen : 2 ≤ (r.stages ++ [r.parts]).length
    · exact ⟨_, Or.inr ⟨by omega, h hlen, rfl⟩⟩
    · have hnil : r.stages = [] := by
        rw [List.length_append, List.length_singleton] at hlen
        exact List.length_eq_zero_iff.mp (by omega)
      exact ⟨_, Or.inl ⟨r.parts, by rw [hnil]; rfl, rfl⟩⟩

lemma all_isBlank_pushLiteral (c : Char) (parts : List Part) :
    (pushLiteral c parts).all Part.isBlank = (parts.all Part.isBlank && isBlank c) := by
  have hbefore := Node.isBlankText_render_call parts
  have hafter := Node.isBlankText_render_call (pushLiteral c parts)
  rw [Node.render_call] at hbefore hafter
  rw [← hafter, ← hbefore, render_pushLiteral]
  simp [Text.isBlankText]

lemma nest_of_isSpecial {c : Char} (h : isSpecial c = false) (stack : List Quote) :
    Quote.nest stack c = stack := by
  simp [Quote.nest, Quote.ofChar?_eq_none h]

lemma isSign_eq_false_of_isSpecial {c : Char} (h : isSpecial c = false) :
    Text.isSign c = false := by
  rw [Bool.eq_false_iff]
  intro hs
  obtain ⟨d, rfl⟩ := Text.isSign_iff.mp hs
  simp at h

lemma ne_separator_of_isSpecial {c : Char} (h : isSpecial c = false) : ¬ (c = ';' ∨ c = '|') := by
  rintro (rfl | rfl) <;> exact absurd h (by decide)

/-- A character that belongs to the open slice is accepted together with what follows it. -/
lemma accepts_cons_iff {r r' : Reader} {c : Char} {cs : Text}
    (hsep : ¬ (openQuotes r.reading = [] ∧ (c = ';' ∨ c = '|')))
    (hquotes : openQuotes r'.reading = Quote.nest (openQuotes r.reading) c)
    (hstages : r'.stages = r.stages) (hblank : r'.openBlank = (r.openBlank && isBlank c))
    (htargets : TargetsFit r.reading (c :: cs) ↔ TargetsFit r'.reading cs) :
    r.Accepts (c :: cs) ↔ r'.Accepts cs := by
  constructor
  · rintro ⟨h1, h2, h3⟩
    refine ⟨by rw [hquotes]; exact h1, htargets.mp h2, ?_⟩
    rw [hstages, hblank, hquotes]
    exact (Text.stagesFit_cons hsep cs).mp h3
  · rintro ⟨h1, h2, h3⟩
    refine ⟨by rw [List.foldl_cons, ← hquotes]; exact h1, htargets.mpr h2, ?_⟩
    rw [hstages, hblank, hquotes] at h3
    exact (Text.stagesFit_cons hsep cs).mpr h3

/-- Outside redirections, a character that starts none has no say in the targets. -/
lemma targetsFit_cons {reading reading' : Reading} {c : Char} {cs : Text}
    (hc : ¬ (openQuotes reading = [] ∧ Text.isSign c = true))
    (hquotes : openQuotes reading' = Quote.nest (openQuotes reading) c)
    (h : targetOf reading = none) (h' : targetOf reading' = none) :
    TargetsFit reading (c :: cs) ↔ TargetsFit reading' cs := by
  have hplain : ∀ {reading : Reading} {text : Text}, targetOf reading = none →
      (TargetsFit reading text ↔ ∀ rest ∈ Text.behindOperators (openQuotes reading) text,
        Text.startsTarget rest = true) := by
    intro reading text h
    cases reading with
    | plain => exact Iff.rfl
    | quoted top below => exact Iff.rfl
    | operator d => cases h
    | target op name => cases h
  rw [hplain h, hplain h', hquotes, Text.behindOperators_cons hc]

/-- Behind an operator that the text does not double, a target has to follow. -/
lemma targetsFit_of_targetOf {reading : Reading} {op : Operator} {text : Text}
    (h : targetOf reading = some (op, []))
    (hd : ∀ d, reading = .operator d → text.head? ≠ some (sign d)) :
    TargetsFit reading text ↔ Text.startsTarget text = true ∧
      ∀ rest ∈ Text.behindOperators [] text, Text.startsTarget rest = true := by
  cases reading with
  | plain => cases h
  | quoted top below => cases h
  | operator d =>
      simp only [TargetsFit, Text.behindOperators_single (hd d rfl), List.forall_mem_cons]
  | target op name => cases h; exact Iff.rfl

lemma targetsFit_target {op : Operator} {name : Text} (hn : name ≠ []) (text : Text) :
    TargetsFit (.target op name) text ↔
      ∀ rest ∈ Text.behindOperators [] text, Text.startsTarget rest = true := by
  cases name with
  | nil => exact absurd rfl hn
  | cons c cs => exact Iff.rfl

lemma openBlank_of_reading {r : Reader} (h : r.reading ≠ .plain) : r.openBlank = false := by
  simp [openBlank, h]

/-- A separator outside quotes leaves the targets to the rest. -/
lemma accepts_separator_iff {r r' : Reader} {c : Char} {cs : Text} (hc : c = ';' ∨ c = '|')
    (hr : r.reading = .plain) (hr' : r'.reading = .plain)
    (hstages : Text.StagesFit (r.stages.map fun parts => parts.all Part.isBlank) r.openBlank []
        (c :: cs) ↔
      Text.StagesFit (r'.stages.map fun parts => parts.all Part.isBlank) r'.openBlank [] cs) :
    r.Accepts (c :: cs) ↔ r'.Accepts cs := by
  have hnest : Quote.nest [] c = [] := by rcases hc with rfl | rfl <;> rfl
  have hsign : Text.isSign c = false := by rcases hc with rfl | rfl <;> rfl
  have htargets : TargetsFit .plain (c :: cs) ↔ TargetsFit .plain cs :=
    targetsFit_cons (by simp [hsign]) hnest.symm rfl rfl
  constructor
  · rintro ⟨h1, h2, h3⟩
    rw [hr] at h1 h2 h3
    rw [show openQuotes .plain = [] from rfl, List.foldl_cons, hnest] at h1
    exact ⟨by rw [hr']; exact h1, by rw [hr']; exact htargets.mp h2,
      by rw [hr']; exact hstages.mp h3⟩
  · rintro ⟨h1, h2, h3⟩
    rw [hr'] at h1 h2 h3
    refine ⟨?_, by rw [hr]; exact htargets.mpr h2, by rw [hr]; exact hstages.mpr h3⟩
    rw [hr, show openQuotes .plain = [] from rfl, List.foldl_cons, hnest]
    exact h1

/-- In the plain state, a character that makes a transition does not change whether the rest is
    accepted. -/
lemma PlainStep.accepts_iff {r r' : Reader} {c : Char} (hs : PlainStep r c r')
    (hr : r.reading = .plain) (cs : Text) : r.Accepts (c :: cs) ↔ r'.Accepts cs := by
  cases hs with
  | close hnode =>
      have hfits := (r.exists_pipelineOf_iff hr).mp ⟨_, hnode⟩
      refine accepts_separator_iff (Or.inl rfl) hr hr ?_
      rw [Text.stagesFit_semicolon, and_iff_right hfits]
      simp [openBlank, hr]
  | bar =>
      refine accepts_separator_iff (Or.inr rfl) hr hr ?_
      rw [Text.stagesFit_bar]
      simp [openBlank, hr]
  | sign d =>
      have hsep : ¬ (Reader.sign d = ';' ∨ Reader.sign d = '|') := by cases d <;> decide
      have hnest : Quote.nest [] (Reader.sign d) = [] := by cases d <;> rfl
      have hblank := isBlank_eq_false_of_isSpecial (isSpecial_sign d)
      refine accepts_cons_iff (fun h => hsep h.2) ?_ rfl ?_ ?_
      · simp [hr, openQuotes, hnest]
      · simp [openBlank, hblank]
      · simp [hr, TargetsFit, openQuotes]
  | quote k =>
      have hsep : ¬ (k.delimiter = ';' ∨ k.delimiter = '|') := by cases k <;> decide
      have hsign : Text.isSign k.delimiter = false := by cases k <;> decide
      have hnest : Quote.nest [] k.delimiter = [k] := by simp [Quote.nest]
      have hblank := isBlank_eq_false_of_isSpecial (isSpecial_delimiter k)
      refine accepts_cons_iff (fun h => hsep h.2) ?_ rfl ?_ ?_
      · simp [hr, openQuotes, hnest]
      · simp [openBlank, hblank]
      · exact targetsFit_cons (by simp [hsign]) (by simp [hr, openQuotes, hnest])
          (by rw [hr]; rfl) rfl
  | literal hc =>
      have hsep := ne_separator_of_isSpecial hc
      have hsign := isSign_eq_false_of_isSpecial hc
      have hnest := nest_of_isSpecial hc []
      refine accepts_cons_iff (fun h => hsep h.2) ?_ rfl ?_ ?_
      · simp [hr, openQuotes, hnest]
      · simp [openBlank, hr, all_isBlank_pushLiteral]
      · exact targetsFit_cons (by simp [hsign]) (by simp [hr, openQuotes, hnest])
          (by rw [hr]; rfl) (by rw [hr]; rfl)

/-- Ending a target does not change what is accepted. -/
lemma accepts_settle_iff {r s : Reader} (h : r.settle = .ok s) (text : Text) :
    r.Accepts text ↔ s.Accepts text := by
  rcases settle_eq_ok_iff.mp h with ⟨_, rfl⟩ | ⟨op, name, hr, hn, rfl⟩
  · exact Iff.rfl
  · have htargets : TargetsFit r.reading text ↔ TargetsFit .plain text := by
      rw [hr, targetsFit_target hn]
      rfl
    have hblank : r.openBlank = false := openBlank_of_reading (by simp [hr])
    have hblank' : openBlank
        { r with parts := r.parts ++ [.redirect op name], reading := .plain } = false := by
      simp [openBlank, Part.isBlank]
    constructor
    · rintro ⟨h1, h2, h3⟩
      exact ⟨by rw [hr] at h1; exact h1, htargets.mp h2,
        by rw [hr, hblank] at h3; rw [hblank']; exact h3⟩
    · rintro ⟨h1, h2, h3⟩
      exact ⟨by rw [hr]; exact h1, htargets.mpr h2,
        by rw [hr, hblank]; rw [hblank'] at h3; exact h3⟩

/-- **A transition does not change what is accepted.** -/
lemma Advance.accepts_iff {r r' : Reader} {c : Char} (ha : Advance r c r') (cs : Text) :
    r.Accepts (c :: cs) ↔ r'.Accepts cs := by
  cases ha with
  | plain hr hs => exact hs.accepts_iff hr cs
  | @double d hr =>
      have hsep : ¬ (Reader.sign d = ';' ∨ Reader.sign d = '|') := by cases d <;> decide
      have hnest : Quote.nest [] (Reader.sign d) = [] := by cases d <;> rfl
      refine accepts_cons_iff (fun h => hsep h.2) ?_ rfl ?_ ?_
      · simp [hr, openQuotes, hnest]
      · simp [openBlank, hr]
      · simp only [hr, TargetsFit, Text.behindOperators_double, List.forall_mem_cons]
  | @skip op c ht hc =>
      have hspecial : isSpecial c = false := by rcases hc with rfl | rfl <;> decide
      have hsep := ne_separator_of_isSpecial hspecial
      have hquotes := (renderReading_of_targetOf ht).2.1
      have hplain : r.reading ≠ .plain := fun h => by rw [h] at ht; cases ht
      refine accepts_cons_iff (fun h => hsep h.2) ?_ rfl ?_ ?_
      · rw [hquotes, nest_of_isSpecial hspecial]
        rfl
      · rw [openBlank_of_reading hplain]
        simp [openBlank]
      · rw [targetsFit_of_targetOf ht, Text.startsTarget_skip hc,
          Text.behindOperators_cons (by simp [isSign_eq_false_of_isSpecial hspecial]),
          nest_of_isSpecial hspecial]
        · exact Iff.rfl
        · rintro d - ⟨⟩
          simp at hspecial
  | @name op name c ht hb hs =>
      have hsep := ne_separator_of_isSpecial hs
      have hquotes := (renderReading_of_targetOf ht).2.1
      have hplain : r.reading ≠ .plain := fun h => by rw [h] at ht; cases ht
      have hoperators : Text.behindOperators [] (c :: cs) = Text.behindOperators [] cs := by
        rw [Text.behindOperators_cons (by simp [isSign_eq_false_of_isSpecial hs]),
          nest_of_isSpecial hs]
      refine accepts_cons_iff (fun h => hsep h.2) ?_ rfl ?_ ?_
      · rw [hquotes, nest_of_isSpecial hs]
        rfl
      · rw [openBlank_of_reading hplain]
        simp [openBlank]
      · rw [targetsFit_target (by simp)]
        cases name with
        | nil =>
            have hstart : Text.startsTarget (c :: cs) = true := by
              have hc : ¬ (c = ' ' ∨ c = '\t') := fun hc => by
                rw [isBlank_of_space_or_tab hc] at hb
                cases hb
              simp [Text.startsTarget_cons hc, hb, hs]
            rw [targetsFit_of_targetOf ht, hoperators]
            · simp [hstart]
            · rintro d - ⟨⟩
              simp at hs
        | cons n ns =>
            have hr : r.reading = .target op (n :: ns) := by
              cases hread : r.reading with
              | target op' name' => rw [hread] at ht; cases ht; rfl
              | operator d => rw [hread] at ht; cases ht
              | plain => rw [hread] at ht; cases ht
              | quoted top below => rw [hread] at ht; cases ht
            rw [hr, targetsFit_target (by simp), hoperators]
  | @endTarget op name c r' hr hn hc hs =>
      rw [accepts_settle_iff (settle_eq_ok_iff.mpr (Or.inr ⟨op, name, hr, hn, rfl⟩))]
      exact hs.accepts_iff rfl cs
  | @closeOuter top hr =>
      have hnest : Quote.nest [top.kind] top.kind.delimiter = [] := by simp [Quote.nest]
      refine accepts_cons_iff (by simp [hr, openQuotes]) ?_ rfl ?_ ?_
      · simp [hr, openQuotes, hnest]
      · simp [openBlank, hr, Part.isBlank]
      · exact targetsFit_cons (by simp [hr, openQuotes]) (by simp [hr, openQuotes, hnest])
          (by rw [hr]; rfl) rfl
  | @closeInner top next rest hr =>
      have hquotes : next.kind :: rest.map OpenSpan.kind
          = Quote.nest (openQuotes r.reading) top.kind.delimiter := by
        simp [hr, openQuotes, Quote.nest]
      refine accepts_cons_iff (by simp [hr, openQuotes]) hquotes rfl ?_ ?_
      · simp [openBlank, hr]
      · exact targetsFit_cons (by simp [hr, openQuotes]) hquotes (by rw [hr]; rfl) rfl
  | @openInner top below k hr hk =>
      have hquotes : k :: (top :: below).map OpenSpan.kind
          = Quote.nest (openQuotes r.reading) k.delimiter := by
        simp [hr, openQuotes, Quote.nest, hk]
      refine accepts_cons_iff (by simp [hr, openQuotes]) hquotes rfl ?_ ?_
      · simp [openBlank, hr]
      · exact targetsFit_cons (by simp [hr, openQuotes]) hquotes (by rw [hr]; rfl) rfl
  | @text top below c hr hc =>
      have hquotes : top.kind :: below.map OpenSpan.kind
          = Quote.nest (openQuotes r.reading) c := by
        simp [hr, openQuotes, Quote.nest, hc]
      refine accepts_cons_iff (by simp [hr, openQuotes]) hquotes rfl ?_ ?_
      · simp [openBlank, hr]
      · exact targetsFit_cons (by simp [hr, openQuotes]) hquotes (by rw [hr]; rfl) rfl

/-! ## Progress -/

lemma Accepts.exists_plainStep {r : Reader} {c : Char} {cs : Text} (h : r.Accepts (c :: cs))
    (hr : r.reading = .plain) : ∃ r', PlainStep r c r' := by
  cases hc : isSpecial c with
  | false => exact ⟨_, .literal hc⟩
  | true =>
      rcases isSpecial_iff.mp hc with ⟨k, rfl⟩ | ⟨d, rfl⟩ | rfl | rfl
      · exact ⟨_, .quote k⟩
      · exact ⟨_, .sign d⟩
      · have hstages := h.stages
        rw [hr] at hstages
        have hfits := ((Text.stagesFit_semicolon cs).mp hstages).1
        obtain ⟨node, hnode⟩ := (r.exists_pipelineOf_iff hr).mpr hfits
        exact ⟨_, .close hnode⟩
      · exact ⟨_, .bar⟩

/-- Where a target has to follow, a character of it stands, or a space or a tab. -/
lemma exists_advance_of_startsTarget {r : Reader} {op : Operator} {c : Char} {cs : Text}
    (ht : targetOf r.reading = some (op, [])) (h : Text.startsTarget (c :: cs) = true) :
    ∃ r', Advance r c r' := by
  by_cases hc : c = ' ' ∨ c = '\t'
  · exact ⟨_, .skip ht hc⟩
  · rw [Text.startsTarget_cons hc, Bool.and_eq_true, Bool.not_eq_true', Bool.not_eq_true'] at h
    exact ⟨_, .name ht h.1 h.2⟩

/-- **A reader that accepts the rest of its line is not stuck.** -/
lemma Accepts.exists_advance {r : Reader} {c : Char} {cs : Text} (h : r.Accepts (c :: cs)) :
    ∃ r', Advance r c r' := by
  cases hr : r.reading with
  | plain =>
      obtain ⟨r', hs⟩ := h.exists_plainStep hr
      exact ⟨r', .plain hr hs⟩
  | operator d =>
      by_cases hc : c = Reader.sign d
      · subst hc
        exact ⟨_, .double hr⟩
      · have ht : targetOf r.reading = some (single d, []) := by rw [hr]; rfl
        have htargets := h.targets
        rw [targetsFit_of_targetOf ht] at htargets
        · exact exists_advance_of_startsTarget ht htargets.1
        · rintro d' hd' ⟨⟩
          rw [hr] at hd'
          cases hd'
          exact hc rfl
  | target op name =>
      cases name with
      | nil =>
          have htargets := h.targets
          rw [hr] at htargets
          exact exists_advance_of_startsTarget (by rw [hr]; rfl) htargets.1
      | cons n ns =>
          cases hc : isBlank c || isSpecial c with
          | false =>
              rw [Bool.or_eq_false_iff] at hc
              exact ⟨_, .name (by rw [hr]; rfl) hc.1 hc.2⟩
          | true =>
              have hsettle := settle_eq_ok_iff.mpr (Or.inr ⟨op, n :: ns, hr, by simp, rfl⟩)
              obtain ⟨r', hs⟩ := ((accepts_settle_iff hsettle _).mp h).exists_plainStep rfl
              exact ⟨r', .endTarget hr (by simp) (by simpa using hc) hs⟩
  | quoted top below =>
      cases hc : Quote.ofChar? c with
      | none => exact ⟨_, .text hr hc⟩
      | some k =>
          obtain rfl := Quote.ofChar?_eq_some_iff.mp hc
          by_cases hk : k = top.kind
          · subst hk
            cases below with
            | nil => exact ⟨_, .closeOuter hr⟩
            | cons next rest => exact ⟨_, .closeInner hr⟩
          · exact ⟨_, .openInner hr hk⟩

/-- Nothing is left to read: what is in progress can be ended, and so can the open pipeline. -/
lemma accepts_nil_iff {r : Reader} :
    r.Accepts [] ↔ ∃ s last, r.settle = .ok s ∧ pipelineOf (s.stages ++ [s.parts]) = .ok last := by
  have hplain : ∀ {s : Reader}, s.reading = .plain →
      (s.Accepts [] ↔ ∃ last, pipelineOf (s.stages ++ [s.parts]) = .ok last) := by
    intro s hs
    rw [s.exists_pipelineOf_iff hs, ← Text.stagesFit_nil (openQuotes s.reading)]
    refine ⟨fun h => h.stages, fun h => ⟨?_, ?_, h⟩⟩
    · rw [hs]; rfl
    · rw [hs]; simp [TargetsFit, Text.behindOperators]
  constructor
  · intro h
    have hsettle : ∃ s, r.settle = .ok s := by
      have htargets := h.targets
      have hclosed := h.closed
      cases hr : r.reading with
      | plain => exact ⟨r, settle_eq_ok_iff.mpr (Or.inl ⟨hr, rfl⟩)⟩
      | operator d =>
          have ht : targetOf (.operator d) = some (single d, []) := rfl
          rw [hr, targetsFit_of_targetOf ht (by simp)] at htargets
          exact absurd htargets.1 (by simp [Text.startsTarget])
      | target op name =>
          cases name with
          | nil => rw [hr] at htargets; exact absurd htargets.1 (by simp [Text.startsTarget])
          | cons n ns => exact ⟨_, settle_eq_ok_iff.mpr (Or.inr ⟨op, n :: ns, hr, by simp, rfl⟩)⟩
      | quoted top below => rw [hr] at hclosed; simp [openQuotes] at hclosed
    obtain ⟨s, hs⟩ := hsettle
    obtain ⟨last, hlast⟩ := (hplain (reading_of_settle hs)).mp ((accepts_settle_iff hs []).mp h)
    exact ⟨s, last, hs, hlast⟩
  · rintro ⟨s, last, hs, hlast⟩
    exact (accepts_settle_iff hs []).mpr ((hplain (reading_of_settle hs)).mpr ⟨last, hlast⟩)

lemma accepts_count_iff {r : Reader} {n : Nat} {text : Text} :
    ({ r with count := n } : Reader).Accepts text ↔ r.Accepts text :=
  ⟨fun ⟨h1, h2, h3⟩ => ⟨h1, h2, h3⟩, fun ⟨h1, h2, h3⟩ => ⟨h1, h2, h3⟩⟩

/-- **A text is accepted just when it can be read to its end.** -/
lemma accepts_iff {r : Reader} {text : Text} :
    r.Accepts text ↔
      ∃ s last, Reads r text s ∧ pipelineOf (s.stages ++ [s.parts]) = .ok last := by
  induction text generalizing r with
  | nil =>
      rw [accepts_nil_iff]
      constructor
      · rintro ⟨s, last, hs, hlast⟩
        exact ⟨s, last, ⟨r, rfl, hs⟩, hlast⟩
      · rintro ⟨s, last, ⟨_, ⟨⟩, hs⟩, hlast⟩
        exact ⟨s, last, hs, hlast⟩
  | cons c cs ih =>
      constructor
      · intro h
        obtain ⟨r', ha⟩ := h.exists_advance
        have hrest := accepts_count_iff (n := r.count + 1).mpr ((ha.accepts_iff cs).mp h)
        obtain ⟨s, last, hs, hlast⟩ := ih.mp hrest
        exact ⟨s, last, .cons (step_of_advance ha) hs, hlast⟩
      · rintro ⟨s, last, ⟨r', hrun, hs⟩, hlast⟩
        obtain ⟨s', hstep, hrun⟩ := foldlM_step_cons.mp hrun
        obtain ⟨s'', ha, rfl⟩ := step_eq_ok_iff.mp hstep
        have hrest := ih.mpr ⟨s, last, ⟨r', hrun, hs⟩, hlast⟩
        exact (ha.accepts_iff cs).mpr (accepts_count_iff.mp hrest)

end Reader

/-! ## The language -/

namespace Text

lemma fits_blanksFrom_iff {segment : Text} :
    Fits (blanksFrom [] segment) ↔ (2 ≤ (piecesFrom '|' [] segment).length →
      ∀ slice ∈ piecesFrom '|' [] segment, isBlankText slice = false) := by
  simp only [Fits, blanksFrom, List.length_map, List.forall_mem_map]

/-- A reader that has read nothing accepts what fits on its own. -/
lemma stagesFit_iff {text : Text} :
    StagesFit [] true [] text ↔
      ∀ segment ∈ piecesFrom ';' [] text, Fits (blanksFrom [] segment) := by
  obtain ⟨p, ps, hp⟩ := List.exists_cons_of_ne_nil (piecesFrom_ne_nil ';' [] text)
  simp [StagesFit, hp, modifyHead_self]

lemma wellFormed_iff {text : Text} :
    WellFormed text ↔ isBlankText text = false ∧ Reader.Accepts {} text := by
  rw [← wellFormed_iff_isBlankText]
  simp only [← fits_blanksFrom_iff, ← stagesFit_iff]
  constructor
  · rintro ⟨hblank, hclosed, htargets, hstages⟩
    exact ⟨hblank, hclosed, htargets, hstages⟩
  · rintro ⟨hblank, hclosed, htargets, hstages⟩
    exact ⟨hblank, hclosed, htargets, hstages⟩

end Text

/-- **The well-formed texts are the lines.**  A text can be read as a node just when it is
    well-formed, and any other text is a syntax error. -/
theorem Node.parse_isOk_iff_wellFormed (text : Text) :
    ((∃ node, Node.parse text = .ok node) ↔ text.WellFormed) ∧
      (¬ text.WellFormed → ∃ e : SyntaxError, Node.parse text = .error e) := by
  have hiff : (∃ node, Node.parse text = .ok node) ↔ text.WellFormed := by
    rw [Text.wellFormed_iff, Reader.accepts_iff]
    constructor
    · rintro ⟨node, hnode⟩
      obtain ⟨hblank, s, last, hs, hlast, _⟩ := Node.parse_eq_ok_iff.mp hnode
      exact ⟨hblank, s, last, hs, hlast⟩
    · rintro ⟨hblank, s, last, hs, hlast⟩
      exact ⟨_, Node.parse_eq_ok_iff.mpr ⟨hblank, s, last, hs, hlast, rfl⟩⟩
  refine ⟨hiff, fun h => ?_⟩
  cases hparse : Node.parse text with
  | error e => exact ⟨e, rfl⟩
  | ok node => exact absurd (hiff.mp ⟨node, hparse⟩) h

-- a bar in quotes is none, and a member may be blank; three signs are never an operator
example : Text.WellFormed "a \"|'`;`'\">> f;;b|c".toList ∧ ¬ Text.WellFormed "a>>>f".toList ∧
    ¬ Text.WellFormed "a| ;b".toList ∧ ¬ Text.WellFormed "a '\"'b".toList := by decide

end LineShell
