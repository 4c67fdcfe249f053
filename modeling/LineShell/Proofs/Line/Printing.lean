import LineShell.Proofs.Line.Transition
import Mathlib.Tactic.Common

/-!
# What has been read, printed back

Reading loses two things: which blank a line break outside quotes was, and the blanks between a
redirection operator and its target.  `Text.tidy` is a text without the two, found by following
the open quotes alone (`Quote.nest`) and building no tree.

**The reader prints what it has read.**  `Reader.render` prints a reader: everything that is
complete with its separator, then what is in progress.  `Reader.printed` puts the tidied rest of
the text behind it, and `Reader.printed_advance` says that a transition does not change the
whole: what a character takes off the rest it adds to the reader.  Hence `Node.render_of_parse`:
a node that has been read prints as the tidied line.
-/

namespace LineShell

/-! ## Tidied text -/

/-- The open quotes after one more character, innermost first: a delimiter of the innermost quote
    closes it, and any other delimiter opens one. -/
def Quote.nest (stack : List Quote) (c : Char) : List Quote :=
  match Quote.ofChar? c, stack with
  | none, stack => stack
  | some kind, [] => [kind]
  | some kind, top :: below => if kind = top then below else kind :: top :: below

namespace Text

/-- The text with the line breaks outside quotes turned into spaces and the spaces and tabs after
    redirection operators left out.  `stack` are the open quotes, and `skipping` says that an
    operator has just been read. -/
def tidyFrom (stack : List Quote) (skipping : Bool) : Text → Text
  | [] => []
  | c :: cs =>
    if skipping = true ∧ (c = ' ' ∨ c = '\t') then tidyFrom stack true cs
    else
      (if stack = [] ∧ (c = '\n' ∨ c = '\r') then ' ' else c) ::
        tidyFrom (Quote.nest stack c) (stack.isEmpty && (c == '<' || c == '>')) cs

/-- The line with the line breaks outside quotes turned into spaces and the spaces and tabs after
    redirection operators outside quotes left out. -/
def tidy (line : Text) : Text := tidyFrom [] false line

/-- Only blanks are left out, and only blanks take the place of blanks. -/
lemma isBlankText_tidyFrom : ∀ (text : Text) (stack : List Quote) (skipping : Bool),
    isBlankText (tidyFrom stack skipping text) = isBlankText text
  | [], _, _ => rfl
  | c :: cs, stack, skipping => by
      simp only [tidyFrom]
      split_ifs with hskip hbreak
      · have hc := isBlank_of_space_or_tab hskip.2
        rw [isBlankText_tidyFrom cs]
        simp [isBlankText, hc]
      · have hc : isBlank c = true := by rcases hbreak.2 with rfl | rfl <;> decide
        have hspace : isBlank ' ' = true := by decide
        have ih := isBlankText_tidyFrom cs (Quote.nest stack c)
          (stack.isEmpty && (c == '<' || c == '>'))
        simp only [isBlankText] at ih
        simp only [isBlankText, List.all_cons, hc, hspace, ih]
      · have ih := isBlankText_tidyFrom cs (Quote.nest stack c)
          (stack.isEmpty && (c == '<' || c == '>'))
        simp only [isBlankText] at ih
        simp only [isBlankText, List.all_cons, ih]

lemma length_tidyFrom_le : ∀ (text : Text) (stack : List Quote) (skipping : Bool),
    (tidyFrom stack skipping text).length ≤ text.length
  | [], _, _ => Nat.le_refl _
  | c :: cs, stack, skipping => by
      simp only [tidyFrom]
      split_ifs with hskip
      · have ih := length_tidyFrom_le cs stack true
        simp only [List.length_cons]
        omega
      · simp only [List.length_cons, Nat.add_le_add_iff_right]
        exact length_tidyFrom_le cs _ _
      · simp only [List.length_cons, Nat.add_le_add_iff_right]
        exact length_tidyFrom_le cs _ _

end Text

/-! ## Printing quotations, parts and nodes -/

lemma Quotation.render_pushChar (c : Char) :
    ∀ q : Quotation, (q.pushChar c).render = q.render ++ [c]
  | done => rfl
  | text run done => by simp [pushChar, render]
  | text run (text r rest) => by
      rw [pushChar, render, render_pushChar c (text r rest)]
      · simp [render]
      · simp
  | text run (span k i rest) => by
      rw [pushChar, render, render_pushChar c (span k i rest)]
      · simp [render]
      · simp
  | span k i rest => by simp [pushChar, render, render_pushChar c rest]

lemma Quotation.render_pushSpan (kind : Quote) (inner : Quotation) : ∀ q : Quotation,
    (pushSpan kind inner q).render = q.render ++ (Part.quoted kind inner).render
  | done => by simp [pushSpan, render, Part.render]
  | text run rest => by simp [pushSpan, render, render_pushSpan kind inner rest]
  | span k i rest => by simp [pushSpan, render, render_pushSpan kind inner rest]

lemma Reader.render_pushLiteral (c : Char) (parts : List Part) :
    (pushLiteral c parts).flatMap Part.render = parts.flatMap Part.render ++ [unbreak c] := by
  rcases pushLiteral_cases c parts with ⟨ps, run, rfl, heq⟩ | ⟨_, heq⟩
  · simp [heq, Part.render]
  · simp [heq, Part.render]

namespace Node

/-- Some nodes, each with a separator behind it. -/
def renderEach (sep : Char) (nodes : List Node) : Text :=
  nodes.flatMap fun n => n.render ++ [sep]

lemma renderAll_concat (sep : Char) (last : Node) :
    ∀ nodes, renderAll sep (nodes ++ [last]) = renderEach sep nodes ++ last.render
  | [] => by simp [renderAll, renderEach]
  | [n] => by simp [renderAll, renderEach]
  | n :: m :: rest => by
      have ih := renderAll_concat sep last (m :: rest)
      rw [List.cons_append, List.cons_append, renderAll, ← List.cons_append, ih]
      · simp [renderEach]
      · simp

lemma render_call (parts : List Part) : (call parts).render = parts.flatMap Part.render := by
  rw [render]

/-- A pipeline prints as its stages with bars between them, also one that stands alone. -/
lemma render_of_pipelineOf {stages : List (List Part)} {parts : List Part} {node : Node}
    (h : Reader.pipelineOf (stages ++ [parts]) = .ok node) :
    node.render = renderEach '|' (stages.map call) ++ (call parts).render := by
  rcases Reader.pipelineOf_eq_ok_iff.mp h with ⟨ps, heq, rfl⟩ | ⟨_, _, rfl⟩
  · have hlen : stages = [] := by
      have := congrArg List.length heq
      simpa using this
    subst hlen
    simp only [List.nil_append, List.cons.injEq, and_true] at heq
    subst heq
    simp [renderEach]
  · rw [render, List.map_append, List.map_singleton, renderAll_concat]

/-- A line prints as its members with semicolons between them, also one that stands alone. -/
lemma render_lineOf (members : List Node) (last : Node) :
    (Reader.lineOf (members ++ [last])).render = renderEach ';' members ++ last.render := by
  cases members with
  | nil => simp [Reader.lineOf, renderEach]
  | cons n ns => rw [Reader.lineOf_of_two_le (by simp), render, renderAll_concat]

end Node

/-! ## Printing readers -/

namespace Reader

/-- An open span: its delimiter and what has been read of its contents. -/
def renderSpan (s : OpenSpan) : Text := s.kind.delimiter :: s.contents.render

/-- What is in progress; open spans are printed from the outside in. -/
def renderReading : Reading → Text
  | .plain => []
  | .operator direction => [sign direction]
  | .target op name => op.symbol ++ name
  | .quoted top below => (top :: below).reverse.flatMap renderSpan

/-- The quotes that are open, innermost first. -/
def openQuotes : Reading → List Quote
  | .quoted top below => top.kind :: below.map OpenSpan.kind
  | _ => []

/-- Whether spaces and tabs are skipped. -/
def skips : Reading → Bool
  | .operator _ => true
  | .target _ name => name.isEmpty
  | _ => false

/-- What has been read. -/
def render (r : Reader) : Text :=
  Node.renderEach ';' r.members ++ Node.renderEach '|' (r.stages.map .call) ++
    r.parts.flatMap Part.render ++ renderReading r.reading

/-- What has been read, and behind it the rest of the text, tidied. -/
def printed (r : Reader) (rest : Text) : Text :=
  r.render ++ Text.tidyFrom (openQuotes r.reading) (skips r.reading) rest

/-- A character that is not special stays where it is, and a line break becomes a space. -/
lemma tidyFrom_of_isSpecial {c : Char} (hc : isSpecial c = false) (skipping : Bool)
    (hblank : skipping = true → isBlank c = false) (rest : Text) :
    Text.tidyFrom [] skipping (c :: rest) = unbreak c :: Text.tidyFrom [] false rest := by
  have hnest : Quote.nest [] c = [] := by simp [Quote.nest, Quote.ofChar?_eq_none hc]
  have hsign : (c == '<' || c == '>') = false := by
    simp only [isSpecial, Bool.or_eq_false_iff, decide_eq_false_iff_not] at hc
    simp [hc]
  have hkept : ¬ (skipping = true ∧ (c = ' ' ∨ c = '\t')) := by
    rintro ⟨hskipping, hc⟩
    rw [isBlank_of_space_or_tab hc] at hblank
    cases hblank hskipping
  simp [Text.tidyFrom, hkept, hnest, hsign, unbreak]

lemma unbreak_of_isBlank {c : Char} (h : isBlank c = false) : unbreak c = c := by
  refine if_neg ?_
  rintro (rfl | rfl) <;> exact absurd h (by decide)

/-- In the plain state a character is printed as it is, line breaks apart. -/
lemma printed_plainStep {r r' : Reader} {c : Char} (hs : PlainStep r c r')
    (hr : r.reading = .plain) (rest : Text) : r'.printed rest = r.printed (c :: rest) := by
  cases hs with
  | close hnode =>
      have hrender := Node.render_of_pipelineOf hnode
      rw [Node.render_call] at hrender
      have htidy : Text.tidyFrom [] false (';' :: rest) = ';' :: Text.tidyFrom [] false rest := rfl
      simp [printed, render, hr, renderReading, openQuotes, skips, htidy, Node.renderEach, hrender]
  | bar =>
      have htidy : Text.tidyFrom [] false ('|' :: rest) = '|' :: Text.tidyFrom [] false rest := rfl
      simp [printed, render, hr, renderReading, openQuotes, skips, htidy, Node.renderEach,
        Node.render_call]
  | sign d =>
      have htidy : Text.tidyFrom [] false (Reader.sign d :: rest)
          = Reader.sign d :: Text.tidyFrom [] true rest := by cases d <;> rfl
      simp [printed, render, hr, renderReading, openQuotes, skips, htidy]
  | quote k =>
      have htidy : Text.tidyFrom [] false (k.delimiter :: rest)
          = k.delimiter :: Text.tidyFrom [k] false rest := by cases k <;> rfl
      simp [printed, render, hr, renderReading, renderSpan, Quotation.render, openQuotes, skips,
        htidy]
  | literal hc =>
      have htidy := tidyFrom_of_isSpecial hc false (by simp) rest
      simp [printed, render, hr, renderReading, openQuotes, skips, htidy, render_pushLiteral]

/-- A target in progress prints as its operator and its name. -/
lemma renderReading_of_targetOf {reading : Reading} {op : Operator} {name : Text}
    (h : targetOf reading = some (op, name)) :
    renderReading reading = op.symbol ++ name ∧ openQuotes reading = [] ∧
      skips reading = name.isEmpty := by
  cases reading with
  | operator d => cases h; cases d <;> exact ⟨rfl, rfl, rfl⟩
  | target op name => cases h; exact ⟨rfl, rfl, rfl⟩
  | plain => cases h
  | quoted _ _ => cases h

/-- **Nothing is lost.**  A transition moves the character from the rest of the text to what has
    been read, and tidies it on the way. -/
lemma printed_advance {r r' : Reader} {c : Char} (ha : Advance r c r') (rest : Text) :
    r'.printed rest = r.printed (c :: rest) := by
  cases ha with
  | plain hr hs => exact printed_plainStep hs hr rest
  | @double d hr =>
      have htidy : Text.tidyFrom [] true (Reader.sign d :: rest)
          = Reader.sign d :: Text.tidyFrom [] true rest := by cases d <;> rfl
      have hsymbol : (doubled d).symbol = [Reader.sign d, Reader.sign d] := by cases d <;> rfl
      simp [printed, render, hr, renderReading, openQuotes, skips, htidy, hsymbol]
  | @skip op c ht hc =>
      obtain ⟨hrender, hquotes, hskips⟩ := renderReading_of_targetOf ht
      obtain ⟨hrender', hquotes', hskips'⟩ :=
        renderReading_of_targetOf (show targetOf (.target op []) = some (op, []) from rfl)
      have htidy : Text.tidyFrom [] true (c :: rest) = Text.tidyFrom [] true rest := by
        simp [Text.tidyFrom, hc]
      simp [printed, render, hrender, hquotes, hskips, hrender', hquotes', hskips', htidy]
  | @name op name c ht hb hs =>
      obtain ⟨hrender, hquotes, _⟩ := renderReading_of_targetOf ht
      obtain ⟨hrender', hquotes', hskips'⟩ := renderReading_of_targetOf
        (show targetOf (.target op (name ++ [c])) = some (op, name ++ [c]) from rfl)
      have htidy : ∀ skipping, Text.tidyFrom [] skipping (c :: rest)
          = c :: Text.tidyFrom [] false rest := by
        intro skipping
        rw [tidyFrom_of_isSpecial hs skipping (fun _ => hb) rest, unbreak_of_isBlank hb]
      have hnonempty : (name ++ [c]).isEmpty = false := by simp
      simp only [printed, render, hrender, hquotes, htidy, hrender', hquotes', hskips', hnonempty,
        List.append_assoc, List.singleton_append]
  | @endTarget op name c r' hr hn hc hs =>
      -- ending a target prints nothing, and the character is then taken in the plain state
      have hsame : Reader.printed
          { r with parts := r.parts ++ [.redirect op name], reading := .plain } (c :: rest)
            = r.printed (c :: rest) := by
        have hskips : name.isEmpty = false := by simpa using hn
        simp [printed, render, hr, renderReading, openQuotes, skips, Part.render, hskips]
      rw [printed_plainStep hs rfl rest, hsame]
  | @closeOuter top hr =>
      have htidy : Text.tidyFrom [top.kind] false (top.kind.delimiter :: rest)
          = top.kind.delimiter :: Text.tidyFrom [] false rest := by
        simp [Text.tidyFrom, Quote.nest]
      simp [printed, render, hr, renderReading, renderSpan, openQuotes, skips, Part.render, htidy]
  | @closeInner top next below hr =>
      have htidy : Text.tidyFrom (top.kind :: next.kind :: below.map OpenSpan.kind) false
          (top.kind.delimiter :: rest)
          = top.kind.delimiter ::
            Text.tidyFrom (next.kind :: below.map OpenSpan.kind) false rest := by
        simp [Text.tidyFrom, Quote.nest]
      simp [printed, render, hr, renderReading, renderSpan, openQuotes, skips, Part.render, htidy,
        Quotation.render_pushSpan]
  | @openInner top below k hr hk =>
      have htidy : Text.tidyFrom (top.kind :: below.map OpenSpan.kind) false (k.delimiter :: rest)
          = k.delimiter :: Text.tidyFrom (k :: top.kind :: below.map OpenSpan.kind) false rest := by
        simp [Text.tidyFrom, Quote.nest, hk]
      simp [printed, render, hr, renderReading, renderSpan, Quotation.render, openQuotes, skips,
        htidy]
  | @text top below c hr hc =>
      have htidy : Text.tidyFrom (top.kind :: below.map OpenSpan.kind) false (c :: rest)
          = c :: Text.tidyFrom (top.kind :: below.map OpenSpan.kind) false rest := by
        simp [Text.tidyFrom, Quote.nest, hc]
      simp [printed, render, hr, renderReading, renderSpan, openQuotes, skips, htidy,
        Quotation.render_pushChar]

/-- Hence a run moves its whole text. -/
lemma printed_run (rest : Text) : ∀ {text : Text} {r r' : Reader},
    text.foldlM step r = .ok r' → r'.printed rest = r.printed (text ++ rest)
  | [], r, r', h => by cases h; rfl
  | c :: cs, r, r', h => by
      obtain ⟨s, hs, h⟩ := foldlM_step_cons.mp h
      obtain ⟨s', ha, rfl⟩ := step_eq_ok_iff.mp hs
      rw [printed_run rest h]
      exact printed_advance ha (cs ++ rest)

/-- Ending what is in progress prints nothing. -/
lemma render_settle {r s : Reader} (h : r.settle = .ok s) : s.render = r.render := by
  rcases settle_eq_ok_iff.mp h with ⟨_, rfl⟩ | ⟨op, name, hr, _, rfl⟩
  · rfl
  · simp [render, hr, renderReading, Part.render]

/-- **What a line has been read into prints as the tidied line.** -/
lemma Reads.render_eq {line : Text} {s : Reader} (h : Reads {} line s) :
    s.render = Text.tidy line := by
  obtain ⟨r, hr, hs⟩ := h
  have hrun := printed_run [] hr
  simp only [List.append_nil] at hrun
  rw [render_settle hs]
  simpa [printed, Text.tidyFrom, Text.tidy, render, Node.renderEach, renderReading, openQuotes,
    skips] using hrun

end Reader

/-- **A node that has been read prints as the tidied line.** -/
theorem Node.render_of_parse {line : Text} {node : Node} (h : Node.parse line = .ok node) :
    node.render = Text.tidy line := by
  obtain ⟨_, s, last, hs, hlast, rfl⟩ := Node.parse_eq_ok_iff.mp h
  rw [Node.render_lineOf, Node.render_of_pipelineOf hlast, Node.render_call, ← hs.render_eq]
  simp [Reader.render, hs.reading_eq, Reader.renderReading]

end LineShell
