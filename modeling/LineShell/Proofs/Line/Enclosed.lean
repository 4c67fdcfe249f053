import LineShell.Proofs.Line.Language
import Mathlib.Tactic.Common

/-!
# Texts between quotes

Any text whose quotes are closed can be put between delimiters of a kind that it does not hold,
and is then read as one span, character by character.

**Inside a span.**  A reader inside quotes takes every character as it is, and only the delimiter
of the outermost span leaves it (`Reader.exists_step_within`, `Reader.exists_run_within`).  The
quotes that open and close on the way are those that the text opens and closes by itself
(`Quote.nest_concat`).

**Quotations of a text.**  Hence a closed text is the source of some contents
(`Quotation.exists_render`).  A line is closed, and so is a text without delimiters.
-/

namespace LineShell

/-! ## Open quotes -/

namespace Quote

/-- The text between the delimiters of a kind. -/
def enclose (kind : Quote) (text : Text) : Text := kind.delimiter :: (text ++ [kind.delimiter])

/-- What is open below does not matter, as long as it is not closed. -/
lemma nest_concat {kind : Quote} {c : Char} (hc : c ≠ kind.delimiter) (stack : List Quote) :
    nest (stack ++ [kind]) c = nest stack c ++ [kind] := by
  cases hof : ofChar? c with
  | none => simp [nest, hof]
  | some k =>
      cases stack with
      | nil =>
          have hk : k ≠ kind := by
            rintro rfl
            exact hc (ofChar?_eq_some_iff.mp hof)
          simp [nest, hof, hk]
      | cons top below =>
          simp only [nest, hof, List.cons_append]
          split_ifs <;> rfl

/-- Without delimiters, nothing is opened and nothing closed. -/
lemma foldl_nest_of_forall {text : Text} (h : ∀ kind : Quote, kind.delimiter ∉ text)
    (stack : List Quote) : text.foldl nest stack = stack := by
  induction text with
  | nil => rfl
  | cons c cs ih =>
      have hc : ofChar? c = none := by
        rw [Option.eq_none_iff_forall_ne_some]
        rintro k hk
        exact h k (by simp [ofChar?_eq_some_iff.mp hk])
      have hcs : ∀ kind : Quote, kind.delimiter ∉ cs := fun kind hk => h kind (by simp [hk])
      have hnest : nest stack c = stack := by simp [nest, hc]
      rw [List.foldl_cons, hnest, ih hcs]

end Quote

/-- The quotes of a line are closed. -/
lemma Node.closed_of_parse {line : Text} {node : Node} (h : parse line = .ok node) :
    line.foldl Quote.nest [] = [] := by
  obtain ⟨_, s, last, hs, hlast, _⟩ := parse_eq_ok_iff.mp h
  exact (Reader.accepts_iff.mpr ⟨s, last, hs, hlast⟩).closed

/-! ## Inside a span -/

namespace Reader

variable {r : Reader} {kind : Quote} {stack : List Quote}

/-- **A character inside quotes is kept as it is**, unless it is the delimiter of the outermost
    span. -/
lemma exists_step_within {c : Char} (hr : openQuotes r.reading = stack ++ [kind])
    (hc : c ≠ kind.delimiter) :
    ∃ r', r.step c = .ok r' ∧ openQuotes r'.reading = Quote.nest stack c ++ [kind] ∧
      renderReading r'.reading = renderReading r.reading ++ [c] := by
  rw [← Quote.nest_concat hc, ← hr]
  cases hread : r.reading with
  | quoted top below =>
      cases hof : Quote.ofChar? c with
      | none =>
          refine ⟨_, step_of_advance (.text hread hof), ?_, ?_⟩
          · simp [openQuotes, Quote.nest, hof]
          · simp [renderReading, renderSpan, Quotation.render_pushChar]
      | some k =>
          obtain rfl := Quote.ofChar?_eq_some_iff.mp hof
          by_cases hk : k = top.kind
          · subst hk
            cases below with
            | nil =>
                -- the innermost span would be the outermost one, and this is its delimiter
                have hlast := congrArg List.getLast? hr
                obtain rfl : top.kind = kind := by simpa [hread, openQuotes] using hlast
                exact absurd rfl hc
            | cons next rest =>
                refine ⟨_, step_of_advance (.closeInner hread), ?_, ?_⟩
                · simp [openQuotes, Quote.nest]
                · simp [renderReading, renderSpan, Quotation.render_pushSpan, Part.render]
          · refine ⟨_, step_of_advance (.openInner hread hk), ?_, ?_⟩
            · simp [openQuotes, Quote.nest, hk]
            · simp [renderReading, renderSpan, Quotation.render]
  | _ =>
      rw [hread] at hr
      simp [openQuotes] at hr

/-- Hence a text without that delimiter is kept as it is. -/
lemma exists_run_within : ∀ {text : Text} {r : Reader} {stack : List Quote},
    kind.delimiter ∉ text → openQuotes r.reading = stack ++ [kind] →
    ∃ r', text.foldlM step r = .ok r' ∧
      openQuotes r'.reading = text.foldl Quote.nest stack ++ [kind] ∧
      renderReading r'.reading = renderReading r.reading ++ text
  | [], r, stack, _, hr => ⟨r, rfl, hr, by simp⟩
  | c :: cs, r, stack, htext, hr => by
      have hc : c ≠ kind.delimiter := fun h => htext (by simp [h])
      have hcs : kind.delimiter ∉ cs := fun h => htext (by simp [h])
      obtain ⟨s, hstep, hs, hsrender⟩ := exists_step_within hr hc
      obtain ⟨r', hrun, hr', hrender⟩ := exists_run_within hcs hs
      refine ⟨r', foldlM_step_cons.mpr ⟨s, hstep, hrun⟩, hr', ?_⟩
      rw [hrender, hsrender, List.append_assoc, List.singleton_append]

end Reader

/-! ## Quotations of a text -/

/-- **A closed text can be quoted** by every kind whose delimiter it does not hold. -/
lemma Quotation.exists_render {kind : Quote} {text : Text} (hclosed : text.foldl Quote.nest [] = [])
    (htext : kind.delimiter ∉ text) : ∃ q : Quotation, q.Canonical kind ∧ q.render = text := by
  -- what a reader holds that has opened the span and read the text
  let start : Reader := { reading := .quoted ⟨kind, 1, .done⟩ [] }
  have hstart : start.Canonical :=
    Reader.canonical_empty.toBuilt.canonical_quoted (by simp [Canonical]) (by simp)
  have hopen : Reader.openQuotes start.reading = [] ++ [kind] := rfl
  obtain ⟨r, hrun, hquotes, hrender⟩ := Reader.exists_run_within htext hopen
  have hr := hstart.run hrun
  rw [hclosed, List.nil_append] at hquotes
  cases hread : r.reading with
  | quoted top below =>
      rw [hread] at hquotes hrender
      obtain ⟨rfl, hbelow⟩ : top.kind = kind ∧ below = [] := by
        simpa [Reader.openQuotes] using hquotes
      refine ⟨top.contents, hr.spans top (by simp [hread, Reader.spansOf]), ?_⟩
      simpa [start, hbelow, Reader.renderReading, Reader.renderSpan, render] using hrender
  | _ =>
      rw [hread] at hquotes
      simp [Reader.openQuotes] at hquotes

/-- A literal and a quoted text behind it are read as just that. -/
lemma Node.parse_literal_enclosed {run : Text} {kind : Quote} {q : Quotation}
    (hrun : (Part.literal run).Canonical) (hq : q.Canonical kind) :
    parse (run ++ kind.enclose q.render) = .ok (.call [.literal run, .quoted kind q]) := by
  have hcan : (call [.literal run, .quoted kind q]).Canonical := by
    refine ⟨⟨?_, by simp [Part.Follows]⟩, by simp [Part.isBlank]⟩
    intro p hp
    rcases List.mem_pair.mp hp with rfl | rfl
    · exact hrun
    · exact hq
  have hrender : (call [.literal run, .quoted kind q]).render = run ++ kind.enclose q.render := by
    simp [render, Part.render, Quote.enclose]
  rw [← hrender]
  exact parse_render hcan

end LineShell
