import LineShell.Completion.Basic
import LineShell.Proofs.Text.Utf8
import Mathlib.Data.List.Induction
import Mathlib.Tactic.Common

/-!
# Where the word that is completed starts

**Flat quotes.**  `openQuote` is the quote that is open behind a text when quotes do not nest: a
single or double quote opens a span, and the next of its kind closes it.  A blank is outside quotes
when none is open before it.

**The cut.**  `Typed.Cuts` says where a line is cut: behind a blank outside quotes or at its start,
with every quote closed, and no such blank follows.  Each character keeps this (`Typed.Cuts.add`),
so it holds of every line (`Typed.cuts_ofLine`).  The cut is between two characters, so the bytes on
either side of it are whole characters, and what is put in place of the word leaves the earlier
words as they are: `pieces` are the words of a line with their places.

**The word.**  A text without quotes, backslashes and blanks is one word, unless it is empty or a
comment (`splitWords?_of_plain`), and in any case it is completed as it stands.
-/

namespace LineShell.Completion

/-! ## Flat quotes -/

/-- The open quote after one more character. -/
def nextQuote (quote : Option Char) (c : Char) : Option Char :=
  match quote with
  | some q => if c = q then none else some q
  | none => if c = '"' ∨ c = '\'' then some c else none

/-- The quote that is open behind a text. -/
def openQuote (text : Text) : Option Char := text.foldl nextQuote none

lemma openQuote_concat (text : Text) (c : Char) :
    openQuote (text ++ [c]) = nextQuote (openQuote text) c := by
  rw [openQuote, List.foldl_append]
  rfl

lemma openQuote_append {before : Text} (h : openQuote before = none) (text : Text) :
    openQuote (before ++ text) = openQuote text := by
  rw [openQuote] at h
  rw [openQuote, List.foldl_append, h, openQuote]

lemma nextQuote_of_ne {c : Char} (h : ¬ (c = '"' ∨ c = '\'')) : nextQuote none c = none := by
  simp [nextQuote, h]

lemma openQuote_of_forall {text : Text} (h : ∀ c ∈ text, ¬ (c = '"' ∨ c = '\'')) :
    openQuote text = none := by
  induction text with
  | nil => rfl
  | cons c cs ih =>
      obtain ⟨hc, hcs⟩ := List.forall_mem_cons.mp h
      rw [openQuote, List.foldl_cons, nextQuote_of_ne hc]
      exact ih hcs

lemma not_quote_of_isBlank {c : Char} (h : isBlank c = true) : ¬ (c = '"' ∨ c = '\'') := by
  rintro (rfl | rfl)
  · cases h
  · cases h

/-! ## The cut -/

namespace Typed

/-- A line is cut where its last word starts. -/
structure Cuts (t : Typed) (line : Text) : Prop where
  whole : line = t.before ++ t.raw
  quote : t.quote = openQuote line
  /-- Every quote before the word is closed. -/
  closed : openQuote t.before = none
  /-- The word stands at the start of the line or behind a blank outside quotes. -/
  starts : t.before = [] ∨
    ∃ front blank, t.before = front ++ [blank] ∧ isBlank blank = true ∧ openQuote front = none
  /-- No blank of the word is outside quotes. -/
  solid : ∀ front c rest, t.raw = front ++ c :: rest → isBlank c = true →
    openQuote (t.before ++ front) ≠ none

lemma cuts_nil : Cuts {} [] where
  whole := rfl
  quote := rfl
  closed := rfl
  starts := Or.inl rfl
  solid := by simp

variable {t : Typed} {line : Text} {c : Char}

/-- A character that is no blank outside quotes belongs to the word. -/
lemma Cuts.extend (h : t.Cuts line) (hc : isBlank c = true → t.quote ≠ none) :
    Cuts { t with raw := t.raw ++ [c], quote := nextQuote t.quote c } (line ++ [c]) where
  whole := by rw [h.whole, List.append_assoc]
  quote := by rw [openQuote_concat, h.quote]
  closed := h.closed
  starts := h.starts
  solid := by
    intro front d rest heq hd
    rcases List.eq_nil_or_concat rest with rfl | ⟨rest, e, rfl⟩
    · obtain ⟨rfl, hlast⟩ := List.append_inj' heq rfl
      obtain rfl : c = d := by simpa using hlast
      rw [← h.whole, ← h.quote]
      exact hc hd
    · refine h.solid front d rest ?_ hd
      have hcut : t.raw ++ [c] = (front ++ d :: rest) ++ [e] := by simpa using heq
      exact (List.append_inj' hcut rfl).1

/-- A blank outside quotes ends the word. -/
lemma Cuts.finish (h : t.Cuts line) (hquote : t.quote = none) (hc : isBlank c = true) :
    Cuts ⟨t.before ++ t.raw ++ [c], [], none⟩ (line ++ [c]) := by
  have hline : openQuote line = none := by rw [← h.quote, hquote]
  have hclosed : openQuote (line ++ [c]) = none := by
    rw [openQuote_concat, hline, nextQuote_of_ne (not_quote_of_isBlank hc)]
  rw [← h.whole]
  exact ⟨by simp, hclosed.symm, hclosed, Or.inr ⟨line, c, rfl, hc, hline⟩, by simp⟩

/-- **Every character keeps the cut.** -/
lemma Cuts.add (h : t.Cuts line) (c : Char) : (t.add c).Cuts (line ++ [c]) := by
  rw [Typed.add]
  split
  · next q hq =>
      have hadd := h.extend (c := c) (by simp [hq])
      rw [hq] at hadd
      exact hadd
  · next hq =>
      split_ifs with hopens hblank
      · have hadd := h.extend (c := c) (fun hc => absurd hopens (not_quote_of_isBlank hc))
        rw [hq, nextQuote, if_pos hopens] at hadd
        exact hadd
      · exact h.finish hq hblank
      · have hadd := h.extend (c := c) (fun hc => absurd hc hblank)
        rw [hq, nextQuote_of_ne hopens] at hadd
        rw [hq]
        exact hadd

/-- **Every line is cut where its last word starts.** -/
lemma cuts_ofLine (line : Text) : (ofLine line).Cuts line := by
  induction line using List.reverseRecOn with
  | nil => exact cuts_nil
  | append_singleton line c ih =>
      rw [ofLine, List.foldl_append]
      exact ih.add c

/-! ### Bytes -/

lemma Cuts.take_encode (h : t.Cuts line) :
    (Utf8.encode line).take t.offset = Utf8.encode t.before := by
  rw [h.whole, Utf8.encode_append, offset, ← Utf8.length_encode, List.take_left]

lemma Cuts.drop_encode (h : t.Cuts line) :
    (Utf8.encode line).drop t.offset = Utf8.encode t.raw := by
  rw [h.whole, Utf8.encode_append, offset, ← Utf8.length_encode, List.drop_left]

lemma Cuts.offset_le (h : t.Cuts line) : t.offset ≤ (Utf8.encode line).length := by
  rw [Utf8.length_encode, h.whole, Utf8.size_append, offset]
  exact Nat.le_add_right _ _

end Typed

/-! ### Earlier words -/

/-- The pieces of a text between the blanks outside quotes, where `quote` is open before it. -/
def pieces (quote : Option Char) : Text → List Text
  | [] => [[]]
  | c :: cs =>
    if quote = none ∧ isBlank c = true then [] :: pieces none cs
    else (pieces (nextQuote quote c) cs).modifyHead (c :: ·)

lemma pieces_ne_nil (quote : Option Char) (text : Text) : pieces quote text ≠ [] := by
  induction text generalizing quote with
  | nil => simp [pieces]
  | cons c cs ih =>
      rw [pieces]
      split_ifs
      · simp
      · obtain ⟨p, ps, hp⟩ := List.exists_cons_of_ne_nil (ih (nextQuote quote c))
        simp [hp]

/-- A blank outside quotes parts what stands before it from what stands behind it. -/
lemma pieces_append {front : Text} {blank : Char} (hblank : isBlank blank = true) (text : Text) :
    ∀ {quote : Option Char}, front.foldl nextQuote quote = none →
      pieces quote (front ++ blank :: text) = pieces quote front ++ pieces none text := by
  induction front with
  | nil =>
      intro quote h
      obtain rfl : quote = none := h
      simp [pieces, hblank]
  | cons c cs ih =>
      intro quote h
      rw [List.foldl_cons] at h
      rw [List.cons_append, pieces, pieces]
      split_ifs with hc
      · obtain ⟨rfl, hc⟩ := hc
        rw [nextQuote_of_ne (not_quote_of_isBlank hc)] at h
        rw [ih h, List.cons_append]
      · obtain ⟨p, ps, hp⟩ := List.exists_cons_of_ne_nil (pieces_ne_nil (nextQuote quote c) cs)
        rw [ih h, hp]
        rfl

/-- A text without a blank outside quotes is one piece. -/
lemma pieces_of_solid {text : Text} : ∀ {quote : Option Char},
    (∀ front c rest, text = front ++ c :: rest → isBlank c = true →
      front.foldl nextQuote quote ≠ none) → pieces quote text = [text] := by
  induction text with
  | nil => intros; rfl
  | cons c cs ih =>
      intro quote h
      have hc : ¬ (quote = none ∧ isBlank c = true) := fun hc => h [] c cs rfl hc.2 hc.1
      rw [pieces, if_neg hc, ih]
      · rfl
      · intro front d rest heq hd
        have hfront := h (c :: front) d rest (by rw [heq]; rfl) hd
        rwa [List.foldl_cons] at hfront

/-- **Replacing the word leaves the earlier ones as they are.** -/
lemma Typed.Cuts.exists_earlier {t : Typed} {line : Text} (h : t.Cuts line) :
    ∃ earlier, pieces none line = earlier ++ [t.raw] ∧
      ∀ word, pieces none (t.before ++ word) = earlier ++ pieces none word := by
  have hraw : pieces none t.raw = [t.raw] := by
    refine pieces_of_solid ?_
    intro front c rest heq hc
    have hsolid := h.solid front c rest heq hc
    rwa [openQuote_append h.closed] at hsolid
  have hearlier : ∃ earlier, ∀ word,
      pieces none (t.before ++ word) = earlier ++ pieces none word := by
    rcases h.starts with hnil | ⟨front, blank, hbefore, hblank, hfront⟩
    · exact ⟨[], by simp [hnil]⟩
    · refine ⟨pieces none front, fun word => ?_⟩
      rw [hbefore, List.append_assoc, List.singleton_append]
      exact pieces_append hblank word hfront
  obtain ⟨earlier, hpieces⟩ := hearlier
  exact ⟨earlier, by rw [h.whole, hpieces, hraw], hpieces⟩

/-! ## The word -/

/-- Neither a quote nor a backslash. -/
def IsPlain (c : Char) : Prop := c ≠ '"' ∧ c ≠ '\'' ∧ c ≠ '\\'

lemma isGap_of_isBlank {c : Char} (h : isBlank c = false) : isGap c = false := by
  by_contra hgap
  simp only [isGap, Bool.not_eq_false, Bool.or_eq_true, decide_eq_true_eq] at hgap
  rcases hgap with (rfl | rfl) | rfl
  · cases h
  · cases h
  · cases h

lemma wordStep_of_isPlain {c : Char} (h : IsPlain c) : wordStep c = (.word, [c]) := by
  simp [wordStep, h.1, h.2.1, h.2.2]

lemma splitFrom_word {text : Text} (hplain : ∀ c ∈ text, IsPlain c)
    (hsolid : ∀ c ∈ text, isBlank c = false) (done : List Text) (current : Text) :
    splitFrom .word done current text = some (done ++ [current ++ text]) := by
  induction text generalizing current with
  | nil => simp [splitFrom]
  | cons c cs ih =>
      obtain ⟨hc, hcs⟩ := List.forall_mem_cons.mp hplain
      obtain ⟨hb, hbs⟩ := List.forall_mem_cons.mp hsolid
      simp only [splitFrom, isGap_of_isBlank hb, wordStep_of_isPlain hc]
      simpa using ih hcs hbs (current ++ [c])

lemma splitFrom_comment {text : Text} (hsolid : ∀ c ∈ text, isBlank c = false)
    (done : List Text) (current : Text) : splitFrom .comment done current text = some done := by
  induction text generalizing current with
  | nil => rfl
  | cons c cs ih =>
      obtain ⟨hb, hbs⟩ := List.forall_mem_cons.mp hsolid
      have hc : c ≠ '\n' := by
        rintro rfl
        cases hb
      simp only [splitFrom, if_neg hc]
      exact ih hbs []

/-- **A text without quotes, backslashes and blanks is one word**, unless it is empty or a
    comment. -/
lemma splitWords?_of_plain {text : Text} (hplain : ∀ c ∈ text, IsPlain c)
    (hsolid : ∀ c ∈ text, isBlank c = false) :
    splitWords? text = some (if text = [] ∨ text.head? = some '#' then [] else [text]) := by
  cases text with
  | nil => rfl
  | cons c cs =>
      obtain ⟨hc, hcs⟩ := List.forall_mem_cons.mp hplain
      obtain ⟨hb, hbs⟩ := List.forall_mem_cons.mp hsolid
      simp only [splitWords?, splitFrom, isGap_of_isBlank hb, wordStep_of_isPlain hc]
      by_cases hcomment : c = '#'
      · simp [hcomment, splitFrom_comment hbs]
      · simp [hcomment, splitFrom_word hcs hbs]

/-- A plain word is completed as it stands. -/
lemma Typed.Cuts.word_of_plain {t : Typed} {line : Text} (h : t.Cuts line)
    (hplain : ∀ c ∈ t.raw, IsPlain c) : t.word = t.raw := by
  have hquotes : ∀ c ∈ t.raw, ¬ (c = '"' ∨ c = '\'') := by
    rintro c hc (rfl | rfl)
    · exact (hplain _ hc).1 rfl
    · exact (hplain _ hc).2.1 rfl
  have hsolid : ∀ c ∈ t.raw, isBlank c = false := by
    intro c hc
    obtain ⟨front, rest, hraw⟩ := List.append_of_mem hc
    by_contra hblank
    refine h.solid front c rest hraw (by simpa using hblank) ?_
    rw [openQuote_append h.closed]
    refine openQuote_of_forall fun d hd => hquotes d ?_
    rw [hraw]
    exact List.mem_append_left _ hd
  have hkept : (t.raw.dropWhile fun c => c = '"' || c = '\'') = t.raw := by
    cases hraw : t.raw with
    | nil => rfl
    | cons c cs =>
        have hc := hquotes c (by simp [hraw])
        rw [List.dropWhile_cons_of_neg (by simpa using hc)]
  rw [word, splitWords?_of_plain hplain hsolid]
  split_ifs
  · exact hkept
  · rfl

/-- **The word that is completed.**  A line is cut at its last word, so many bytes from its start
    that whole characters are on either side.  Whatever is put in place of the word leaves the bytes
    before it and the earlier words as they are, and a word without quotes and backslashes is
    completed as it stands. -/
theorem Typed.ofLine_cuts_word (line : Text) :
    (ofLine line).Cuts line ∧
      (ofLine line).offset ≤ (Utf8.encode line).length ∧
      (Utf8.encode line).drop (ofLine line).offset = Utf8.encode (ofLine line).raw ∧
      (∀ word, (Utf8.encode line).take (ofLine line).offset ++ Utf8.encode word =
        Utf8.encode ((ofLine line).before ++ word)) ∧
      (∃ earlier, pieces none line = earlier ++ [(ofLine line).raw] ∧
        ∀ word, pieces none ((ofLine line).before ++ word) = earlier ++ pieces none word) ∧
      ((∀ c ∈ (ofLine line).raw, IsPlain c) → (ofLine line).word = (ofLine line).raw) := by
  have h := cuts_ofLine line
  refine ⟨h, h.offset_le, h.drop_encode, ?_, h.exists_earlier, h.word_of_plain⟩
  intro word
  rw [h.take_encode, Utf8.encode_append]

/-- Behind a blank of three bytes, and behind a quoted one. -/
theorem Typed.ofLine_cuts_word_wide :
    (ofLine "cat 'é x'\u3000#y".toList).offset = 13 ∧
      (∀ c ∈ "#y".toList, IsPlain c) ∧
      (ofLine "cat 'é x'\u3000#y".toList).word = "#y".toList := by
  have hplain : ∀ c ∈ "#y".toList, IsPlain c := by simp [IsPlain]
  exact ⟨rfl, hplain, (ofLine_cuts_word "cat 'é x'\u3000#y".toList).2.2.2.2.2 hplain⟩

end LineShell.Completion
