import LineShell.Text.Basic
import Mathlib.Data.List.Chain
import Mathlib.Data.List.DropRight
import Mathlib.Tactic.Common

/-!
# Blanks

**Trimming.**  What is trimmed has no blank at either end (`Text.trimmed_trim`), and a part of a
text that is trimmed itself is not cut into (`Text.infix_trim`).

**Words.**  The words of a text are settled by where its blanks are, not by how many there are in a
row: trimming and collapsing keep them.  A text that is trimmed and collapsed is its words with one
space between neighbours (`Text.collapseBlanks_of_trimmed`).

**Blanks in a row.**  Collapsing leaves no two of them side by side.  Texts that are put one behind
the other may have two where they meet, and trimming the whole removes those at its ends only
(`Text.isChain_trim_iff`).
-/

namespace LineShell

namespace Text

/-! ## Trimming -/

/-- No blank at either end. -/
def Trimmed (s : Text) : Prop :=
  (∀ c ∈ s.head?, isBlank c = false) ∧ ∀ c ∈ s.getLast?, isBlank c = false

lemma head?_dropWhile_isBlank (s : Text) :
    ∀ c ∈ (s.dropWhile isBlank).head?, isBlank c = false := by
  induction s with
  | nil => simp
  | cons c cs ih =>
      cases hc : isBlank c with
      | true => simpa [hc] using ih
      | false => simp [hc]

lemma dropEndWhile_prefix (p : Char → Bool) (s : Text) : dropEndWhile p s <+: s := by
  induction s with
  | nil => exact List.nil_prefix
  | cons c cs ih =>
      rw [dropEndWhile]
      split
      · split_ifs
        · exact List.nil_prefix
        · exact ⟨cs, rfl⟩
      · next d ds h =>
          rw [h] at ih
          exact List.cons_prefix_cons.mpr ⟨rfl, ih⟩

lemma getLast?_dropEndWhile (p : Char → Bool) (s : Text) :
    ∀ c ∈ (dropEndWhile p s).getLast?, p c = false := by
  induction s with
  | nil => simp [dropEndWhile]
  | cons c cs ih =>
      rw [dropEndWhile]
      split
      · split_ifs with hc
        · simp
        · simpa using hc
      · next d ds h =>
          rw [h] at ih
          rw [List.getLast?_cons_cons]
          exact ih

lemma trimmed_trim (s : Text) : Trimmed (trim s) := by
  refine ⟨?_, getLast?_dropEndWhile isBlank _⟩
  intro c hc
  -- cutting at the end keeps the first character
  obtain ⟨rest, hrest⟩ := dropEndWhile_prefix isBlank (trimStart s)
  refine head?_dropWhile_isBlank s c ?_
  rw [← trimStart, ← hrest]
  exact List.mem_head?_append_of_mem_head? hc

lemma mem_of_mem_trim {c : Char} {s : Text} (h : c ∈ trim s) : c ∈ s := by
  have hfront := dropEndWhile_prefix isBlank (trimStart s)
  exact (List.dropWhile_suffix isBlank).subset (hfront.subset h)

lemma dropEndWhile_append {p : Char → Bool} {s : Text} (hne : s ≠ [])
    (hlast : ∀ c ∈ s.getLast?, p c = false) (t : Text) :
    dropEndWhile p (s ++ t) = s ++ dropEndWhile p t := by
  induction s with
  | nil => exact absurd rfl hne
  | cons c cs ih =>
      cases cs with
      | nil =>
          have hc : p c = false := hlast c (by simp)
          rw [List.singleton_append, dropEndWhile]
          split
          · next hnil => simp [hc, hnil]
          · next d ds hcons => simp [hcons]
      | cons d ds =>
          rw [List.getLast?_cons_cons] at hlast
          rw [List.cons_append, dropEndWhile, ih (by simp) hlast]
          simp

lemma dropEndWhile_of_forall {p : Char → Bool} {s : Text} (h : ∀ c ∈ s, p c = true) :
    dropEndWhile p s = [] := by
  induction s with
  | nil => rfl
  | cons c cs ih =>
      obtain ⟨hc, hcs⟩ := List.forall_mem_cons.mp h
      simp [dropEndWhile, ih hcs, hc]

/-- **Trimming around a text that is trimmed itself** is trimming what stands before it at its
    start and what stands behind it at its end. -/
lemma trim_append {t : Text} (hne : t ≠ []) (ht : Trimmed t) (a b : Text) :
    trim (a ++ t ++ b) = trimStart a ++ t ++ trimEnd b := by
  have hhead : (t ++ b).dropWhile isBlank = t ++ b := by
    obtain ⟨c, cs, rfl⟩ := List.exists_cons_of_ne_nil hne
    have hc : isBlank c = false := ht.1 c (by simp)
    simp [hc]
  have hstart : trimStart (a ++ t ++ b) = trimStart a ++ t ++ b := by
    rw [trimStart, List.append_assoc, List.dropWhile_append, hhead]
    split_ifs with hblank
    · simp [trimStart, List.isEmpty_iff.mp hblank]
    · simp [trimStart]
  have hlast : ∀ c ∈ (trimStart a ++ t).getLast?, isBlank c = false := by
    intro c hc
    refine ht.2 c ?_
    rwa [List.getLast?_append_of_ne_nil _ hne] at hc
  rw [trim, hstart, trimEnd, dropEndWhile_append (by simp [hne]) hlast, trimEnd]

/-- Trimming a text cuts nothing off a part of it that is trimmed itself. -/
lemma infix_trim {s t : Text} (hne : t ≠ []) (ht : Trimmed t) (h : t <:+: s) :
    t <:+: trim s := by
  obtain ⟨a, b, rfl⟩ := h
  exact ⟨trimStart a, trimEnd b, (trim_append hne ht a b).symm⟩

/-- Blanks behind a text that does not end in one are trimmed off, and nothing else is. -/
lemma trimEnd_append {s blanks : Text} (hne : s ≠ []) (hlast : ∀ c ∈ s.getLast?, isBlank c = false)
    (hblanks : ∀ c ∈ blanks, isBlank c = true) : trimEnd (s ++ blanks) = s := by
  rw [trimEnd, dropEndWhile_append hne hlast, dropEndWhile_of_forall hblanks, List.append_nil]

/-- Every text is one that does not end in a blank, with blanks behind it. -/
lemma exists_trimEnd (s : Text) :
    ∃ kept blanks : Text, s = kept ++ blanks ∧ (∀ c ∈ kept.getLast?, isBlank c = false) ∧
      ∀ c ∈ blanks, isBlank c = true := by
  refine ⟨s.rdropWhile isBlank, s.rtakeWhile isBlank, ?_, ?_, ?_⟩
  · exact List.rdropWhile_append_rtakeWhile.symm
  · intro c hc
    obtain ⟨hne, rfl⟩ := List.mem_getLast?_eq_getLast hc
    simpa using List.rdropWhile_last_not isBlank s hne
  · intro c hc
    exact List.mem_rtakeWhile_imp hc

/-! ## Words -/

lemma firstWord_cons_of_blank {c : Char} (hc : isBlank c = true) (s : Text) :
    firstWord (c :: s) = ([], words s) := by
  simp [firstWord, words, hc]

lemma firstWord_cons_of_not_blank {c : Char} (hc : isBlank c = false) (s : Text) :
    firstWord (c :: s) = (c :: (firstWord s).1, (firstWord s).2) := by
  simp [firstWord, hc]

lemma words_cons_of_blank {c : Char} (hc : isBlank c = true) (s : Text) :
    words (c :: s) = words s := by
  rw [words, firstWord_cons_of_blank hc]
  rfl

lemma words_cons_of_not_blank {c : Char} (hc : isBlank c = false) (s : Text) :
    words (c :: s) = (c :: (firstWord s).1) :: (firstWord s).2 := by
  rw [words, firstWord_cons_of_not_blank hc]
  rfl

lemma words_congr {s t : Text} (h : firstWord s = firstWord t) : words s = words t := by
  rw [words, words, h]

/-- What stands before a text sees its first word only. -/
lemma firstWord_append_congr {t t' : Text} (h : firstWord t = firstWord t') (s : Text) :
    firstWord (s ++ t) = firstWord (s ++ t') := by
  induction s with
  | nil => exact h
  | cons c cs ih => rw [List.cons_append, List.cons_append, firstWord, firstWord, ih]

lemma words_eq_nil_iff {s : Text} : words s = [] ↔ ∀ c ∈ s, isBlank c = true := by
  induction s with
  | nil => simp [words, firstWord]
  | cons c cs ih =>
      cases hc : isBlank c with
      | true => simp [words_cons_of_blank hc, ih, hc]
      | false => simp [words_cons_of_not_blank hc, hc]

lemma words_trimStart (s : Text) : words (trimStart s) = words s := by
  induction s with
  | nil => rfl
  | cons c cs ih =>
      rw [trimStart] at ih ⊢
      cases hc : isBlank c with
      | true => rw [List.dropWhile_cons_of_pos hc, ih, words_cons_of_blank hc]
      | false => rw [List.dropWhile_cons_of_neg (by simp [hc])]

lemma firstWord_trimEnd (s : Text) : firstWord (trimEnd s) = firstWord s := by
  induction s with
  | nil => rfl
  | cons c cs ih =>
      rw [trimEnd] at ih
      rw [trimEnd, dropEndWhile, firstWord, ← ih]
      split
      · next hnil => cases hc : isBlank c <;> simp [firstWord, hnil, hc]
      · next d ds hcons => rw [firstWord, hcons]

/-- Trimming keeps the words. -/
lemma words_trim (s : Text) : words (trim s) = words s := by
  rw [trim, words_congr (firstWord_trimEnd _), words_trimStart]

/-! ## Collapsing -/

/-- Collapsing keeps the words, also together with what follows. -/
lemma firstWord_collapseFrom_append (s t : Text) :
    firstWord (collapseFrom false s ++ t) = firstWord (s ++ t) ∧
      words (collapseFrom true s ++ t) = words (s ++ t) := by
  induction s with
  | nil => exact ⟨rfl, rfl⟩
  | cons c cs ih =>
      cases hc : isBlank c with
      | true =>
          have hspace : isBlank ' ' = true := rfl
          simp only [collapseFrom, hc, if_true, Bool.false_eq_true, if_false, List.cons_append]
          rw [firstWord_cons_of_blank hspace, firstWord_cons_of_blank hc, words_cons_of_blank hc]
          exact ⟨by rw [ih.2], ih.2⟩
      | false =>
          simp only [collapseFrom, hc, Bool.false_eq_true, if_false, List.cons_append]
          rw [firstWord_cons_of_not_blank hc, firstWord_cons_of_not_blank hc,
            words_cons_of_not_blank hc, words_cons_of_not_blank hc, ih.1]
          exact ⟨rfl, rfl⟩

lemma join_cons (sep s : Text) (rest : List Text) :
    join sep (s :: rest) = s ++ rest.flatMap (sep ++ ·) := by
  induction rest generalizing s with
  | nil => simp [join]
  | cons t rest ih =>
      rw [join, ih t, List.flatMap_cons, List.append_assoc, List.append_assoc]
      simp

/-- Collapsing a text that does not end in a blank: blanks are left between words only, and in
    front of the first one unless they have been written already. -/
lemma collapseFrom_eq_words : ∀ {s : Text}, (∀ c ∈ s.getLast?, isBlank c = false) →
    collapseFrom true s = join [' '] (words s) ∧
      collapseFrom false s = (firstWord s).1 ++ (firstWord s).2.flatMap ([' '] ++ ·)
  | [], _ => ⟨rfl, rfl⟩
  | c :: cs, hlast => by
      have hrest : ∀ d ∈ cs.getLast?, isBlank d = false := by
        intro d hd
        refine hlast d ?_
        rw [List.getLast?_cons, Option.mem_def.mp hd]
        rfl
      obtain ⟨htrue, hfalse⟩ := collapseFrom_eq_words hrest
      cases hc : isBlank c with
      | true =>
          simp only [collapseFrom, hc, if_true, Bool.false_eq_true, if_false]
          rw [words_cons_of_blank hc, firstWord_cons_of_blank hc, htrue]
          refine ⟨rfl, ?_⟩
          -- a blank at the front is followed by a word
          have hne : words cs ≠ [] := by
            intro hnil
            obtain ⟨d, hd⟩ : ∃ d, (c :: cs).getLast? = some d := by simp [List.getLast?_cons]
            have hmem := List.mem_of_getLast? hd
            have hblank := words_eq_nil_iff.mp ((words_cons_of_blank hc cs).trans hnil) d hmem
            rw [hlast d hd] at hblank
            cases hblank
          obtain ⟨w, ws, hwords⟩ := List.exists_cons_of_ne_nil hne
          rw [hwords, join_cons, List.flatMap_cons]
          simp
      | false =>
          simp only [collapseFrom, hc, Bool.false_eq_true, if_false]
          rw [words_cons_of_not_blank hc, firstWord_cons_of_not_blank hc, join_cons, hfalse]
          exact ⟨rfl, rfl⟩

/-- **A trimmed text collapses to its words** with one space between neighbours. -/
lemma collapseBlanks_of_trimmed {s : Text} (h : Trimmed s) :
    collapseBlanks s = join [' '] (words s) := by
  rw [← (collapseFrom_eq_words h.2).1]
  cases s with
  | nil => rfl
  | cons c cs =>
      have hc : isBlank c = false := h.1 c rfl
      simp [collapseBlanks, collapseFrom, hc]

/-! ## Blanks in a row -/

/-- Not both blank. -/
def Apart (c d : Char) : Prop := isBlank c = false ∨ isBlank d = false

instance : DecidableRel Apart := fun _ _ => inferInstanceAs (Decidable (_ ∨ _))

/-- The blanks of a collapsed text are spaces. -/
lemma eq_space_of_mem_collapseFrom {c : Char} {inRun : Bool} {s : Text}
    (h : c ∈ collapseFrom inRun s) (hc : isBlank c = true) : c = ' ' := by
  induction s generalizing inRun with
  | nil => cases h
  | cons d ds ih =>
      rw [collapseFrom] at h
      split_ifs at h with hd hrun
      · exact ih h
      · rcases List.mem_cons.mp h with rfl | h
        · rfl
        · exact ih h
      · rcases List.mem_cons.mp h with rfl | h
        · exact absurd hc hd
        · exact ih h

lemma isChain_collapseFrom (s : Text) :
    (collapseFrom false s).IsChain Apart ∧ (' ' :: collapseFrom true s).IsChain Apart := by
  induction s with
  | nil => exact ⟨.nil, .singleton _⟩
  | cons c cs ih =>
      cases hc : isBlank c with
      | true =>
          simp only [collapseFrom, hc, if_true, Bool.false_eq_true, if_false]
          exact ⟨ih.2, ih.2⟩
      | false =>
          simp only [collapseFrom, hc, Bool.false_eq_true, if_false]
          have hcons : (c :: collapseFrom false cs).IsChain Apart :=
            List.isChain_cons.mpr ⟨fun _ _ => Or.inl hc, ih.1⟩
          exact ⟨hcons, List.isChain_cons_cons.mpr ⟨Or.inr hc, hcons⟩⟩

lemma collapseFrom_of_isChain {s : Text} (hspace : ∀ c ∈ s, isBlank c = true → c = ' ') :
    ∀ {inRun : Bool}, s.IsChain Apart → (inRun = true → ∀ c ∈ s.head?, isBlank c = false) →
      collapseFrom inRun s = s := by
  induction s with
  | nil => intros; rfl
  | cons c cs ih =>
      intro inRun hchain hhead
      obtain ⟨hc, hcs⟩ := List.forall_mem_cons.mp hspace
      obtain ⟨hapart, hrest⟩ := List.isChain_cons.mp hchain
      rw [collapseFrom]
      split_ifs with hblank hrun
      · rw [hhead hrun c rfl] at hblank
        cases hblank
      · rw [hc hblank, ih hcs hrest]
        intro _ d hd
        exact (hapart d hd).resolve_left (by simp [hblank])
      · rw [ih hcs hrest (by simp)]

/-- **A text of words with one space between neighbours** is a trimmed one with no two blanks in a
    row, once its blanks are spaces. -/
lemma eq_join_words_iff {s : Text} (h : Trimmed s) (hspace : ∀ c ∈ s, isBlank c = true → c = ' ') :
    s = join [' '] (words s) ↔ s.IsChain Apart := by
  rw [← collapseBlanks_of_trimmed h]
  constructor
  · intro heq
    rw [heq]
    exact (isChain_collapseFrom s).1
  · intro hchain
    exact (collapseFrom_of_isChain hspace hchain (by simp)).symm

/-! ### Where texts meet -/

/-- Whether the first character is a blank. -/
def startsBlank (s : Text) : Bool := s.head?.any isBlank

/-- Whether the last character is a blank. -/
def endsBlank (s : Text) : Bool := s.getLast?.any isBlank

lemma endsBlank_append (s : Text) {t : Text} (ht : t ≠ []) : endsBlank (s ++ t) = endsBlank t := by
  rw [endsBlank, List.getLast?_append_of_ne_nil s ht, endsBlank]

lemma endsBlank_cons (c : Char) {s : Text} (hs : s ≠ []) : endsBlank (c :: s) = endsBlank s :=
  endsBlank_append [c] hs

lemma isBlankText_collapseFrom (s : Text) (inRun : Bool) :
    isBlankText (collapseFrom inRun s) = isBlankText s := by
  have hspace : isBlank ' ' = true := rfl
  induction s generalizing inRun with
  | nil => rfl
  | cons c cs ih =>
      simp only [isBlankText] at ih
      rw [collapseFrom]
      split_ifs with hc <;> simp [isBlankText, ih, hc, hspace]

lemma startsBlank_collapseBlanks (s : Text) : startsBlank (collapseBlanks s) = startsBlank s := by
  cases s with
  | nil => rfl
  | cons c cs =>
      have hspace : isBlank ' ' = true := rfl
      cases hc : isBlank c <;> simp [startsBlank, collapseBlanks, collapseFrom, hc, hspace]

lemma collapseBlanks_eq_nil_iff {s : Text} : collapseBlanks s = [] ↔ s = [] := by
  cases s with
  | nil => exact Iff.rfl
  | cons c cs => cases hc : isBlank c <;> simp [collapseBlanks, collapseFrom, hc]

lemma endsBlank_collapseFrom (s : Text) :
    endsBlank (collapseFrom false s) = endsBlank s ∧
      endsBlank (' ' :: collapseFrom true s) = endsBlank (' ' :: s) := by
  induction s with
  | nil => exact ⟨rfl, rfl⟩
  | cons c cs ih =>
      cases hc : isBlank c with
      | true =>
          -- the space that stands for the run is a blank as well
          have hrun : endsBlank (' ' :: cs) = endsBlank (c :: cs) := by
            rcases cs with _ | ⟨d, ds⟩
            · exact hc.symm
            · rw [endsBlank_cons ' ' (List.cons_ne_nil d ds),
                endsBlank_cons c (List.cons_ne_nil d ds)]
          simp only [collapseFrom, hc, if_true, Bool.false_eq_true, if_false]
          rw [ih.2, hrun, endsBlank_cons ' ' (List.cons_ne_nil c cs)]
          exact ⟨rfl, rfl⟩
      | false =>
          have hcons : endsBlank (c :: collapseFrom false cs) = endsBlank (c :: cs) := by
            rcases eq_or_ne cs [] with rfl | hne
            · rfl
            · have hkept : collapseFrom false cs ≠ [] := mt collapseBlanks_eq_nil_iff.mp hne
              rw [endsBlank_cons c hkept, ih.1, endsBlank_cons c hne]
          simp only [collapseFrom, hc, Bool.false_eq_true, if_false]
          rw [endsBlank_cons ' ' (List.cons_ne_nil _ _), endsBlank_cons ' ' (List.cons_ne_nil _ _)]
          exact ⟨hcons, hcons⟩

/-- Trimming at the start leaves what follows a text that is not blank, and the end of the text. -/
lemma trimStart_append {s : Text} (hs : isBlankText s = false) (t : Text) :
    trimStart (s ++ t) = trimStart s ++ t ∧ endsBlank (trimStart s) = endsBlank s := by
  have hne : s.dropWhile isBlank ≠ [] := by
    intro hnil
    have hall : isBlankText s = true := List.all_eq_true.mpr (List.dropWhile_eq_nil_iff.mp hnil)
    rw [hall] at hs
    cases hs
  constructor
  · rw [trimStart, List.dropWhile_append, if_neg (by simpa using hne), trimStart]
  · rw [trimStart, ← endsBlank_append (s.takeWhile isBlank) hne, List.takeWhile_append_dropWhile]

/-- Trimming at the end leaves what stands before a text that is not blank, and the start of the
    text. -/
lemma trimEnd_append_of_not_blank (s : Text) {t : Text} (ht : isBlankText t = false) :
    trimEnd (s ++ t) = s ++ trimEnd t ∧ startsBlank (trimEnd t) = startsBlank t := by
  obtain ⟨kept, blanks, rfl, hkept, hblanks⟩ := exists_trimEnd t
  obtain ⟨c, cs, rfl⟩ : ∃ c cs, kept = c :: cs := by
    refine List.exists_cons_of_ne_nil ?_
    rintro rfl
    have hall : isBlankText ([] ++ blanks) = true := List.all_eq_true.mpr hblanks
    rw [hall] at ht
    cases ht
  have hlast : ∀ d ∈ (s ++ c :: cs).getLast?, isBlank d = false := by
    rwa [List.getLast?_append_of_ne_nil s (List.cons_ne_nil c cs)]
  rw [trimEnd_append (List.cons_ne_nil c cs) hkept hblanks, ← List.append_assoc,
    trimEnd_append (by simp) hlast hblanks]
  exact ⟨rfl, rfl⟩

/-- **Two blanks in a row are left by trimming** just where the text can be cut between them and
    neither half is blank. -/
lemma isChain_trim_iff {s : Text} : (trim s).IsChain Apart ↔
    ∀ a b, s = a ++ b → endsBlank a = true → startsBlank b = true →
      isBlankText a = true ∨ isBlankText b = true := by
  constructor
  · rintro hchain a b rfl ha hb
    by_contra hwords
    rw [not_or, Bool.not_eq_true, Bool.not_eq_true] at hwords
    obtain ⟨hstart, hends⟩ := trimStart_append hwords.1 b
    obtain ⟨hend, hstarts⟩ := trimEnd_append_of_not_blank (trimStart a) hwords.2
    rw [trim, hstart, hend] at hchain
    rw [← hends, endsBlank, Option.any_eq_true] at ha
    rw [← hstarts, startsBlank, Option.any_eq_true] at hb
    obtain ⟨c, hc, hcblank⟩ := ha
    obtain ⟨d, hd, hdblank⟩ := hb
    have hapart := (List.isChain_append.mp hchain).2.2 c hc d hd
    simp [Apart, hcblank, hdblank] at hapart
  · intro h
    rw [List.isChain_iff_forall_rel_of_append_cons_cons]
    intro c d x y heq
    by_contra hblanks
    simp only [Apart, not_or, Bool.not_eq_false] at hblanks
    obtain ⟨hhead, hlast⟩ := trimmed_trim s
    rw [heq] at hhead hlast
    -- the text is cut between the two, with what was trimmed off put back
    obtain ⟨tail, htail⟩ := dropEndWhile_prefix isBlank (trimStart s)
    have hcut : s = (s.takeWhile isBlank ++ (x ++ [c])) ++ (d :: (y ++ tail)) := by
      have hkept : x ++ c :: d :: y ++ tail = s.dropWhile isBlank := by
        rw [← heq]
        exact htail
      calc s = s.takeWhile isBlank ++ s.dropWhile isBlank := List.takeWhile_append_dropWhile.symm
        _ = _ := by rw [← hkept]; simp
    have hends : endsBlank (s.takeWhile isBlank ++ (x ++ [c])) = true := by
      rw [← List.append_assoc, endsBlank_append _ (List.cons_ne_nil c [])]
      exact hblanks.1
    rcases h _ _ hcut hends hblanks.2 with hblank | hblank
    · have hfirst : (x ++ c :: d :: y).head? = (x ++ [c]).head? := by cases x <;> rfl
      obtain ⟨e, he⟩ : ∃ e, (x ++ [c]).head? = some e := by cases x <;> simp
      have hmem : e ∈ s.takeWhile isBlank ++ (x ++ [c]) :=
        List.mem_append_right _ (List.mem_of_head? he)
      have hnot := hhead e (hfirst.trans he)
      rw [List.all_eq_true.mp hblank e hmem] at hnot
      cases hnot
    · obtain ⟨e, he⟩ : ∃ e, (d :: y).getLast? = some e := by simp [List.getLast?_cons]
      have hend : (x ++ c :: d :: y).getLast? = some e := by
        rw [List.getLast?_append_of_ne_nil _ (by simp), List.getLast?_cons_cons, he]
      have hmem : e ∈ d :: (y ++ tail) :=
        List.mem_append_left tail (List.mem_of_getLast? he)
      have hnot := hlast e hend
      rw [List.all_eq_true.mp hblank e hmem] at hnot
      cases hnot

end Text

end LineShell
