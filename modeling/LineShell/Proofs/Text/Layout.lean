import LineShell.Proofs.Text.Blanks

/-!
# Layouts

A text is laid out as its words, the gap in front of each and the blanks behind the last one
(`Layout`).  Every text has a layout (`exists_layout`), whose words are the words of the text
(`words_text`).

**Replacing words.**  `Layout.write` writes the layout again with other words and keeps the gaps.
To put the other words side by side with a space between neighbours comes to the same only where
the gaps are single spaces (`Layout.join_eq_write_iff`), whatever the words are replaced by: no
replacement makes up for a gap.
-/

namespace LineShell

namespace Text

/-- A word with the blanks in front of it. -/
structure Piece where
  gap : Text
  word : Text
  gap_blank : ∀ c ∈ gap, isBlank c = true
  word_ne_nil : word ≠ []
  word_solid : ∀ c ∈ word, isBlank c = false

/-- How a text is made up of words and blanks.  Only the first word may have no blank in front. -/
structure Layout where
  pieces : List Piece
  tail : Text
  tail_blank : ∀ c ∈ tail, isBlank c = true
  apart : ∀ p ∈ pieces.tail, p.gap ≠ []

namespace Layout

/-- The words in order. -/
def words (l : Layout) : List Text := l.pieces.map Piece.word

/-- The text with the words replaced and every blank kept. -/
def write (l : Layout) (f : Text → Text) : Text :=
  l.pieces.flatMap (fun p => p.gap ++ f p.word) ++ l.tail

/-- The text laid out. -/
def text (l : Layout) : Text := l.write id

/-- Nothing but single spaces between the words. -/
def Even (l : Layout) : Prop :=
  (∀ p ∈ l.pieces.head?, p.gap = []) ∧ (∀ p ∈ l.pieces.tail, p.gap = [' ']) ∧ l.tail = []

end Layout

/-! ## The layout of a text -/

lemma words_append_of_blank {gap : Text} (hgap : ∀ c ∈ gap, isBlank c = true) (t : Text) :
    words (gap ++ t) = words t := by
  induction gap with
  | nil => rfl
  | cons c cs ih =>
      obtain ⟨hc, hcs⟩ := List.forall_mem_cons.mp hgap
      rw [List.cons_append, words_cons_of_blank hc, ih hcs]

lemma firstWord_append_of_solid {word : Text} (hword : ∀ c ∈ word, isBlank c = false) (t : Text) :
    firstWord (word ++ t) = (word ++ (firstWord t).1, (firstWord t).2) := by
  induction word with
  | nil => rfl
  | cons c cs ih =>
      obtain ⟨hc, hcs⟩ := List.forall_mem_cons.mp hword
      rw [List.cons_append, firstWord_cons_of_not_blank hc, ih hcs]
      rfl

/-- A word ends where a blank or the end of the text follows. -/
lemma words_append_of_solid {word t : Text} (hne : word ≠ [])
    (hword : ∀ c ∈ word, isBlank c = false) (ht : ∀ c ∈ t.head?, isBlank c = true) :
    words (word ++ t) = word :: words t := by
  have hfirst : firstWord t = ([], words t) := by
    cases t with
    | nil => rfl
    | cons c cs =>
        have hc : isBlank c = true := ht c rfl
        rw [firstWord_cons_of_blank hc, words_cons_of_blank hc]
  rw [words, firstWord_append_of_solid hword, hfirst, List.append_nil]
  simp [hne]

lemma words_flatMap_pieces {tail : Text} (htail : ∀ c ∈ tail, isBlank c = true) :
    ∀ ps : List Piece, (∀ p ∈ ps.tail, p.gap ≠ []) →
      words (ps.flatMap (fun p => p.gap ++ p.word) ++ tail) = ps.map Piece.word
  | [], _ => words_eq_nil_iff.mpr htail
  | p :: ps, hapart => by
      have hrest : ∀ c ∈ (ps.flatMap (fun p => p.gap ++ p.word) ++ tail).head?,
          isBlank c = true := by
        cases ps with
        | nil => exact fun c hc => htail c (List.mem_of_head? hc)
        | cons q qs =>
            obtain ⟨d, ds, hgap⟩ := List.exists_cons_of_ne_nil (hapart q List.mem_cons_self)
            intro c hc
            rw [List.flatMap_cons, hgap] at hc
            obtain rfl : d = c := Option.some.inj hc
            exact q.gap_blank d (hgap ▸ List.mem_cons_self)
      have ih := words_flatMap_pieces htail ps fun q hq => hapart q (List.mem_of_mem_tail hq)
      rw [List.flatMap_cons, List.append_assoc, List.append_assoc,
        words_append_of_blank p.gap_blank, words_append_of_solid p.word_ne_nil p.word_solid hrest,
        ih, List.map_cons]

/-- **The words of a layout** are the words of its text. -/
lemma words_text (l : Layout) : words l.text = l.words :=
  words_flatMap_pieces l.tail_blank l.pieces l.apart

/-- A blank in front of a layout belongs to the first gap. -/
lemma Layout.exists_cons_blank {c : Char} (hc : isBlank c = true) (l : Layout) :
    ∃ l' : Layout, l'.text = c :: l.text := by
  obtain ⟨pieces, tail, htail, hapart⟩ := l
  cases pieces with
  | nil => exact ⟨⟨[], c :: tail, List.forall_mem_cons.mpr ⟨hc, htail⟩, hapart⟩, rfl⟩
  | cons p ps =>
      let p' : Piece := { p with
        gap := c :: p.gap
        gap_blank := List.forall_mem_cons.mpr ⟨hc, p.gap_blank⟩ }
      exact ⟨⟨p' :: ps, tail, htail, hapart⟩, by simp [text, write, p']⟩

/-- Any other character belongs to the first word, or is a word of its own before a gap. -/
lemma Layout.exists_cons_solid {c : Char} (hc : isBlank c = false) (l : Layout) :
    ∃ l' : Layout, l'.text = c :: l.text := by
  have halone : ∀ d ∈ [c], isBlank d = false := List.forall_mem_singleton.mpr hc
  let alone : Piece := ⟨[], [c], by simp, List.cons_ne_nil c [], halone⟩
  obtain ⟨pieces, tail, htail, hapart⟩ := l
  cases pieces with
  | nil => exact ⟨⟨[alone], tail, htail, hapart⟩, rfl⟩
  | cons p ps =>
      by_cases hgap : p.gap = []
      · let p' : Piece := { p with
          word := c :: p.word
          word_ne_nil := List.cons_ne_nil c _
          word_solid := List.forall_mem_cons.mpr ⟨hc, p.word_solid⟩ }
        exact ⟨⟨p' :: ps, tail, htail, hapart⟩, by simp [text, write, p', hgap]⟩
      · have hall : ∀ q ∈ p :: ps, q.gap ≠ [] := List.forall_mem_cons.mpr ⟨hgap, hapart⟩
        exact ⟨⟨alone :: p :: ps, tail, htail, hall⟩, rfl⟩

/-- **Every text has a layout.** -/
lemma exists_layout (s : Text) : ∃ l : Layout, l.text = s := by
  induction s with
  | nil => exact ⟨⟨[], [], by simp, by simp⟩, rfl⟩
  | cons c cs ih =>
      obtain ⟨l, rfl⟩ := ih
      cases hc : isBlank c with
      | true => exact l.exists_cons_blank hc
      | false => exact l.exists_cons_solid hc

/-! ## Replacing words -/

/-- With every word in its place a space is never longer than the gap. -/
lemma length_flatMap_pieces_le (f : Text → Text) {ps : List Piece} (hps : ∀ p ∈ ps, p.gap ≠ []) :
    (ps.flatMap fun p => ' ' :: f p.word).length ≤
      (ps.flatMap fun p => p.gap ++ f p.word).length := by
  induction ps with
  | nil => rfl
  | cons p ps ih =>
      obtain ⟨hp, hps⟩ := List.forall_mem_cons.mp hps
      have hgap := List.length_pos_of_ne_nil hp
      have := ih hps
      simp only [List.flatMap_cons, List.length_append, List.length_cons]
      omega

lemma flatMap_pieces_eq_iff (f : Text → Text) {ps : List Piece} (hps : ∀ p ∈ ps, p.gap ≠ [])
    (tail : Text) :
    (ps.flatMap fun p => ' ' :: f p.word) = (ps.flatMap fun p => p.gap ++ f p.word) ++ tail ↔
      (∀ p ∈ ps, p.gap = [' ']) ∧ tail = [] := by
  induction ps with
  | nil => simp [eq_comm]
  | cons p ps ih =>
      obtain ⟨hp, hps⟩ := List.forall_mem_cons.mp hps
      rw [List.forall_mem_cons, and_assoc, ← ih hps, List.flatMap_cons, List.flatMap_cons]
      constructor
      · intro heq
        -- the rest is no longer than its own layout, so the gap is one character
        have hrest := length_flatMap_pieces_le f hps
        have hpos := List.length_pos_of_ne_nil hp
        have hlength := congrArg List.length heq
        simp only [List.length_append, List.length_cons] at hlength
        obtain ⟨c, hgap⟩ := List.length_eq_one_iff.mp (by omega : p.gap.length = 1)
        rw [hgap] at heq ⊢
        simpa [eq_comm] using heq
      · rintro ⟨hgap, heq⟩
        rw [hgap, heq]
        simp

/-- Whatever the words are replaced by, they lie as before with a single space between neighbours
    just where there were single spaces only. -/
lemma Layout.join_eq_write_iff_even {l : Layout} (hne : l.pieces ≠ []) (f : Text → Text) :
    join [' '] (l.words.map f) = l.write f ↔ l.Even := by
  obtain ⟨pieces, tail, htail, hapart⟩ := l
  obtain ⟨p, ps, rfl⟩ := List.exists_cons_of_ne_nil hne
  have hjoin : join [' '] (((p :: ps).map Piece.word).map f) =
      f p.word ++ ps.flatMap fun q => ' ' :: f q.word := by
    simp [join_cons, List.flatMap_map]
  have hhead : (∀ q ∈ (p :: ps).head?, q.gap = []) ↔ p.gap = [] := by simp
  have hps : ∀ q ∈ ps, q.gap ≠ [] := hapart
  simp only [words, write, Even, hjoin, hhead, List.tail_cons, List.flatMap_cons,
    List.append_assoc]
  rw [← flatMap_pieces_eq_iff f hps tail]
  constructor
  · intro heq
    -- a gap in front would make the layout longer, as the gaps behind it are no shorter
    have hrest := length_flatMap_pieces_le f hps
    have hlength := congrArg List.length heq
    simp only [List.length_append] at hlength
    have hgap : p.gap = [] := List.length_eq_zero_iff.mp (by omega)
    rw [hgap, List.nil_append] at heq
    exact ⟨hgap, List.append_cancel_left heq⟩
  · rintro ⟨hgap, heq⟩
    rw [hgap, List.nil_append, heq]

/-- **Words side by side.**  Whatever the words are replaced by, putting them side by side keeps
    the layout just where it keeps the text with the words as they are. -/
lemma Layout.join_eq_write_iff {l : Layout} (hne : l.pieces ≠ []) (f : Text → Text) :
    join [' '] (l.words.map f) = l.write f ↔ l.text = join [' '] l.words := by
  have hid := join_eq_write_iff_even hne id
  rw [List.map_id] at hid
  rw [join_eq_write_iff_even hne, ← hid, text, eq_comm]

/-! ## Characters -/

lemma mem_of_mem_words {s w : Text} {c : Char} (hw : w ∈ words s) (hc : c ∈ w) : c ∈ s := by
  obtain ⟨l, rfl⟩ := exists_layout s
  rw [words_text] at hw
  obtain ⟨p, hp, rfl⟩ := List.mem_map.mp hw
  refine List.mem_append_left _ (List.mem_flatMap.mpr ⟨p, hp, ?_⟩)
  exact List.mem_append_right _ hc

/-- A character that is not a blank is in a word. -/
lemma Layout.pieces_ne_nil {l : Layout} {c : Char} (hc : c ∈ l.text) (hsolid : isBlank c = false) :
    l.pieces ≠ [] := by
  intro hnil
  rw [text, write, hnil] at hc
  rw [l.tail_blank c hc] at hsolid
  cases hsolid

/-- Words that stay as they are leave the text as it is. -/
lemma Layout.write_of_forall {l : Layout} {f : Text → Text} (h : ∀ w ∈ l.words, f w = w) :
    l.write f = l.text := by
  have hpieces : l.pieces.map (fun p => p.gap ++ f p.word) =
      l.pieces.map fun p => p.gap ++ p.word := by
    refine List.map_congr_left fun p hp => ?_
    rw [h p.word (List.mem_map_of_mem hp)]
  rw [text, write, write, List.flatMap_def, hpieces]
  rfl

end Text

end LineShell
