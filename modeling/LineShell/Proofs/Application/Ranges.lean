import LineShell.Application.Run
import LineShell.Proofs.Text.Utf8
import Mathlib.Tactic.Common

/-!
# The bytes that `cut` takes

**What can be written.**  A list is read if each of its parts is a number, a stretch between two
numbers or one that is open at an end (`parseRanges?_isSome_iff`).

**Merging.**  The ranges are sorted by where they start and then joined as long as they touch.  A
range that ends before it starts covers nothing; it joins nothing behind it, and what it is joined
to stays as it is.  So merging keeps the positions that are covered (`covered_mergeRanges_iff`) and
puts the ranges apart (`pairwise_mergeRanges`).

**Picking.**  From ranges that are apart every covered byte is taken once and in order
(`pickBytes_eq`).  Hence only the covered positions matter, not how a list says them.
-/

namespace LineShell

/-! ## Counts -/

namespace Text

/-- A count as it is written: decimal digits, at least one, behind a plus sign or without it. -/
def IsCount (s : Text) (n : Nat) : Prop :=
  ∃ digits : Text, (s = digits ∨ s = '+' :: digits) ∧ digits ≠ [] ∧
    (∀ c ∈ digits, c.isDigit = true) ∧ Nat.ofDigitChars 10 digits 0 = n ∧ n < countLimit

lemma le_ofDigitChars (cs : Text) (acc : Nat) : acc ≤ Nat.ofDigitChars 10 cs acc := by
  induction cs generalizing acc with
  | nil => exact Nat.le_refl acc
  | cons c cs ih =>
      rw [Nat.ofDigitChars_cons]
      have := ih (10 * acc + (c.toNat - '0'.toNat))
      omega

lemma isDigit_iff {c : Char} : c.isDigit = true ↔ '0' ≤ c ∧ c ≤ '9' := by
  simp [Char.isDigit, Char.le_def]

/-- The limit can be checked at the end, as the value only grows. -/
lemma countFrom_eq_some_iff {acc n : Nat} (hacc : acc < countLimit) {cs : Text} :
    countFrom acc cs = some n ↔
      (∀ c ∈ cs, c.isDigit = true) ∧ Nat.ofDigitChars 10 cs acc = n ∧ n < countLimit := by
  induction cs generalizing acc with
  | nil =>
      simp only [countFrom, Option.some.injEq, List.not_mem_nil, false_implies, implies_true,
        true_and, Nat.ofDigitChars_nil]
      exact ⟨fun h => ⟨h, h ▸ hacc⟩, And.left⟩
  | cons c cs ih =>
      simp only [countFrom, ← isDigit_iff]
      rw [Nat.ofDigitChars_cons, List.forall_mem_cons, Nat.mul_comm 10 acc]
      have hle := le_ofDigitChars cs (acc * 10 + (c.toNat - '0'.toNat))
      split_ifs with hc hlimit
      · rw [ih hlimit]
        simp [hc]
      · simp only [false_iff]
        omega
      · simp [hc]

lemma toCount?_of_isDigit {c : Char} (hc : c.isDigit = true) (cs : Text) :
    toCount? (c :: cs) = countFrom 0 (c :: cs) := by
  have hplus : c ≠ '+' := by
    rintro rfl
    cases hc
  simp [toCount?, hplus]

lemma toCount?_eq_some_iff {s : Text} {n : Nat} : toCount? s = some n ↔ IsCount s n := by
  have hlimit : 0 < countLimit := by decide
  constructor
  · intro h
    unfold toCount? at h
    split at h
    case h_1 | h_2 => cases h
    case h_3 digits hne =>
      exact ⟨digits, .inr rfl, fun hnil => hne (by rw [hnil]),
        (countFrom_eq_some_iff hlimit).mp h⟩
    case h_4 hne _ _ => exact ⟨s, .inl rfl, hne, (countFrom_eq_some_iff hlimit).mp h⟩
  · rintro ⟨digits, hs, hne, hdigits⟩
    have hcount := (countFrom_eq_some_iff hlimit).mpr hdigits
    obtain ⟨c, cs, rfl⟩ := List.exists_cons_of_ne_nil hne
    rcases hs with rfl | rfl
    · rw [toCount?_of_isDigit (hdigits.1 c List.mem_cons_self), hcount]
    · exact hcount

lemma IsCount.dash_notMem {s : Text} {n : Nat} (h : IsCount s n) : '-' ∉ s := by
  obtain ⟨digits, hs, _, hdigits, _⟩ := h
  have hdash : '-' ∉ digits := fun hmem => absurd (hdigits _ hmem) (by decide)
  rcases hs with rfl | rfl
  · exact hdash
  · simpa using hdash

lemma IsCount.ne_nil {s : Text} {n : Nat} (h : IsCount s n) : s ≠ [] := by
  obtain ⟨digits, hs, hne, _⟩ := h
  rcases hs with rfl | rfl
  · exact hne
  · exact List.cons_ne_nil _ _

lemma splitOnce_char_eq_none_iff {c : Char} {s : Text} : splitOnce [c] s = none ↔ c ∉ s := by
  induction s with
  | nil => simp [splitOnce]
  | cons d ds ih =>
      by_cases hd : c = d
      · simp [splitOnce, hd]
      · simp [splitOnce, hd, ih]

lemma splitOnce_char_eq_some_iff {c : Char} {s before after : Text} :
    splitOnce [c] s = some (before, after) ↔ s = before ++ c :: after ∧ c ∉ before := by
  induction s generalizing before after with
  | nil => simp [splitOnce]
  | cons d ds ih =>
      by_cases hd : c = d
      · subst hd
        cases before with
        | nil => simp [splitOnce]
        | cons e es => grind [splitOnce]
      · cases before with
        | nil => simp [splitOnce, hd, Ne.symm hd]
        | cons e es =>
            have hsplit : splitOnce [c] (d :: ds) =
                (splitOnce [c] ds).map fun x => (d :: x.1, x.2) := by
              simp [splitOnce, hd]
            simp only [hsplit, Option.map_eq_some_iff, Prod.exists, Prod.mk.injEq, List.cons.injEq,
              ih, List.cons_append, List.mem_cons, not_or]
            constructor
            · rintro ⟨b, a, ⟨rfl, hb⟩, ⟨rfl, rfl⟩, rfl⟩
              exact ⟨⟨rfl, rfl⟩, hd, hb⟩
            · rintro ⟨⟨rfl, rfl⟩, _, hes⟩
              exact ⟨es, after, ⟨rfl, hes⟩, ⟨rfl, rfl⟩, rfl⟩

end Text

/-! ## Parts of a list -/

/-- A stretch of positions, which are counted from one, or all from some position on. -/
structure Stretch where
  low : Nat
  high : Option Nat
deriving DecidableEq, Repr

/-- The position lies in the stretch.  A stretch that ends before it starts has none. -/
def Stretch.Covers (s : Stretch) (p : Nat) : Prop := s.low ≤ p ∧ ∀ n ∈ s.high, p ≤ n

instance (s : Stretch) : DecidablePred s.Covers :=
  fun p => inferInstanceAs (Decidable (s.low ≤ p ∧ ∀ n ∈ s.high, p ≤ n))

/-- A position as it is written. -/
def IsPosition (s : Text) (n : Nat) : Prop := Text.IsCount s n ∧ 0 < n

/-- The parts that a list may have, with the stretches that they stand for. -/
inductive IsPart : Text → Stretch → Prop
  /-- `N` -/
  | single {s : Text} {n : Nat} (hs : IsPosition s n) : IsPart s ⟨n, some n⟩
  /-- `N-M` -/
  | between {s t : Text} {m n : Nat} (hs : IsPosition s m) (ht : IsPosition t n) :
      IsPart (s ++ '-' :: t) ⟨m, some n⟩
  /-- `N-` -/
  | onward {s : Text} {m : Nat} (hs : IsPosition s m) : IsPart (s ++ ['-']) ⟨m, none⟩
  /-- `-M` -/
  | upTo {t : Text} {n : Nat} (ht : IsPosition t n) : IsPart ('-' :: t) ⟨1, some n⟩
  /-- `-` -/
  | whole : IsPart ['-'] ⟨1, none⟩

lemma position?_eq_some_iff {s : Text} {n : Nat} : position? s = some n ↔ IsPosition s n := by
  simp [position?, IsPosition, Text.toCount?_eq_some_iff, Option.filter_eq_some_iff]

lemma not_isPosition_nil (n : Nat) : ¬ IsPosition [] n := fun h => h.1.ne_nil rfl

lemma isPosition_succ_iff {s : Text} {k : Nat} :
    IsPosition s (k + 1) ↔ ∃ n, IsPosition s n ∧ n - 1 = k := by
  constructor
  · exact fun h => ⟨k + 1, h, rfl⟩
  · rintro ⟨n, hn, rfl⟩
    rwa [Nat.sub_add_cancel hn.2]

namespace ByteRange

/-- The positions of a range. -/
def stretch (r : ByteRange) : Stretch := ⟨r.start + 1, r.stop⟩

lemma parse?_eq_some_iff_of_notMem {part : Text} {r : ByteRange} (h : '-' ∉ part) :
    parse? part = some r ↔ IsPosition part (r.start + 1) ∧ r.stop = some (r.start + 1) := by
  rw [parse?, Text.splitOnce_char_eq_none_iff.mpr h]
  simp only [Option.map_eq_some_iff, position?_eq_some_iff]
  constructor
  · rintro ⟨n, hn, rfl⟩
    have hpos : n - 1 + 1 = n := Nat.sub_add_cancel hn.2
    exact ⟨by rwa [hpos], by rw [hpos]⟩
  · rintro ⟨hn, hstop⟩
    obtain ⟨start, stop⟩ := r
    exact ⟨start + 1, hn, by rw [← hstop]; rfl⟩

/-- On both sides of a dash nothing is as good as a position. -/
lemma parse?_append_eq_some_iff {low high : Text} {r : ByteRange} (h : '-' ∉ low) :
    parse? (low ++ '-' :: high) = some r ↔
      (low = [] ∧ r.start = 0 ∨ IsPosition low (r.start + 1)) ∧
      (high = [] ∧ r.stop = none ∨ ∃ n, IsPosition high n ∧ r.stop = some n) := by
  rw [parse?, Text.splitOnce_char_eq_some_iff.mpr ⟨rfl, h⟩]
  obtain ⟨start, stop⟩ := r
  rcases low with _ | ⟨c, low⟩ <;> rcases high with _ | ⟨d, high⟩ <;>
    simp [position?_eq_some_iff, not_isPosition_nil, isPosition_succ_iff,
      Option.bind_eq_some_iff] <;>
    grind

/-- **Reading a part** finds the stretch that it stands for. -/
lemma parse?_eq_some_iff {part : Text} {r : ByteRange} :
    parse? part = some r ↔ IsPart part r.stretch := by
  constructor
  · intro h
    cases hsplit : Text.splitOnce ['-'] part with
    | none =>
        rw [Text.splitOnce_char_eq_none_iff] at hsplit
        obtain ⟨hpart, hstop⟩ := (parse?_eq_some_iff_of_notMem hsplit).mp h
        rw [stretch, hstop]
        exact .single hpart
    | some ends =>
        obtain ⟨rfl, hlow⟩ := Text.splitOnce_char_eq_some_iff.mp hsplit
        obtain ⟨hstart, hstop⟩ := (parse?_append_eq_some_iff hlow).mp h
        rw [stretch]
        rcases hstart with ⟨hnil, hstart⟩ | hm <;> rcases hstop with ⟨hnil', hstop⟩ | ⟨n, hn, hstop⟩
        · rw [hnil, hnil', hstart, hstop]
          exact .whole
        · rw [hnil, hstart, hstop]
          exact .upTo hn
        · rw [hnil', hstop]
          exact .onward hm
        · rw [hstop]
          exact .between hm hn
  · intro h
    obtain ⟨start, stop⟩ := r
    rw [stretch] at h
    generalize hlow : start + 1 = low at h
    cases h with
    | single hs =>
        subst hlow
        exact (parse?_eq_some_iff_of_notMem hs.1.dash_notMem).mpr ⟨hs, rfl⟩
    | between hs ht =>
        subst hlow
        exact (parse?_append_eq_some_iff hs.1.dash_notMem).mpr ⟨.inr hs, .inr ⟨_, ht, rfl⟩⟩
    | onward hs =>
        subst hlow
        exact (parse?_append_eq_some_iff hs.1.dash_notMem).mpr ⟨.inr hs, .inl ⟨rfl, rfl⟩⟩
    | upTo ht =>
        have hstart : start = 0 := Nat.succ.inj hlow
        exact (parse?_append_eq_some_iff List.not_mem_nil).mpr
          ⟨.inl ⟨rfl, hstart⟩, .inr ⟨_, ht, rfl⟩⟩
    | whole =>
        have hstart : start = 0 := Nat.succ.inj hlow
        exact (parse?_append_eq_some_iff List.not_mem_nil).mpr
          ⟨.inl ⟨rfl, hstart⟩, .inl ⟨rfl, rfl⟩⟩

/-! ## Merging -/

lemma covers_stretch_iff {r : ByteRange} {p : Nat} :
    r.stretch.Covers p ↔ r.start < p ∧ ∀ n ∈ r.stop, p ≤ n := Iff.rfl

lemma start_join (a b : ByteRange) : (a.join b).start = a.start := by
  simp only [join]
  split <;> rfl

/-- Joining neither adds nor drops a position. -/
lemma covers_join_iff {a b : ByteRange} (hstart : a.start ≤ b.start) (h : a.touches b = true)
    {p : Nat} :
    (a.join b).stretch.Covers p ↔ a.stretch.Covers p ∨ b.stretch.Covers p := by
  obtain ⟨start, _ | m⟩ := a <;> obtain ⟨start', _ | n⟩ := b <;>
    simp [join, touches, covers_stretch_iff] at * <;> omega

/-- The positions of one range come before those of the other. -/
def Before (a b : ByteRange) : Prop :=
  ∀ p q, a.stretch.Covers p → b.stretch.Covers q → p < q

lemma before_of_not_touches {a b x : ByteRange} (h : ¬ a.touches b = true)
    (hstart : b.start ≤ x.start) : a.Before x := by
  intro p q hp hq
  obtain ⟨start, _ | m⟩ := a <;> simp [touches, covers_stretch_iff] at *
  omega

lemma le_trans (a b c : ByteRange) (hab : a.le b = true) (hbc : b.le c = true) :
    a.le c = true := by
  simp only [le, Bool.or_eq_true, Bool.and_eq_true, decide_eq_true_eq] at *
  omega

lemma le_total (a b : ByteRange) : (a.le b || b.le a) = true := by
  simp only [le, Bool.or_eq_true, Bool.and_eq_true, decide_eq_true_eq]
  omega

lemma start_le_of_le {a b : ByteRange} (h : a.le b = true) : a.start ≤ b.start := by
  simp only [le, Bool.or_eq_true, Bool.and_eq_true, decide_eq_true_eq] at h
  omega

end ByteRange

/-- Some range has the position. -/
def Covered (ranges : List ByteRange) (p : Nat) : Prop := ∃ r ∈ ranges, r.stretch.Covers p

instance (ranges : List ByteRange) : DecidablePred (Covered ranges) :=
  fun p => inferInstanceAs (Decidable (∃ r ∈ ranges, r.stretch.Covers p))

lemma covered_cons_iff {r : ByteRange} {rs : List ByteRange} {p : Nat} :
    Covered (r :: rs) p ↔ r.stretch.Covers p ∨ Covered rs p := by
  simp [Covered]

/-- What merging needs of the order: no range starts before one that stands before it. -/
def StartsInOrder (ranges : List ByteRange) : Prop :=
  ranges.Pairwise fun a b => a.start ≤ b.start

lemma StartsInOrder.join {a b : ByteRange} {rest : List ByteRange}
    (h : StartsInOrder (a :: b :: rest)) : StartsInOrder (a.join b :: rest) := by
  simp only [StartsInOrder, List.pairwise_cons, List.forall_mem_cons] at h ⊢
  rw [ByteRange.start_join]
  exact ⟨h.1.2, h.2.2⟩

lemma covered_mergeFrom_iff {current : ByteRange} {rest : List ByteRange}
    (h : StartsInOrder (current :: rest)) {p : Nat} :
    Covered (mergeFrom current rest) p ↔ Covered (current :: rest) p := by
  induction rest generalizing current with
  | nil => rfl
  | cons r rest ih =>
      rw [mergeFrom]
      split_ifs with htouch
      · have hstart : current.start ≤ r.start := List.rel_of_pairwise_cons h List.mem_cons_self
        rw [ih h.join, covered_cons_iff, covered_cons_iff, covered_cons_iff,
          ByteRange.covers_join_iff hstart htouch, or_assoc]
      · rw [covered_cons_iff, covered_cons_iff, ih (List.Pairwise.of_cons h)]

lemma start_le_of_mem_mergeFrom {current x : ByteRange} {rest : List ByteRange}
    (h : StartsInOrder (current :: rest)) (hx : x ∈ mergeFrom current rest) :
    current.start ≤ x.start := by
  induction rest generalizing current with
  | nil =>
      rw [mergeFrom, List.mem_singleton] at hx
      exact Nat.le_of_eq (congrArg ByteRange.start hx.symm)
  | cons r rest ih =>
      rw [mergeFrom] at hx
      split_ifs at hx with htouch
      · have hle := ih h.join hx
        rwa [ByteRange.start_join] at hle
      · rcases List.mem_cons.mp hx with rfl | hx
        · exact Nat.le_refl _
        · have hstart : current.start ≤ r.start := List.rel_of_pairwise_cons h List.mem_cons_self
          exact Nat.le_trans hstart (ih (List.Pairwise.of_cons h) hx)

lemma pairwise_mergeFrom {current : ByteRange} {rest : List ByteRange}
    (h : StartsInOrder (current :: rest)) :
    (mergeFrom current rest).Pairwise ByteRange.Before := by
  induction rest generalizing current with
  | nil => exact List.pairwise_singleton _ current
  | cons r rest ih =>
      rw [mergeFrom]
      split_ifs with htouch
      · exact ih h.join
      · have hrest : StartsInOrder (r :: rest) := List.Pairwise.of_cons h
        refine List.pairwise_cons.mpr ⟨fun x hx => ?_, ih hrest⟩
        exact ByteRange.before_of_not_touches htouch (start_le_of_mem_mergeFrom hrest hx)

lemma startsInOrder_mergeSort (ranges : List ByteRange) :
    StartsInOrder (ranges.mergeSort ByteRange.le) :=
  (List.pairwise_mergeSort ByteRange.le_trans ByteRange.le_total ranges).imp
    ByteRange.start_le_of_le

/-- **Merging keeps the positions.** -/
lemma covered_mergeRanges_iff {ranges : List ByteRange} {p : Nat} :
    Covered (mergeRanges ranges) p ↔ Covered ranges p := by
  have hsorted := startsInOrder_mergeSort ranges
  have hperm : Covered (ranges.mergeSort ByteRange.le) p ↔ Covered ranges p := by
    simp [Covered]
  rw [← hperm, mergeRanges]
  cases hs : ranges.mergeSort ByteRange.le with
  | nil => rfl
  | cons r rest =>
      rw [hs] at hsorted
      exact covered_mergeFrom_iff hsorted

/-- **Merging puts the ranges apart.** -/
lemma pairwise_mergeRanges (ranges : List ByteRange) :
    (mergeRanges ranges).Pairwise ByteRange.Before := by
  have hsorted := startsInOrder_mergeSort ranges
  rw [mergeRanges]
  cases hs : ranges.mergeSort ByteRange.le with
  | nil => exact .nil
  | cons r rest =>
      rw [hs] at hsorted
      exact pairwise_mergeFrom hsorted

/-! ## Picking -/

/-- The bytes at the positions that are wanted, in order; the first one stands at `k`. -/
def pick (P : Nat → Prop) [DecidablePred P] (k : Nat) (bytes : Bytes) : Bytes :=
  ((bytes.zipIdx k).filter fun x => P x.2).map Prod.fst

section Pick

variable {P Q : Nat → Prop} [DecidablePred P] [DecidablePred Q]

lemma pick_nil (k : Nat) : pick P k [] = [] := rfl

lemma pick_cons (k : Nat) (b : UInt8) (bs : Bytes) :
    pick P k (b :: bs) = if P k then b :: pick P (k + 1) bs else pick P (k + 1) bs := by
  simp only [pick, List.zipIdx_cons, List.filter_cons, decide_eq_true_eq]
  split_ifs <;> rfl

lemma pick_congr {k : Nat} {bs : Bytes} (h : ∀ p, p < k + bs.length → (P p ↔ Q p)) :
    pick P k bs = pick Q k bs := by
  induction bs generalizing k with
  | nil => rfl
  | cons b bs ih =>
      rw [List.length_cons] at h
      rw [pick_cons, pick_cons, ih fun p hp => h p (by omega)]
      simp only [h k (by omega)]

lemma pick_eq_nil {k : Nat} (h : ∀ p, k ≤ p → ¬ P p) (bs : Bytes) : pick P k bs = [] := by
  induction bs generalizing k with
  | nil => rfl
  | cons b bs ih => rw [pick_cons, if_neg (h k (Nat.le_refl k)), ih fun p hp => h p (by omega)]

/-- Wanted positions that come before others are picked before them. -/
lemma pick_or (h : ∀ p q, P p → Q q → p < q) (k : Nat) (bs : Bytes) :
    pick (fun p => P p ∨ Q p) k bs = pick P k bs ++ pick Q k bs := by
  induction bs generalizing k with
  | nil => rfl
  | cons b bs ih =>
      rw [pick_cons, pick_cons, pick_cons, ih]
      by_cases hP : P k
      · have hQ : ¬ Q k := fun hQ => absurd (h k k hP hQ) (Nat.lt_irrefl k)
        rw [if_pos (.inl hP), if_pos hP, if_neg hQ, List.cons_append]
      · by_cases hQ : Q k
        · have hnil : pick P (k + 1) bs = [] :=
            pick_eq_nil (fun p hp hp' => by have := h p k hp' hQ; omega) bs
          rw [if_pos (.inr hQ), if_neg hP, if_pos hQ, hnil, List.nil_append, List.nil_append]
        · rw [if_neg (by simp [hP, hQ]), if_neg hP, if_neg hQ]

lemma drop_take_eq_pick (start stop k : Nat) (bs : Bytes) :
    (bs.take (stop - k)).drop (start - k) = pick (fun p => start < p ∧ p ≤ stop) (k + 1) bs := by
  induction bs generalizing k with
  | nil => simp [pick_nil]
  | cons b bs ih =>
      rw [pick_cons, ← ih]
      rcases Nat.lt_or_ge k stop with hstop | hstop
      · rw [show stop - k = stop - (k + 1) + 1 by omega, List.take_succ_cons]
        rcases Nat.lt_or_ge k start with hstart | hstart
        · rw [show start - k = start - (k + 1) + 1 by omega, List.drop_succ_cons,
            if_neg (by omega)]
        · rw [show start - k = 0 by omega, show start - (k + 1) = 0 by omega,
            if_pos (by omega), List.drop_zero, List.drop_zero]
      · rw [show stop - k = 0 by omega, show stop - (k + 1) = 0 by omega, if_neg (by omega),
          List.take_zero, List.take_zero, List.drop_nil, List.drop_nil]

end Pick

lemma drop_take_eq_pick_stretch (r : ByteRange) (bytes : Bytes) :
    (bytes.take (r.stop.getD bytes.length)).drop r.start = pick r.stretch.Covers 1 bytes := by
  have hslice := drop_take_eq_pick r.start (r.stop.getD bytes.length) 0 bytes
  rw [Nat.sub_zero, Nat.sub_zero] at hslice
  rw [hslice]
  refine pick_congr fun p hp => ?_
  rw [ByteRange.covers_stretch_iff]
  cases r.stop with
  | none =>
      simp only [Option.getD_none, Option.not_mem_none, false_implies, implies_true, and_true]
      omega
  | some n => simp

/-- **From ranges that are apart** every byte of theirs is picked once and in order. -/
lemma pickBytes_eq {ranges : List ByteRange} (h : ranges.Pairwise ByteRange.Before)
    (bytes : Bytes) : pickBytes ranges bytes = pick (Covered ranges) 1 bytes := by
  induction ranges with
  | nil => exact (pick_eq_nil (by simp [Covered]) bytes).symm
  | cons r rs ih =>
      obtain ⟨hr, hrs⟩ := List.pairwise_cons.mp h
      have hapart : ∀ p q, r.stretch.Covers p → Covered rs q → p < q := by
        rintro p q hp ⟨x, hx, hq⟩
        exact hr x hx p q hp hq
      have hcons : pickBytes (r :: rs) bytes =
          (bytes.take (r.stop.getD bytes.length)).drop r.start ++ pickBytes rs bytes := rfl
      rw [hcons, drop_take_eq_pick_stretch, ih hrs, ← pick_or hapart]
      exact pick_congr fun p _ => covered_cons_iff.symm

/-! ## Within bounds -/

namespace ByteRange

/-- Both ends fit a machine word. -/
def Fits (r : ByteRange) : Prop :=
  r.start < Text.countLimit ∧ ∀ n ∈ r.stop, n < Text.countLimit

lemma fits_of_parse? {part : Text} {r : ByteRange} (h : parse? part = some r) : r.Fits := by
  have hcount : ∀ {s n}, IsPosition s n → n < Text.countLimit := by
    rintro s n ⟨⟨_, _, _, _, _, hlimit⟩, _⟩
    exact hlimit
  have hone : 1 < Text.countLimit := by decide
  have hpart := parse?_eq_some_iff.mp h
  obtain ⟨start, stop⟩ := r
  rw [stretch] at hpart
  rw [Fits]
  generalize hlow : start + 1 = low at hpart
  have hstart : low < Text.countLimit → start < Text.countLimit := by omega
  cases hpart with
  | single hs => exact ⟨hstart (hcount hs), by simpa using hcount hs⟩
  | between hs ht => exact ⟨hstart (hcount hs), by simpa using hcount ht⟩
  | onward hs => exact ⟨hstart (hcount hs), by simp⟩
  | upTo ht => exact ⟨hstart hone, by simpa using hcount ht⟩
  | whole => exact ⟨hstart hone, by simp⟩

lemma Fits.join {a b : ByteRange} (ha : a.Fits) (hb : b.Fits) : (a.join b).Fits := by
  obtain ⟨start, _ | m⟩ := a <;> obtain ⟨start', _ | n⟩ := b <;>
    simp [Fits, ByteRange.join] at * <;> omega

/-- The bytes from `start` to `stop`, if there are such. -/
def slice? (bytes : Bytes) (start stop : Nat) : Option Bytes :=
  if start ≤ stop ∧ stop ≤ bytes.length then some ((bytes.take stop).drop start) else none

/-- The bytes of a range, with its ends checked against the line. -/
def bytes? (r : ByteRange) (bytes : Bytes) : Option Bytes :=
  let stop := min (r.stop.getD bytes.length) bytes.length
  if r.start < stop then slice? bytes r.start stop else some []

lemma bytes?_eq (r : ByteRange) (bytes : Bytes) :
    r.bytes? bytes = some ((bytes.take (r.stop.getD bytes.length)).drop r.start) := by
  simp only [bytes?, slice?]
  split_ifs with hlt hbounds
  · rw [← List.take_eq_take_min]
  · omega
  · have hnil : (bytes.take (r.stop.getD bytes.length)).drop r.start = [] := by
      rw [List.drop_eq_nil_iff, List.length_take]
      omega
    rw [hnil]

end ByteRange

/-- Whatever the ranges, no slice is taken that is not there. -/
lemma map_flatten_mapM_bytes? (ranges : List ByteRange) (bytes : Bytes) :
    (ranges.mapM (ByteRange.bytes? · bytes)).map List.flatten = some (pickBytes ranges bytes) := by
  have hslices : ranges.mapM (ByteRange.bytes? · bytes) = some (ranges.map fun r =>
      (bytes.take (r.stop.getD bytes.length)).drop r.start) := by
    rw [Utf8.mapM_eq_some_iff, List.map_map]
    exact List.map_congr_left fun r _ => r.bytes?_eq bytes
  rw [hslices, Option.map_some, pickBytes, List.flatMap_def]

lemma fits_of_mem_mergeFrom {current x : ByteRange} {rest : List ByteRange}
    (hcurrent : current.Fits) (hrest : ∀ r ∈ rest, r.Fits) (hx : x ∈ mergeFrom current rest) : x.Fits := by
  induction rest generalizing current with
  | nil =>
      rw [mergeFrom, List.mem_singleton] at hx
      rwa [hx]
  | cons r rest ih =>
      obtain ⟨hr, hrest⟩ := List.forall_mem_cons.mp hrest
      rw [mergeFrom] at hx
      split_ifs at hx
      · exact ih (hcurrent.join hr) hrest hx
      · rcases List.mem_cons.mp hx with rfl | hx
        · exact hcurrent
        · exact ih hr hrest hx

lemma fits_of_mem_mergeRanges {ranges : List ByteRange} (h : ∀ r ∈ ranges, r.Fits) {x : ByteRange}
    (hx : x ∈ mergeRanges ranges) : x.Fits := by
  have hsorted : ∀ r ∈ ranges.mergeSort ByteRange.le, r.Fits :=
    fun r hr => h r (List.mem_mergeSort.mp hr)
  rw [mergeRanges] at hx
  split at hx
  · cases hx
  next r rest hs =>
    rw [hs] at hsorted
    obtain ⟨hr, hrest⟩ := List.forall_mem_cons.mp hsorted
    exact fits_of_mem_mergeFrom hr hrest hx

/-! ## Lists -/

/-- Every part of the list can be read. -/
def IsRangeList (list : Text) : Prop := ∀ part ∈ Text.splitOn ',' list, ∃ s, IsPart part s

/-- Some part of the list has the position. -/
def Selects (list : Text) (p : Nat) : Prop :=
  ∃ part ∈ Text.splitOn ',' list, ∃ s, IsPart part s ∧ s.Covers p

/-- Reading a part finds its stretch. -/
lemma exists_isPart_iff (part : Text) {P : Stretch → Prop} :
    (∃ s, IsPart part s ∧ P s) ↔ ∃ r, ByteRange.parse? part = some r ∧ P r.stretch := by
  constructor
  · rintro ⟨⟨low, high⟩, hpart, hP⟩
    have hlow : low - 1 + 1 = low := by
      refine Nat.sub_add_cancel ?_
      cases hpart with
      | single hs | between hs | onward hs => exact hs.2
      | upTo | whole => exact Nat.le_refl 1
    refine ⟨⟨low - 1, high⟩, ByteRange.parse?_eq_some_iff.mpr ?_, ?_⟩
    · rwa [ByteRange.stretch, hlow]
    · rwa [ByteRange.stretch, hlow]
  · rintro ⟨r, hr, hP⟩
    exact ⟨r.stretch, ByteRange.parse?_eq_some_iff.mp hr, hP⟩

lemma selects_iff {list : Text} {p : Nat} : Selects list p ↔
    ∃ part ∈ Text.splitOn ',' list, ∃ r ∈ ByteRange.parse? part, r.stretch.Covers p := by
  simp only [Selects, exists_isPart_iff]
  rfl

instance (list : Text) : DecidablePred (Selects list) :=
  fun _ => decidable_of_iff _ selects_iff.symm

lemma mapM_parse?_isSome_iff {parts : List Text} :
    (parts.mapM ByteRange.parse?).isSome ↔ ∀ part ∈ parts, ∃ s, IsPart part s := by
  induction parts with
  | nil => simp
  | cons part parts ih =>
      have hpart : (∃ s, IsPart part s) ↔ ∃ r, ByteRange.parse? part = some r := by
        simpa using exists_isPart_iff part (P := fun _ => True)
      rw [List.forall_mem_cons, ← ih, hpart, List.mapM_cons]
      cases ByteRange.parse? part <;> cases parts.mapM ByteRange.parse? <;> simp

/-- **What can be read.** -/
lemma parseRanges?_isSome_iff {list : Text} :
    (parseRanges? list).isSome ↔ IsRangeList list := by
  rw [parseRanges?, Option.isSome_map, mapM_parse?_isSome_iff, IsRangeList]

lemma of_parseRanges? {list : Text} {ranges : List ByteRange}
    (h : parseRanges? list = some ranges) :
    (∀ p, Covered ranges p ↔ Selects list p) ∧ ranges.Pairwise ByteRange.Before ∧
      ∀ r ∈ ranges, r.Fits := by
  obtain ⟨rs, hrs, rfl⟩ := Option.map_eq_some_iff.mp h
  rw [Utf8.mapM_eq_some_iff] at hrs
  have hmem : ∀ r, r ∈ rs ↔ ∃ part ∈ Text.splitOn ',' list, ByteRange.parse? part = some r := by
    intro r
    rw [← List.mem_map, hrs]
    simp
  refine ⟨fun p => ?_, pairwise_mergeRanges rs, fun r => fits_of_mem_mergeRanges ?_⟩
  · rw [covered_mergeRanges_iff, selects_iff, Covered]
    simp only [hmem, Option.mem_def]
    constructor
    · rintro ⟨r, ⟨part, hpart, hr⟩, hp⟩
      exact ⟨part, hpart, r, hr, hp⟩
    · rintro ⟨part, hpart, r, hr, hp⟩
      exact ⟨r, ⟨part, hpart, hr⟩, hp⟩
  · intro r hr
    obtain ⟨part, _, hpart⟩ := (hmem r).mp hr
    exact ByteRange.fits_of_parse? hpart

/-! ## Cutting lines -/

/-- A line cut down to what a list selects. -/
def selectedLine (list line : Text) : Text :=
  Text.terminated (Utf8.decodeLossy
    (pick (Selects list) 1 (Utf8.encode (Text.dropEndWhile (· = '\n') line))))

lemma cutLine_of_parseRanges? {list : Text} {ranges : List ByteRange}
    (h : parseRanges? list = some ranges) : cutLine ranges = selectedLine list := by
  obtain ⟨hcovered, hapart, _⟩ := of_parseRanges? h
  funext line
  rw [cutLine, selectedLine, pickBytes_eq hapart, pick_congr fun p _ => hcovered p]

lemma selectedLine_congr {list list' : Text} (h : ∀ p, Selects list p ↔ Selects list' p) :
    selectedLine list = selectedLine list' := by
  funext line
  rw [selectedLine, selectedLine, pick_congr fun p _ => h p]

section Cut

variable (host : Host) (input : Input) (file : Option Text)

lemma runCut_eq (list : Text) :
    runCut host input ("-b".toList :: list :: file.toList) =
      match parseRanges? list with
      | some ranges => filterInput host input file (List.map (cutLine ranges))
      | none => .fail host input (.invalidArguments .cut) := by
  cases file <;> rfl

lemma runCut_of_isRangeList {list : Text} (h : IsRangeList list) :
    runCut host input ("-b".toList :: list :: file.toList) =
      filterInput host input file (List.map (selectedLine list)) := by
  obtain ⟨ranges, hranges⟩ := Option.isSome_iff_exists.mp (parseRanges?_isSome_iff.mpr h)
  rw [runCut_eq, hranges, ← cutLine_of_parseRanges? hranges]

lemma runCut_of_not_isRangeList {list : Text} (h : ¬ IsRangeList list) :
    runCut host input ("-b".toList :: list :: file.toList) =
      .fail host input (.invalidArguments .cut) := by
  rw [← parseRanges?_isSome_iff, Option.not_isSome_iff_eq_none] at h
  rw [runCut_eq, h]

/-- **`cut` takes the bytes that its list selects**, each once and in order, from every line.  A
    list is refused if one of its parts cannot be read.  How a list says what it selects does not
    matter, and no range reaches past the limit of a number or the end of a line. -/
theorem runCut_selects (list : Text) :
    let cut := fun list => runCut host input ("-b".toList :: list :: file.toList)
    ((parseRanges? list).isSome ↔ IsRangeList list) ∧
    (¬ IsRangeList list → cut list = .fail host input (.invalidArguments .cut)) ∧
    (IsRangeList list → cut list = filterInput host input file (List.map (selectedLine list))) ∧
    (∀ list', (∀ part, part ∈ Text.splitOn ',' list ↔ part ∈ Text.splitOn ',' list') →
      cut list' = cut list) ∧
    (∀ list', IsRangeList list → IsRangeList list' → (∀ p, Selects list p ↔ Selects list' p) →
      cut list' = cut list) ∧
    ∀ ranges, parseRanges? list = some ranges → (∀ r ∈ ranges, r.Fits) ∧
      ∀ bytes, (ranges.mapM (ByteRange.bytes? · bytes)).map List.flatten =
        some (pickBytes ranges bytes) := by
  intro cut
  have hcover : ∀ list', IsRangeList list → IsRangeList list' →
      (∀ p, Selects list p ↔ Selects list' p) → cut list' = cut list := by
    intro list' h h' hsame
    simp only [cut]
    rw [runCut_of_isRangeList host input file h, runCut_of_isRangeList host input file h',
      selectedLine_congr hsame]
  refine ⟨parseRanges?_isSome_iff, runCut_of_not_isRangeList host input file,
    runCut_of_isRangeList host input file, fun list' hparts => ?_, hcover, fun ranges h => ?_⟩
  · have hlist : IsRangeList list ↔ IsRangeList list' := by simp only [IsRangeList, hparts]
    by_cases h : IsRangeList list
    · exact hcover list' h (hlist.mp h) fun p => by simp only [Selects, hparts]
    · simp only [cut]
      rw [runCut_of_not_isRangeList host input file h,
        runCut_of_not_isRangeList host input file (mt hlist.mpr h)]
  · exact ⟨(of_parseRanges? h).2.2, map_flatten_mapM_bytes? ranges⟩

end Cut

/-- An open range, one that ends before it starts and two that say the same; and a position that
    does not exist. -/
theorem runCut_selects_overlapping :
    let host : Host := ⟨{}, [], none⟩
    let input : Input := { piped := some ["abcdef\n".toList, "xy".toList] }
    let list := "3-,5-2,+1,-1".toList
    IsRangeList list ∧ ¬ IsRangeList "2,0".toList ∧
    runCut host input ["-b".toList, list] =
      .success host {} ["acdef\n".toList, "x\n".toList] ∧
    runCut host input ["-b".toList, "2,0".toList] =
      .fail host input (.invalidArguments .cut) := by
  intro host input list
  obtain ⟨hread, _, haccept, _⟩ := runCut_selects host input none list
  obtain ⟨hread', hrefuse, _⟩ := runCut_selects host input none "2,0".toList
  have hlist : IsRangeList list := hread.mp rfl
  have hzero : ¬ IsRangeList "2,0".toList := mt hread'.mpr (by decide)
  refine ⟨hlist, hzero, (haccept hlist).trans ?_, hrefuse hzero⟩
  rfl

end LineShell
