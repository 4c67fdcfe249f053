import LineShell.Text.Utf8
import Mathlib.Tactic.Common

/-!
# Encoding and decoding

Reading accepts what writing produces and nothing else, so a byte list is the encoding of one text
at most (`decode?_eq_some_iff`).

**First bytes.**  The first byte of a sequence tells its length, and with it where the second byte
has to lie.  From then on `lead` is not looked into.

**Steps.**  `scan` has one equation for each of its cases, and it is only opened by these: a byte
where a sequence starts (`scan_cons`) and one behind an unfinished sequence (`scan_pending_cons`).

**Sequences.**  A character is written in a well-formed sequence (`sequence_encodeChar`), and each
is some character's (`Sequence.eq_encodeChar`).  Such a sequence is read off the front as one
character (`Sequence.scan_append`), and nothing else is (`exists_of_scan_eq_cons`).
-/

namespace LineShell

namespace Utf8

/-! ## First bytes -/

lemma lead_one {b : UInt8} (h : b.toNat < 0x80) : lead b = .char (Char.ofNat b.toNat) := by
  simp only [lead, if_pos h]

lemma lead_two {b : UInt8} (h : 0xC2 ≤ b.toNat) (h' : b.toNat < 0xE0) :
    lead b = .pending ⟨b.toNat - 0xC0, 1, 0x80, 0xBF⟩ := by
  simp only [lead]
  rw [if_neg (by omega), if_neg (by omega), if_pos h']

lemma lead_three {b : UInt8} (h : 0xE0 ≤ b.toNat) (h' : b.toNat < 0xF0) :
    lead b = .pending ⟨b.toNat - 0xE0, 2, if b.toNat = 0xE0 then 0xA0 else 0x80,
      if b.toNat = 0xED then 0x9F else 0xBF⟩ := by
  by_cases hlow : b.toNat = 0xE0
  · simp [lead, hlow]
  by_cases hhigh : b.toNat = 0xED
  · simp [lead, hhigh]
  simp only [lead, hlow, hhigh, h', if_false, if_true]
  rw [if_neg (by omega), if_neg (by omega), if_neg (by omega)]

lemma lead_four {b : UInt8} (h : 0xF0 ≤ b.toNat) (h' : b.toNat < 0xF5) :
    lead b = .pending ⟨b.toNat - 0xF0, 3, if b.toNat = 0xF0 then 0x90 else 0x80,
      if b.toNat = 0xF4 then 0x8F else 0xBF⟩ := by
  by_cases hlow : b.toNat = 0xF0
  · simp [lead, hlow]
  by_cases hhigh : b.toNat = 0xF4
  · simp [lead, hhigh]
  simp only [lead, hlow, hhigh, if_false]
  rw [if_neg (by omega), if_neg (by omega), if_neg (by omega), if_neg (by omega),
    if_neg (by omega), if_neg (by omega), if_pos (by omega)]

lemma lead_stray {b : UInt8} (h : 0x80 ≤ b.toNat ∧ b.toNat < 0xC2 ∨ 0xF5 ≤ b.toNat) :
    lead b = .stray := by
  simp only [lead]
  rcases h with ⟨hlow, hhigh⟩ | hlow
  · rw [if_neg (by omega), if_pos hhigh]
  · iterate 9 rw [if_neg (by omega)]

/-! ## Sequences -/

/-- A byte behind the first one. -/
abbrev IsTail (b : UInt8) : Prop := 0x80 ≤ b.toNat ∧ b.toNat ≤ 0xBF

/-- A well-formed sequence and its code.  The second byte keeps out overlong forms, surrogates and
    codes past the last one. -/
inductive Sequence : Bytes → Nat → Prop
  | one {a : UInt8} {n : Nat} (ha : a.toNat < 0x80) (hn : n = a.toNat) : Sequence [a] n
  | two {a b : UInt8} {n : Nat} (ha : 0xC2 ≤ a.toNat) (ha' : a.toNat < 0xE0) (hb : IsTail b)
      (hn : n = (a.toNat - 0xC0) * 0x40 + (b.toNat - 0x80)) : Sequence [a, b] n
  | three {a b c : UInt8} {n : Nat} (ha : 0xE0 ≤ a.toNat) (ha' : a.toNat < 0xF0) (hb : IsTail b)
      (hlow : a.toNat = 0xE0 → 0xA0 ≤ b.toNat) (hhigh : a.toNat = 0xED → b.toNat ≤ 0x9F)
      (hc : IsTail c)
      (hn : n = ((a.toNat - 0xE0) * 0x40 + (b.toNat - 0x80)) * 0x40 + (c.toNat - 0x80)) :
      Sequence [a, b, c] n
  | four {a b c d : UInt8} {n : Nat} (ha : 0xF0 ≤ a.toNat) (ha' : a.toNat < 0xF5) (hb : IsTail b)
      (hlow : a.toNat = 0xF0 → 0x90 ≤ b.toNat) (hhigh : a.toNat = 0xF4 → b.toNat ≤ 0x8F)
      (hc : IsTail c) (hd : IsTail d)
      (hn : n = (((a.toNat - 0xF0) * 0x40 + (b.toNat - 0x80)) * 0x40 + (c.toNat - 0x80)) * 0x40 +
        (d.toNat - 0x80)) : Sequence [a, b, c, d] n

/-- The codes of characters leave out the surrogates. -/
lemma toNat_lt_or (c : Char) : c.toNat < 0xD800 ∨ 0xE000 ≤ c.toNat ∧ c.toNat < 0x110000 := by
  have hvalid : Nat.isValidChar c.toNat := c.valid
  unfold Nat.isValidChar at hvalid
  omega

lemma toNat_toUInt8 {n : Nat} (h : n < 256) : n.toUInt8.toNat = n :=
  UInt8.toNat_ofNat_of_lt h

lemma sequence_encodeChar (c : Char) : Sequence (encodeChar c) c.toNat := by
  have hc := toNat_lt_or c
  simp only [encodeChar]
  generalize c.toNat = n at hc
  have htail : ∀ m, IsTail (0x80 + m % 0x40).toUInt8 := by
    intro m
    rw [IsTail, toNat_toUInt8 (by omega)]
    omega
  split_ifs
  · have ha := toNat_toUInt8 (n := n) (by omega)
    exact .one (by omega) ha.symm
  · have ha := toNat_toUInt8 (n := 0xC0 + n / 0x40) (by omega)
    have hb := toNat_toUInt8 (n := 0x80 + n % 0x40) (by omega)
    exact .two (by omega) (by omega) (htail n) (by omega)
  · have ha := toNat_toUInt8 (n := 0xE0 + n / 0x1000) (by omega)
    have hb := toNat_toUInt8 (n := 0x80 + n / 0x40 % 0x40) (by omega)
    have hc := toNat_toUInt8 (n := 0x80 + n % 0x40) (by omega)
    exact .three (by omega) (by omega) (htail _) (by omega) (by omega) (htail n) (by omega)
  · have ha := toNat_toUInt8 (n := 0xF0 + n / 0x40000) (by omega)
    have hb := toNat_toUInt8 (n := 0x80 + n / 0x1000 % 0x40) (by omega)
    have hc := toNat_toUInt8 (n := 0x80 + n / 0x40 % 0x40) (by omega)
    have hd := toNat_toUInt8 (n := 0x80 + n % 0x40) (by omega)
    exact .four (by omega) (by omega) (htail _) (by omega) (by omega) (htail _) (htail n)
      (by omega)

lemma toUInt8_of_toNat_eq {b : UInt8} {n : Nat} (h : n = b.toNat) : n.toUInt8 = b := by
  subst h
  exact UInt8.ofNat_toNat

namespace Sequence

variable {bs : Bytes} {n : Nat}

lemma toNat_ofNat (h : Sequence bs n) : (Char.ofNat n).toNat = n := by
  have hvalid : n.isValidChar := by
    unfold Nat.isValidChar
    cases h <;> omega
  rw [Char.ofNat, dif_pos hvalid]
  rfl

lemma eq_encodeChar (h : Sequence bs n) : bs = encodeChar (Char.ofNat n) := by
  simp only [encodeChar, h.toNat_ofNat]
  cases h
  case one a ha hn =>
    rw [if_pos (by omega), toUInt8_of_toNat_eq (b := a) (by omega)]
  case two a b ha ha' hb hn =>
    rw [if_neg (by omega), if_pos (by omega), toUInt8_of_toNat_eq (b := a) (by omega),
      toUInt8_of_toNat_eq (b := b) (by omega)]
  case three a b c ha ha' hb hlow hhigh hc hn =>
    rw [if_neg (by omega), if_neg (by omega), if_pos (by omega),
      toUInt8_of_toNat_eq (b := a) (by omega), toUInt8_of_toNat_eq (b := b) (by omega),
      toUInt8_of_toNat_eq (b := c) (by omega)]
  case four a b c d ha ha' hb hlow hhigh hc hd hn =>
    rw [if_neg (by omega), if_neg (by omega), if_neg (by omega),
      toUInt8_of_toNat_eq (b := a) (by omega), toUInt8_of_toNat_eq (b := b) (by omega),
      toUInt8_of_toNat_eq (b := c) (by omega), toUInt8_of_toNat_eq (b := d) (by omega)]

lemma eq_toNat_of_mem {b : UInt8} (h : Sequence bs n) (hb : b ∈ bs) (hlt : b.toNat < 0x80) :
    n = b.toNat := by
  cases h with
  | one ha hn =>
      rw [List.mem_singleton] at hb
      rw [hn, hb]
  | two | three | four =>
      -- all other bytes are above
      simp only [List.mem_cons, List.not_mem_nil, or_false] at hb
      rcases hb with rfl | rfl | rfl | rfl <;> omega

end Sequence

/-- Only a newline is written with the byte of a newline. -/
lemma newline_notMem_encodeChar {c : Char} (hc : c ≠ '\n') : 10 ∉ encodeChar c := by
  intro hmem
  have hcode : c.toNat = 10 := (sequence_encodeChar c).eq_toNat_of_mem hmem (by decide)
  exact hc (Char.toNat_inj.mp hcode)

lemma encodeChar_ne_nil (c : Char) : encodeChar c ≠ [] := by
  intro hnil
  have hseq := sequence_encodeChar c
  rw [hnil] at hseq
  cases hseq

/-! ## Reading sequences -/

@[simp] lemma scan_nil : scan none [] = [] := rfl

@[simp] lemma scan_pending_nil (p : Pending) : scan (some p) [] = [none] := rfl

lemma scan_cons (b : UInt8) (bs : Bytes) :
    scan none (b :: bs) =
      match lead b with
      | .char c => some c :: scan none bs
      | .pending p => scan (some p) bs
      | .stray => none :: scan none bs := rfl

/-- A byte out of its range ends an unfinished sequence and is read as a first one. -/
lemma scan_pending_cons (p : Pending) (b : UInt8) (bs : Bytes) :
    scan (some p) (b :: bs) =
      if p.low ≤ b.toNat ∧ b.toNat ≤ p.high then
        if p.missing ≤ 1 then some (Char.ofNat (p.code * 0x40 + (b.toNat - 0x80))) :: scan none bs
        else scan (some ⟨p.code * 0x40 + (b.toNat - 0x80), p.missing - 1, 0x80, 0xBF⟩) bs
      else none :: scan none (b :: bs) := rfl

section Pending

variable {code missing low high : Nat} {b : UInt8} {bs : Bytes}

lemma scan_last (hlow : low ≤ b.toNat) (hhigh : b.toNat ≤ high) :
    scan (some ⟨code, 1, low, high⟩) (b :: bs) =
      some (Char.ofNat (code * 0x40 + (b.toNat - 0x80))) :: scan none bs := by
  rw [scan_pending_cons, if_pos ⟨hlow, hhigh⟩, if_pos (by simp)]

lemma scan_more (hlow : low ≤ b.toNat) (hhigh : b.toNat ≤ high) :
    scan (some ⟨code, missing + 2, low, high⟩) (b :: bs) =
      scan (some ⟨code * 0x40 + (b.toNat - 0x80), missing + 1, 0x80, 0xBF⟩) bs := by
  rw [scan_pending_cons, if_pos ⟨hlow, hhigh⟩, if_neg (by simp)]
  rfl

/-- A character is read only if the next byte lies in its range. -/
lemma exists_of_scan_pending {p : Pending} {c : Char} {cs : List (Option Char)}
    (h : scan (some p) bs = some c :: cs) :
    ∃ b rest, bs = b :: rest ∧ p.low ≤ b.toNat ∧ b.toNat ≤ p.high := by
  cases bs with
  | nil => simp at h
  | cons b rest =>
      by_cases hrange : p.low ≤ b.toNat ∧ b.toNat ≤ p.high
      · exact ⟨b, rest, rfl, hrange⟩
      · rw [scan_pending_cons, if_neg hrange] at h
        simp at h

lemma scan_pending_ne_nil (p : Pending) (bs : Bytes) : scan (some p) bs ≠ [] := by
  induction bs generalizing p with
  | nil => simp
  | cons b bs ih =>
      rw [scan_pending_cons]
      split_ifs
      · exact List.cons_ne_nil _ _
      · exact ih _
      · exact List.cons_ne_nil _ _

/-- No byte is passed over. -/
lemma scan_cons_ne_nil (b : UInt8) (bs : Bytes) : scan none (b :: bs) ≠ [] := by
  rw [scan_cons]
  cases lead b with
  | char c => exact List.cons_ne_nil _ _
  | pending p => exact scan_pending_ne_nil p bs
  | stray => exact List.cons_ne_nil _ _

end Pending

lemma Sequence.scan_append {seq : Bytes} {n : Nat} (h : Sequence seq n) (bs : Bytes) :
    scan none (seq ++ bs) = some (Char.ofNat n) :: scan none bs := by
  cases h <;> simp only [List.cons_append, List.nil_append]
  case one a ha hn => rw [scan_cons, lead_one ha, hn]
  case two a b ha ha' hb hn =>
    rw [scan_cons, lead_two ha ha', hn]
    exact scan_last hb.1 hb.2
  case three a b c ha ha' hb hlow hhigh hc hn =>
    rw [scan_cons, lead_three ha ha', hn]
    refine (scan_more ?_ ?_).trans (scan_last hc.1 hc.2) <;> split_ifs <;> omega
  case four a b c d ha ha' hb hlow hhigh hc hd hn =>
    rw [scan_cons, lead_four ha ha', hn]
    refine (scan_more ?_ ?_).trans ((scan_more hc.1 hc.2).trans (scan_last hd.1 hd.2)) <;>
      split_ifs <;> omega

/-- What is read off the front is a sequence. -/
lemma exists_of_scan_eq_cons {bs : Bytes} {c : Char} {cs : List (Option Char)}
    (h : scan none bs = some c :: cs) :
    ∃ seq n rest, Sequence seq n ∧ bs = seq ++ rest ∧ c = Char.ofNat n ∧ cs = scan none rest := by
  -- it is enough to find the sequence, as it is then read as one
  suffices hseq : ∃ seq n rest, Sequence seq n ∧ bs = seq ++ rest by
    obtain ⟨seq, n, rest, hseq, rfl⟩ := hseq
    rw [hseq.scan_append, List.cons.injEq, Option.some.injEq] at h
    exact ⟨seq, n, rest, hseq, rfl, h.1.symm, h.2.symm⟩
  cases bs with
  | nil => simp at h
  | cons a bs =>
      rw [scan_cons] at h
      by_cases h1 : a.toNat < 0x80
      · exact ⟨[a], _, bs, .one h1 rfl, rfl⟩
      by_cases hstray : a.toNat < 0xC2 ∨ 0xF5 ≤ a.toNat
      · rw [lead_stray (by omega)] at h
        simp at h
      by_cases h2 : a.toNat < 0xE0
      · rw [lead_two (by omega) h2] at h
        obtain ⟨b, rest, rfl, hb⟩ := exists_of_scan_pending h
        exact ⟨[a, b], _, rest, .two (by omega) h2 hb rfl, rfl⟩
      by_cases h3 : a.toNat < 0xF0
      · rw [lead_three (by omega) h3] at h
        obtain ⟨b, rest, rfl, hlow, hhigh⟩ := exists_of_scan_pending h
        simp only [scan_more hlow hhigh] at h
        obtain ⟨c, rest, rfl, hc⟩ := exists_of_scan_pending h
        refine ⟨[a, b, c], _, rest, .three (by omega) h3 ⟨?_, ?_⟩ ?_ ?_ hc rfl, rfl⟩ <;>
          simp only at hlow hhigh <;> split_ifs at hlow hhigh <;> omega
      · rw [lead_four (by omega) (by omega)] at h
        obtain ⟨b, rest, rfl, hlow, hhigh⟩ := exists_of_scan_pending h
        simp only [scan_more hlow hhigh] at h
        obtain ⟨c, rest, rfl, hc⟩ := exists_of_scan_pending h
        simp only [scan_more hc.1 hc.2] at h
        obtain ⟨d, rest, rfl, hd⟩ := exists_of_scan_pending h
        refine ⟨[a, b, c, d], _, rest,
          .four (by omega) (by omega) ⟨?_, ?_⟩ ?_ ?_ hc hd rfl, rfl⟩ <;>
          simp only at hlow hhigh <;> split_ifs at hlow hhigh <;> omega

/-! ## Texts -/

lemma encode_cons (c : Char) (s : Text) : encode (c :: s) = encodeChar c ++ encode s := rfl

lemma encode_append (s t : Text) : encode (s ++ t) = encode s ++ encode t :=
  List.flatMap_append

lemma length_encodeChar (c : Char) : (encodeChar c).length = c.utf8Size := by
  have hval : c.val.toNat = c.toNat := rfl
  simp only [encodeChar, Char.utf8Size, UInt32.le_iff_toNat_le, hval, UInt32.toNat_ofNatLT,
    ← Nat.lt_add_one_iff, Nat.reduceAdd]
  split_ifs <;> rfl

/-- A text takes as many bytes as it is encoded in. -/
lemma length_encode (s : Text) : (encode s).length = size s := by
  induction s with
  | nil => rfl
  | cons c cs ih => rw [encode_cons, List.length_append, length_encodeChar, ih, size]

lemma size_append (s t : Text) : size (s ++ t) = size s + size t := by
  rw [← length_encode, encode_append, List.length_append, length_encode, length_encode]

lemma encode_flatten (ls : List Text) : encode ls.flatten = (ls.map encode).flatten := by
  induction ls with
  | nil => rfl
  | cons l ls ih =>
      rw [List.flatten_cons, encode, List.flatMap_append, List.map_cons, List.flatten_cons, ← ih]
      rfl

lemma scan_encode (s : Text) (bs : Bytes) :
    scan none (encode s ++ bs) = s.map some ++ scan none bs := by
  induction s with
  | nil => rfl
  | cons c cs ih =>
      have hc := (sequence_encodeChar c).scan_append (encode cs ++ bs)
      rw [Char.ofNat_toNat, ih] at hc
      rw [encode_cons, List.append_assoc]
      exact hc

lemma eq_encode_of_scan {bs : Bytes} {s : Text} (h : scan none bs = s.map some) :
    bs = encode s := by
  induction s generalizing bs with
  | nil =>
      cases bs with
      | nil => rfl
      | cons b bs => exact absurd h (scan_cons_ne_nil b bs)
  | cons c cs ih =>
      obtain ⟨seq, n, rest, hseq, rfl, rfl, hcs⟩ := exists_of_scan_eq_cons h
      rw [ih hcs.symm, hseq.eq_encodeChar]
      rfl

/-- All or nothing. -/
lemma mapM_eq_some_iff {α β : Type} {f : α → Option β} {l : List α} {bs : List β} :
    l.mapM f = some bs ↔ l.map f = bs.map some := by
  induction l generalizing bs with
  | nil => cases bs <;> simp
  | cons a l ih =>
      cases bs with
      | nil => simp [Option.bind_eq_some_iff]
      | cons b bs => simp [Option.bind_eq_some_iff, ih]

/-- **Reading accepts exactly what writing produces.** -/
theorem decode?_eq_some_iff {bs : Bytes} {s : Text} : decode? bs = some s ↔ bs = encode s := by
  rw [decode?, mapM_eq_some_iff, List.map_id]
  constructor
  · exact eq_encode_of_scan
  · rintro rfl
    simpa using scan_encode s []

lemma decode?_encode (s : Text) : decode? (encode s) = some s :=
  decode?_eq_some_iff.mpr rfl

end Utf8

end LineShell
