import LineShell.Proofs.Text.Utf8
import Mathlib.Data.List.Chain
import Mathlib.Tactic.Common

/-!
# The order of texts

Texts are compared by code point, which is the order of their bytes (`le_iff_encode_le`): of two
sequences the one of the smaller code has the smaller byte where they first differ, and neither is
the beginning of the other.

**Sorting.**  So sorting puts texts in the order of their bytes, and a list that is strictly in
this order is known by its members.

**Lines.**  With their newlines two lines compare as without them, but for one case: a line that
goes on from another one with a character below the newline comes before it (`le_newline_iff`).
-/

namespace LineShell

namespace Utf8

/-! ## Sequences -/

/-- The first bytes decide, unless they are equal. -/
lemma cons_lt_cons_of_le {a b : UInt8} {us vs : Bytes} (h : a.toNat ≤ b.toNat)
    (heq : a.toNat = b.toNat → us < vs) : a :: us < b :: vs := by
  rw [List.cons_lt_cons_iff, UInt8.lt_iff_toNat_lt, ← UInt8.toNat_inj]
  rcases Nat.lt_or_eq_of_le h with hlt | hab
  · exact .inl hlt
  · exact .inr ⟨hab, heq hab⟩

/-- The smaller code has the smaller byte where two sequences first differ. -/
lemma Sequence.append_lt {xs ys : Bytes} {n m : Nat} (hx : Sequence xs n) (hy : Sequence ys m)
    (h : n < m) (us vs : Bytes) : xs ++ us < ys ++ vs := by
  -- byte by byte, until equal bytes would make equal codes
  cases hx <;> cases hy <;>
    simp only [List.cons_append, List.nil_append] <;>
    repeat' first | omega | refine cons_lt_cons_of_le (by omega) fun _ => ?_

lemma encodeChar_append_lt {c d : Char} (h : c.toNat < d.toNat) (us vs : Bytes) :
    encodeChar c ++ us < encodeChar d ++ vs :=
  (sequence_encodeChar c).append_lt (sequence_encodeChar d) h us vs

lemma encode_injective : Function.Injective encode := by
  intro s t h
  have hdecode := decode?_encode s
  rw [h, decode?_encode] at hdecode
  exact (Option.some.inj hdecode).symm

end Utf8

namespace Text

/-! ## Bytes -/

lemma append_le_append_iff (xs : Bytes) {us vs : Bytes} : xs ++ us ≤ xs ++ vs ↔ us ≤ vs := by
  induction xs with
  | nil => rfl
  | cons x xs ih => simp [List.cons_le_cons_iff, ih]

/-- **Code points are in the order of bytes.** -/
theorem le_iff_encode_le {s t : Text} : le s t = true ↔ Utf8.encode s ≤ Utf8.encode t := by
  induction s generalizing t with
  | nil => simp [le, Utf8.encode]
  | cons c cs ih =>
      cases t with
      | nil => simp [le, Utf8.encode, Utf8.encodeChar_ne_nil]
      | cons d ds =>
          rw [le, Utf8.encode_cons, Utf8.encode_cons]
          split_ifs with hcd
          · subst hcd
            rw [ih, append_le_append_iff]
          · have hne : c.toNat ≠ d.toNat := fun h => hcd (Char.toNat_inj.mp h)
            rcases Nat.lt_or_gt_of_ne hne with hlt | hgt
            · simp [hlt, List.le_of_lt (Utf8.encodeChar_append_lt hlt _ _)]
            · have hlt := Utf8.encodeChar_append_lt hgt (Utf8.encode ds) (Utf8.encode cs)
              simp [Nat.not_lt_of_gt hgt, List.not_le.mpr hlt]

/-! ## Sorting -/

lemma le_trans (s t u : Text) (hst : le s t = true) (htu : le t u = true) : le s u = true := by
  rw [le_iff_encode_le] at hst htu ⊢
  exact List.le_trans hst htu

lemma le_total (s t : Text) : (le s t || le t s) = true := by
  rw [Bool.or_eq_true, le_iff_encode_le, le_iff_encode_le]
  exact List.le_total _ _

lemma perm_sort (xs : List Text) : (sort xs).Perm xs :=
  List.mergeSort_perm xs le

lemma mem_sort {xs : List Text} {s : Text} : s ∈ sort xs ↔ s ∈ xs :=
  (perm_sort xs).mem_iff

lemma pairwise_sort (xs : List Text) :
    (sort xs).Pairwise fun s t => Utf8.encode s ≤ Utf8.encode t :=
  (List.pairwise_mergeSort le_trans le_total xs).imp le_iff_encode_le.mp

/-- Strictly in the order of bytes. -/
def Increasing (xs : List Text) : Prop := xs.Pairwise fun s t => Utf8.encode s < Utf8.encode t

lemma encode_lt_of_le {s t : Text} (h : Utf8.encode s ≤ Utf8.encode t) (hne : s ≠ t) :
    Utf8.encode s < Utf8.encode t := by
  refine List.not_le.mp fun hge => hne ?_
  exact Utf8.encode_injective (List.le_antisymm h hge)

lemma increasing_sort {xs : List Text} (h : xs.Nodup) : Increasing (sort xs) := by
  have hnodup : (sort xs).Pairwise (· ≠ ·) := (perm_sort xs).nodup_iff.mpr h
  exact hnodup.imp₂ (fun _ _ hne hle => encode_lt_of_le hle hne) (pairwise_sort xs)

/-- In order, and no neighbours equal. -/
lemma increasing_of_isChain {xs : List Text}
    (hle : xs.Pairwise fun s t => Utf8.encode s ≤ Utf8.encode t) (hne : xs.IsChain (· ≠ ·)) :
    Increasing xs := by
  induction xs with
  | nil => exact .nil
  | cons s xs ih =>
      obtain ⟨hs, hxs⟩ := List.pairwise_cons.mp hle
      obtain ⟨hnext, hchain⟩ := List.isChain_cons.mp hne
      have hlt := ih hxs hchain
      refine List.pairwise_cons.mpr ⟨fun t ht => ?_, hlt⟩
      cases xs with
      | nil => cases ht
      | cons u xs =>
          have hsu := encode_lt_of_le (hs u List.mem_cons_self) (hnext u rfl)
          rcases List.mem_cons.mp ht with rfl | ht
          · exact hsu
          · exact List.lt_trans hsu ((List.pairwise_cons.mp hlt).1 t ht)

namespace Increasing

variable {xs ys : List Text}

lemma nodup (h : Increasing xs) : xs.Nodup := by
  refine List.Pairwise.imp ?_ h
  rintro s t hlt rfl
  exact List.lt_irrefl _ hlt

/-- A list in order is known by its members. -/
lemma ext (hx : Increasing xs) (hy : Increasing ys) (h : ∀ s, s ∈ xs ↔ s ∈ ys) : xs = ys := by
  have hperm : xs.Perm ys := (List.perm_ext_iff_of_nodup hx.nodup hy.nodup).mpr h
  refine hperm.eq_of_pairwise (fun s t _ _ hst hts => ?_) hx hy
  exact absurd hts (List.lt_asymm hst)

end Increasing

/-! ## Lines -/

/-- The text goes on from another one with a character below the newline. -/
def Undercuts (u v : Text) : Prop := ∃ c w, u = v ++ c :: w ∧ c.toNat < '\n'.toNat

lemma not_undercuts_nil (v : Text) : ¬ Undercuts [] v := by
  rintro ⟨c, w, h, _⟩
  simp at h

lemma undercuts_nil_iff {c : Char} {cs : Text} :
    Undercuts (c :: cs) [] ↔ c.toNat < '\n'.toNat := by
  simp [Undercuts]

lemma undercuts_cons_iff {c d : Char} {cs ds : Text} :
    Undercuts (c :: cs) (d :: ds) ↔ c = d ∧ Undercuts cs ds := by
  simp [Undercuts, and_assoc]

lemma Undercuts.mem {u v : Text} (h : Undercuts u v) : ∃ c ∈ u, c.toNat < '\n'.toNat := by
  obtain ⟨c, w, rfl, hc⟩ := h
  exact ⟨c, by simp, hc⟩

/-- **The order of lines** is that of their texts, except that the newline of a shorter line
    counts where a longer one goes on. -/
lemma le_newline_iff {u v : Text} (hu : '\n' ∉ u) (hv : '\n' ∉ v) :
    le (u ++ ['\n']) (v ++ ['\n']) = true ↔
      Undercuts u v ∨ le u v = true ∧ ¬ Undercuts v u := by
  induction u generalizing v with
  | nil =>
      cases v with
      | nil => simp [le, not_undercuts_nil]
      | cons d ds =>
          have hd : '\n' ≠ d := fun h => hv (h ▸ List.mem_cons_self)
          have hcode : '\n'.toNat ≠ d.toNat := fun h => hd (Char.toNat_inj.mp h)
          simp only [List.nil_append, List.cons_append, le, if_neg hd, decide_eq_true_eq,
            not_undercuts_nil, undercuts_nil_iff, false_or, true_and]
          omega
  | cons c cs ih =>
      rw [List.mem_cons, not_or] at hu
      cases v with
      | nil => simp [le, Ne.symm hu.1, undercuts_nil_iff]
      | cons d ds =>
          rw [List.mem_cons, not_or] at hv
          by_cases hcd : c = d
          · subst hcd
            simpa [le, undercuts_cons_iff] using ih hu.2 hv.2
          · simp [le, hcd, Ne.symm hcd, undercuts_cons_iff]

end Text

end LineShell
