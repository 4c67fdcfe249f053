import LineShell.Proofs.Application.Contents
import LineShell.Proofs.Application.Reading
import LineShell.Proofs.Text.Order
import Mathlib

/-!
# Sorting lines

`sort` writes the lines it has read in the order of their bytes, and with `-r` the same lines from
the last to the first.

**Newlines count.**  Lines are compared as they are written, with their newlines.  For most lines
that is the order of their texts, as a newline is below all characters but a few controls.  Where
one line goes on from another with such a control, a tab for one, the longer line comes first.
-/

namespace LineShell

/-! ## Running `sort` -/

section

variable {host : Host} {input left : Input} {file : Option Text} {lines : List Text}

lemma runSort_of_contents (h : input.contents host file = (.ok lines, left))
    (hfile : file ≠ some "-r".toList) :
    runSort host input file.toList = .success host left (sortLines lines) := by
  simp only [runSort, flagAndFile_toList _ hfile, filterInput_of_contents h]
  rfl

lemma runSort_reverse_of_contents (h : input.contents host file = (.ok lines, left)) :
    runSort host input ("-r".toList :: file.toList) =
      .success host left (sortLines lines).reverse := by
  simp only [runSort, flagAndFile_cons_toList, filterInput_of_contents h]
  rfl

end

/-! ## The texts of lines -/

namespace Text

/-- Lines are texts with their newlines put behind them. -/
lemma AreLines.exists_map {lines : List Text} (h : AreLines lines) :
    ∃ texts : List Text, lines = texts.map (· ++ ['\n']) ∧ ∀ u ∈ texts, '\n' ∉ u := by
  induction lines with
  | nil => exact ⟨[], rfl, by simp⟩
  | cons l lines ih =>
      obtain ⟨⟨body, hbody, rfl⟩, hlines⟩ := List.forall_mem_cons.mp h
      obtain ⟨texts, rfl, htexts⟩ := ih hlines
      exact ⟨body :: texts, rfl, List.forall_mem_cons.mpr ⟨hbody, htexts⟩⟩

end Text

/-- **`sort` orders lines as they are written.**  It writes the lines it has read, in the order of
    their bytes with the newlines; `-r` writes them from the last to the first.  Of their texts a
    smaller one comes before a larger one, unless the larger one goes on from it with a character
    below the newline: then, and only then, it comes first. -/
theorem runSort_orders (host : Host) (input : Input) (file : Option Text) {lines : List Text}
    {left : Input} (hread : input.contents host file = (.ok lines, left)) :
    ∃ texts : List Text,
      let sorted := texts.map (· ++ ['\n'])
      (file ≠ some "-r".toList → runSort host input file.toList = .success host left sorted) ∧
      runSort host input ("-r".toList :: file.toList) = .success host left sorted.reverse ∧
      sorted.Perm lines ∧ (∀ u ∈ texts, '\n' ∉ u) ∧
      sorted.Pairwise (fun l l' => Utf8.encode l ≤ Utf8.encode l') ∧
      texts.Pairwise (fun u v =>
        Text.Undercuts u v ∨ Utf8.encode u ≤ Utf8.encode v ∧ ¬ Text.Undercuts v u) ∧
      ((∀ l ∈ lines, ∀ c ∈ l, '\n'.toNat ≤ c.toNat) →
        texts.Pairwise fun u v => Utf8.encode u ≤ Utf8.encode v) := by
  have hperm : (sortLines lines).Perm lines := Text.perm_sort lines
  have hlines : Text.AreLines (sortLines lines) :=
    (Input.areLines_contents (by rw [hread])).mono hperm.subset
  obtain ⟨texts, hsorted, htexts⟩ := hlines.exists_map
  have hbytes : (sortLines lines).Pairwise fun l l' => Utf8.encode l ≤ Utf8.encode l' :=
    Text.pairwise_sort lines
  rw [hsorted] at hperm hbytes
  have horder : texts.Pairwise fun u v =>
      Text.Undercuts u v ∨ Utf8.encode u ≤ Utf8.encode v ∧ ¬ Text.Undercuts v u := by
    refine (List.pairwise_map.mp hbytes).imp_of_mem fun {u v} hu hv hle => ?_
    rw [← Text.le_iff_encode_le, Text.le_newline_iff (htexts u hu) (htexts v hv)] at hle
    rwa [← Text.le_iff_encode_le]
  refine ⟨texts, fun hfile => ?_, ?_, hperm, htexts, hbytes, horder, fun hcontrols => ?_⟩
  · rw [runSort_of_contents hread hfile, hsorted]
  · rw [runSort_reverse_of_contents hread, hsorted]
  · refine horder.imp_of_mem fun {u v} hu _ huv => ?_
    rcases huv with hcut | ⟨hle, _⟩
    · -- a character below the newline would stand in a line that was read
      obtain ⟨c, hc, hlt⟩ := hcut.mem
      have hline : u ++ ['\n'] ∈ lines := hperm.mem_iff.mp (List.mem_map_of_mem hu)
      have := hcontrols _ hline c (List.mem_append_left _ hc)
      omega
    · exact hle

/-- A line that is the beginning of another one, with and without a control behind it. -/
theorem runSort_orders_prefixes :
    let host : Host := ⟨{}, [], none⟩
    let input : Input := { piped := some ["ab\nb\tc\n".toList, "a\nb".toList] }
    input.contents host none =
      (.ok ["ab\n".toList, "b\tc\n".toList, "a\n".toList, "b\n".toList], {}) ∧
    runSort host input [] =
      .success host {} ["a\n".toList, "ab\n".toList, "b\tc\n".toList, "b\n".toList] ∧
    ∃ texts : List Text,
      runSort host input [] = .success host {} (texts.map (· ++ ['\n'])) ∧
      runSort host input ["-r".toList] = .success host {} (texts.map (· ++ ['\n'])).reverse := by
  intro host input
  have hread : input.contents host none =
      (.ok ["ab\n".toList, "b\tc\n".toList, "a\n".toList, "b\n".toList], {}) := rfl
  obtain ⟨texts, hsort, hreverse, _⟩ := runSort_orders host input none hread
  exact ⟨hread, by cbv, texts, hsort (by simp), hreverse⟩

/-- A line comes behind a longer one that goes on from it with a tab. -/
theorem runSort_tab_before_end :
    let host : Host := ⟨{}, [], none⟩
    let input : Input := { piped := some ["a\n".toList, "a\tb\n".toList] }
    runSort host input [] = .success host {} ["a\tb\n".toList, "a\n".toList] ∧
      ¬ Utf8.encode "a\tb".toList ≤ Utf8.encode "a".toList := by
  refine ⟨by cbv, by decide⟩

end LineShell
