import LineShell.Application.Run
import LineShell.Proofs.Text.Layout
import LineShell.Proofs.Text.Order
import Mathlib

/-!
# Expanding words

**Matches.**  A word that holds a star is read as a pattern, which may be refused (`Host.refusal`).
Some words are expanded if none of them is refused, and then each is printed as its matches in
order with a space between neighbours, or as it is if it has no match (`Host.printed`).

**Echo.**  What `echo` prints is the line with its words printed in this way (`runEcho_words`).  A
line that holds a star is not written again in its layout, though, but put together from its words:
the gaps come out as single spaces, whatever they were.
-/

namespace LineShell

/-! ## Words -/

/-- The matches of a word; one without a star has none. -/
def Host.glob (host : Host) (word : Text) : Except Glob.Error (List Text) :=
  if word.contains '*' then Glob.expand host.files host.cwd word else .ok []

/-- Why a word is refused as a pattern. -/
def Host.refusal (host : Host) (word : Text) : Option Glob.Error :=
  match host.glob word with
  | .ok _ => none
  | .error e => some e

/-- A word with its matches in its place if there are any. -/
def Host.printed (host : Host) (word : Text) : Text :=
  match host.glob word with
  | .ok (path :: paths) => Text.join [' '] (path :: paths)
  | _ => word

section

variable {host : Host}

lemma Host.glob_of_not_mem {word : Text} (h : '*' ∉ word) : host.glob word = .ok [] := by
  simp [glob, h]

lemma Host.refusal_of_not_mem {word : Text} (h : '*' ∉ word) : host.refusal word = none := by
  rw [refusal, glob_of_not_mem h]

lemma Host.printed_of_not_mem {word : Text} (h : '*' ∉ word) : host.printed word = word := by
  rw [printed, glob_of_not_mem h]

/-- The matches are in the order of their bytes. -/
lemma Host.pairwise_glob {word : Text} {paths : List Text} (h : host.glob word = .ok paths) :
    paths.Pairwise fun p q => Utf8.encode p ≤ Utf8.encode q := by
  rw [glob] at h
  split_ifs at h with hstar
  · rw [Glob.expand] at h
    cases hparse : Glob.PathPattern.parse word with
    | error e =>
        rw [hparse] at h
        cases h
    | ok pattern =>
        rw [hparse] at h
        cases h
        exact Text.pairwise_sort _
  · cases h
    exact .nil

/-! ## Expansion -/

/-- A separator before each text is one before all of them joined. -/
lemma Text.flatMap_sep {sep : Text} {xs : List Text} (h : xs ≠ []) :
    xs.flatMap (sep ++ ·) = sep ++ join sep xs := by
  obtain ⟨x, rest, rfl⟩ := List.exists_cons_of_ne_nil h
  rw [join_cons, List.flatMap_cons, List.append_assoc]

lemma Text.join_eq_drop (sep : Text) (xs : List Text) :
    join sep xs = (xs.flatMap (sep ++ ·)).drop sep.length := by
  cases xs with
  | nil => simp [join]
  | cons x rest => rw [flatMap_sep (List.cons_ne_nil x rest), List.drop_left]

lemma expandArgument_eq (word : Text) : expandArgument host word =
    match host.glob word with
    | .error e => .error (.glob e)
    | .ok [] => .ok [word]
    | .ok paths => .ok paths := by
  rw [expandArgument, Host.glob]
  split_ifs <;> rfl

lemma expandArgument_of_refusal {word : Text} {e : Glob.Error} (h : host.refusal word = some e) :
    expandArgument host word = .error (.glob e) := by
  rw [Host.refusal] at h
  rw [expandArgument_eq]
  split at h
  · cases h
  · next e' hglob =>
      cases h
      rw [hglob]

/-- A word that is not refused stands for some paths, which are printed in its place. -/
lemma expandArgument_of_not_refused {word : Text} (h : host.refusal word = none) :
    ∃ paths, expandArgument host word = .ok paths ∧
      paths.flatMap ([' '] ++ ·) = [' '] ++ host.printed word := by
  rw [Host.refusal] at h
  rw [expandArgument_eq, Host.printed]
  split at h
  · next paths hglob =>
      rw [hglob]
      cases paths with
      | nil => exact ⟨[word], rfl, by simp⟩
      | cons path paths => exact ⟨path :: paths, rfl, Text.flatMap_sep (List.cons_ne_nil _ _)⟩
  · cases h

/-- The first word that is refused is the one reported. -/
lemma expandArguments_of_refusal {words : List Text} {e : Glob.Error}
    (h : words.findSome? host.refusal = some e) :
    expandArguments host words = .error (.glob e) := by
  induction words with
  | nil => cases h
  | cons word rest ih =>
      rw [List.findSome?_cons] at h
      cases hword : host.refusal word with
      | some e' =>
          rw [hword] at h
          cases h
          rw [expandArguments, expandArgument_of_refusal hword]
      | none =>
          rw [hword] at h
          obtain ⟨paths, hpaths, _⟩ := expandArgument_of_not_refused hword
          rw [expandArguments, hpaths, ih h]

/-- **Words that are not refused are expanded**, and joined they are the printed words joined. -/
lemma expandArguments_of_not_refused {words : List Text}
    (h : words.findSome? host.refusal = none) :
    ∃ paths, expandArguments host words = .ok paths ∧
      Text.join [' '] paths = Text.join [' '] (words.map host.printed) := by
  -- with a space before each word the parts can be put one behind the other
  suffices hspaces : ∃ paths, expandArguments host words = .ok paths ∧
      paths.flatMap ([' '] ++ ·) = (words.map host.printed).flatMap ([' '] ++ ·) by
    obtain ⟨paths, hpaths, heq⟩ := hspaces
    exact ⟨paths, hpaths, by rw [Text.join_eq_drop, heq, ← Text.join_eq_drop]⟩
  induction words with
  | nil => exact ⟨[], rfl, rfl⟩
  | cons word rest ih =>
      rw [List.findSome?_eq_none_iff] at h ih
      obtain ⟨hword, hrest⟩ := List.forall_mem_cons.mp h
      obtain ⟨paths, hpaths, heq⟩ := expandArgument_of_not_refused hword
      obtain ⟨more, hmore, hjoin⟩ := ih hrest
      refine ⟨paths ++ more, by rw [expandArguments, hpaths, hmore], ?_⟩
      rw [List.flatMap_append, heq, hjoin, List.map_cons, List.flatMap_cons]

end

/-! ## Echo -/

lemma runEcho_of_not_refused {host : Host} {args : List Text} (input : Input)
    (h : (Text.words (Text.join [' '] args)).findSome? host.refusal = none) :
    let line := Text.join [' '] args
    let text := if '*' ∈ line then Text.join [' '] ((Text.words line).map host.printed) else line
    runEcho host input args = .success host input [text ++ ['\n']] := by
  obtain ⟨paths, hpaths, hjoin⟩ := expandArguments_of_not_refused h
  simp only [runEcho, List.contains_iff_mem, hpaths, hjoin]
  split_ifs <;> rfl

lemma runEcho_of_refusal {host : Host} {args : List Text} (input : Input) {e : Glob.Error}
    (h : (Text.words (Text.join [' '] args)).findSome? host.refusal = some e) :
    runEcho host input args = .fail host input (.glob e) := by
  have hstar : '*' ∈ Text.join [' '] args := by
    by_contra hnot
    obtain ⟨word, hword, hrefused⟩ := List.exists_of_findSome?_eq_some h
    rw [Host.refusal_of_not_mem fun hmem => hnot (Text.mem_of_mem_words hword hmem)] at hrefused
    cases hrefused
  simp only [runEcho, List.contains_iff_mem, hstar, if_true, expandArguments_of_refusal h]

/-- **Echo prints the words of its line.**  A word with matches is printed as these in the order of
    their bytes, with a space between neighbours, and any other word as it is; if one is refused as
    a pattern the first one is reported and nothing is written.  Without a star the line is printed
    as it stands.  With one, the words are put side by side: all else of the line is kept just where
    it has nothing but single spaces between its words. -/
theorem runEcho_words (host : Host) (input : Input) (args : List Text) :
    let line := Text.join [' '] args
    ∃ l : Text.Layout, l.text = line ∧ l.words = Text.words line ∧
      (∀ word paths, host.glob word = .ok paths →
        paths.Pairwise fun p q => Utf8.encode p ≤ Utf8.encode q) ∧
      (∀ e, l.words.findSome? host.refusal = some e →
        runEcho host input args = .fail host input (.glob e)) ∧
      (l.words.findSome? host.refusal = none → ∃ text,
        runEcho host input args = .success host input [text ++ ['\n']] ∧
        ('*' ∉ line → text = line) ∧
        ('*' ∈ line → text = Text.join [' '] (l.words.map host.printed)) ∧
        (text = l.write host.printed ↔ '*' ∉ line ∨ line = Text.join [' '] l.words)) := by
  intro line
  obtain ⟨l, hline⟩ := Text.exists_layout line
  have hwords : l.words = Text.words line := by rw [← hline, Text.words_text]
  refine ⟨l, hline, hwords, fun word paths => Host.pairwise_glob, fun e he => ?_, fun hnone => ?_⟩
  · rw [hwords] at he
    exact runEcho_of_refusal input he
  · rw [hwords] at hnone
    refine ⟨_, runEcho_of_not_refused input hnone, fun hstar => if_neg hstar, fun hstar => ?_, ?_⟩
    · rw [if_pos hstar, hwords]
    · by_cases hstar : '*' ∈ line
      · have hne : l.pieces ≠ [] := Text.Layout.pieces_ne_nil (hline ▸ hstar) rfl
        rw [if_pos hstar, ← hwords, Text.Layout.join_eq_write_iff hne, hline]
        simp only [hstar, not_true_eq_false, false_or]
      · have hkept : l.write host.printed = l.text :=
          Text.Layout.write_of_forall fun word hword => Host.printed_of_not_mem fun hmem =>
            hstar (Text.mem_of_mem_words (hwords ▸ hword) hmem)
        rw [if_neg hstar, hkept, hline]
        exact ⟨fun _ => .inl hstar, fun _ => rfl⟩

/-- A pattern with matches and one without, a space before each. -/
theorem runEcho_words_matching :
    let host : Host := ⟨⟨[(["b2".toList], .file []), (["b1".toList], .file [])]⟩, [], none⟩
    let line := "x b* q*".toList
    runEcho host {} [line] = .success host {} ["x b1 b2 q*\n".toList] ∧
      ∃ l : Text.Layout, l.text = line ∧
        runEcho host {} [line] = .success host {} [l.write host.printed ++ ['\n']] := by
  intro host line
  have hprinted : runEcho host {} [line] = .success host {} ["x b1 b2 q*\n".toList] := by
    simp only [host, line]
    cbv
  obtain ⟨l, hline, hwords, _, hfail, hsuccess⟩ := runEcho_words host {} [line]
  have heven : line = Text.join [' '] l.words := by
    rw [hwords]
    decide
  refine ⟨hprinted, l, hline, ?_⟩
  cases hrefused : l.words.findSome? host.refusal with
  | some e =>
      rw [hfail e hrefused] at hprinted
      cases hprinted
  | none =>
      obtain ⟨text, hrun, _, _, hkept⟩ := hsuccess hrefused
      rw [hrun, hkept.mpr (.inr heven)]

/-- The gap between two words is lost, though neither word has a match. -/
theorem runEcho_gap_lost :
    let host : Host := ⟨{}, [], none⟩
    ∃ l : Text.Layout, l.text = "a  b*".toList ∧ l.write host.printed = "a  b*".toList ∧
      runEcho host {} ["a  b*".toList] = .success host {} ["a b*\n".toList] ∧
      runEcho host {} ["a  b*".toList] ≠ .success host {} [l.write host.printed ++ ['\n']] := by
  intro host
  obtain ⟨l, hline⟩ := Text.exists_layout "a  b*".toList
  have hwords : l.words = ["a".toList, "b*".toList] := by
    rw [← Text.words_text, hline]
    decide
  have hplain : host.printed "a".toList = "a".toList := Host.printed_of_not_mem (by decide)
  have hpattern : host.printed "b*".toList = "b*".toList := by
    simp only [host]
    cbv
  have hwrite : l.write host.printed = "a  b*".toList := by
    rw [Text.Layout.write_of_forall, hline]
    rw [hwords]
    exact List.forall_mem_cons.mpr ⟨hplain, List.forall_mem_singleton.mpr hpattern⟩
  have hrun : runEcho host {} ["a  b*".toList] = .success host {} ["a b*\n".toList] := by
    simp only [host]
    cbv
  refine ⟨l, hline, hwrite, hrun, ?_⟩
  rw [hwrite, hrun]
  decide

end LineShell
