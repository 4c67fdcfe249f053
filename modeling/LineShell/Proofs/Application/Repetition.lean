import LineShell.Proofs.Application.Sorting
import Mathlib.Data.List.Destutter

/-!
# Repeated lines

`uniq` keeps the first line of every run of lines with equal keys.

**Runs.**  `IsRuns` cuts lines into runs: within a run all keys are equal, and the keys of two
neighbours differ, so no run can be made longer.  What `uniq` remembers is the key of the run that
it is in, and it writes a line when a new one starts (`exists_runs_uniqAfter`).

**Neighbours.**  No two lines in a row that are kept have equal keys.  So nothing is left to drop,
and keeping the first of every run again changes nothing.

**In order.**  Lines that are in order have their repetitions beside them.  So of sorted lines each
is kept once.
-/

namespace LineShell

/-! ## Runs -/

/-- A line and the lines behind it that repeat it. -/
structure Repetition where
  first : Text
  rest : List Text := []
deriving DecidableEq, Repr

/-- All lines of the run. -/
def Repetition.lines (r : Repetition) : List Text := r.first :: r.rest

/-- The lines are cut into runs of equal keys that cannot be made longer. -/
structure IsRuns (key : Text → Text) (runs : List Repetition) (lines : List Text) : Prop where
  lines_eq : lines = runs.flatMap Repetition.lines
  key_eq : ∀ r ∈ runs, ∀ l ∈ r.rest, key l = key r.first
  apart : runs.IsChain fun r r' => key r.first ≠ key r'.first

section

variable (key : Text → Text)

/-- With the key of a run in mind, the lines that belong to it are dropped, and then the first
    line of every run is kept. -/
lemma exists_runs_uniqAfter (last : Option Text) (lines : List Text) :
    ∃ (same : List Text) (runs : List Repetition),
      (∀ l ∈ same, last = some (key l)) ∧
      IsRuns key runs (runs.flatMap Repetition.lines) ∧
      lines = same ++ runs.flatMap Repetition.lines ∧
      (∀ r ∈ runs.head?, last ≠ some (key r.first)) ∧
      uniqAfter key last lines = runs.map Repetition.first := by
  induction lines generalizing last with
  | nil => exact ⟨[], [], by simp, ⟨rfl, by simp, .nil⟩, rfl, by simp, rfl⟩
  | cons l lines ih =>
      rw [uniqAfter]
      split_ifs with hlast
      · obtain ⟨same, runs, hsame, hruns, rfl, hnext, heq⟩ := ih last
        exact ⟨l :: same, runs, List.forall_mem_cons.mpr ⟨hlast, hsame⟩, hruns, rfl, hnext, heq⟩
      · -- what repeats the line is dropped behind it, and makes up the rest of its run
        obtain ⟨same, runs, hsame, hruns, rfl, hnext, heq⟩ := ih (some (key l))
        refine ⟨[], ⟨l, same⟩ :: runs, by simp, ⟨rfl, ?_, ?_⟩, rfl, by simpa using hlast, ?_⟩
        · refine List.forall_mem_cons.mpr ⟨fun l' hl' => ?_, hruns.key_eq⟩
          exact (Option.some.inj (hsame l' hl')).symm
        · refine List.isChain_cons.mpr ⟨fun r hr => ?_, hruns.apart⟩
          exact fun hkey => hnext r hr (congrArg some hkey)
        · rw [heq, List.map_cons]

/-- **The first line of every run is kept.** -/
theorem exists_runs_uniqBy (lines : List Text) :
    ∃ runs, IsRuns key runs lines ∧ uniqBy key lines = runs.map Repetition.first := by
  obtain ⟨same, runs, hsame, hruns, rfl, _, heq⟩ := exists_runs_uniqAfter key none lines
  cases same with
  | nil => exact ⟨runs, hruns, heq⟩
  | cons l same => cases hsame l List.mem_cons_self

/-! ## Neighbours -/

lemma cons_uniqAfter (line : Text) (lines : List Text) :
    line :: uniqAfter key (some (key line)) lines =
      lines.destutter' (fun l l' => key l ≠ key l') line := by
  induction lines generalizing line with
  | nil => rfl
  | cons l lines ih =>
      rw [uniqAfter]
      split_ifs with h
      · rw [List.destutter'_cons_neg _ (by simpa using h), ih]
      · rw [List.destutter'_cons_pos _ (by simpa using h), ih]

/-- A line is kept if its key differs from that of the line kept before it. -/
lemma uniqBy_eq_destutter (lines : List Text) :
    uniqBy key lines = lines.destutter fun l l' => key l ≠ key l' := by
  cases lines with
  | nil => rfl
  | cons l lines => exact cons_uniqAfter key l lines

lemma uniqBy_sublist (lines : List Text) : (uniqBy key lines).Sublist lines := by
  rw [uniqBy_eq_destutter]
  exact List.destutter_sublist _ lines

lemma isChain_uniqBy (lines : List Text) :
    (uniqBy key lines).IsChain fun l l' => key l ≠ key l' := by
  rw [uniqBy_eq_destutter]
  exact List.isChain_destutter _ lines

/-- **Nothing is left to drop.** -/
theorem uniqBy_uniqBy (lines : List Text) : uniqBy key (uniqBy key lines) = uniqBy key lines := by
  simp only [uniqBy_eq_destutter]
  exact List.destutter_idem lines _

end

/-! ## In order -/

lemma mem_uniqBy_iff {lines : List Text} {l : Text} :
    l ∈ uniqBy (lineKey false) lines ↔ l ∈ lines := by
  refine ⟨fun h => (uniqBy_sublist _ lines).subset h, fun h => ?_⟩
  obtain ⟨runs, hruns, heq⟩ := exists_runs_uniqBy (lineKey false) lines
  rw [hruns.lines_eq] at h
  obtain ⟨r, hr, hl⟩ := List.mem_flatMap.mp h
  -- the line is the first one of its run
  have hfirst : l = r.first := by
    rcases List.mem_cons.mp hl with hl | hl
    · exact hl
    · exact hruns.key_eq r hr l hl
  rw [heq, hfirst]
  exact List.mem_map_of_mem hr

/-- **Of sorted lines each is kept once.** -/
theorem increasing_uniqBy_sortLines (lines : List Text) :
    Text.Increasing (uniqBy (lineKey false) (sortLines lines)) := by
  refine Text.increasing_of_isChain ?_ (isChain_uniqBy (lineKey false) (sortLines lines))
  exact (Text.pairwise_sort lines).sublist (uniqBy_sublist _ (sortLines lines))

/-- Sorting and dropping repetitions depends on what the lines are, not on how often and in which
    order they stand. -/
lemma uniqBy_sortLines_congr {lines lines' : List Text} (h : ∀ l, l ∈ lines ↔ l ∈ lines') :
    uniqBy (lineKey false) (sortLines lines) = uniqBy (lineKey false) (sortLines lines') := by
  refine (increasing_uniqBy_sortLines lines).ext (increasing_uniqBy_sortLines lines') fun l => ?_
  rw [mem_uniqBy_iff, mem_uniqBy_iff]
  exact Text.mem_sort.trans ((h l).trans Text.mem_sort.symm)

/-! ## Running `uniq` -/

section

variable {host : Host} {input left : Input} {args : List Text} {ignoreCase : Bool}
  {file : Option Text} {lines : List Text}

lemma runUniq_eq (h : flagAndFile .uniq "-i".toList args = .ok (ignoreCase, file)) :
    runUniq host input args = filterInput host input file (uniqBy (lineKey ignoreCase)) := by
  simp only [runUniq, h]

lemma runUniq_of_contents (h : flagAndFile .uniq "-i".toList args = .ok (ignoreCase, file))
    (hread : input.contents host file = (.ok lines, left)) :
    runUniq host input args = .success host left (uniqBy (lineKey ignoreCase) lines) := by
  rw [runUniq_eq h, filterInput_of_contents hread]

/-- What `uniq` has written it writes again. -/
lemma runUniq_kept (h : flagAndFile .uniq "-i".toList args = .ok (ignoreCase, none))
    (hlines : Text.AreLines lines) (host : Host) (target : Option InputTarget) (stdin : Bytes) :
    runUniq host ⟨target, some (uniqBy (lineKey ignoreCase) lines), stdin⟩ args =
      .success host ⟨target, none, stdin⟩ (uniqBy (lineKey ignoreCase) lines) := by
  have hkept : Text.AreLines (uniqBy (lineKey ignoreCase) lines) :=
    hlines.mono (uniqBy_sublist _ lines).subset
  rw [runUniq_of_contents h (Input.contents_piped hkept host target stdin), uniqBy_uniqBy]

end

end LineShell
