import LineShell.Proofs.Application.Repetition

/-!
# What applications write

An application writes whole lines.  Whatever it reads, every text that it writes ends in a newline,
also what it wrote before it failed, and the line that a tolerant form prints for the failure.

**Filters choose among lines**: what they have read are lines, so what they keep is terminated.
Only `cut` makes lines of its own, and ends them itself.
-/

namespace LineShell

/-! ## Terminated texts -/

namespace Text

/-- Every text of the list ends in a newline. -/
def Terminated (texts : List Text) : Prop := ∀ s ∈ texts, endsLine s = true

lemma endsLine_concat (s : Text) : endsLine (s ++ ['\n']) = true := by
  simp [endsLine]

lemma endsLine_append (s : Text) {t : Text} (h : endsLine t = true) :
    endsLine (s ++ t) = true := by
  simp only [endsLine, beq_iff_eq] at h ⊢
  rw [List.getLast?_append, h, Option.some_or]

lemma endsLine_terminated (s : Text) : endsLine (terminated s) = true := by
  unfold terminated
  split_ifs with h
  · exact h
  · exact endsLine_concat s

lemma terminated_nil : Terminated [] := by
  simp [Terminated]

lemma terminated_singleton {s : Text} (h : endsLine s = true) : Terminated [s] := by
  simpa [Terminated] using h

lemma terminated_map {α : Type} {f : α → Text} (hf : ∀ x, endsLine (f x) = true) (xs : List α) :
    Terminated (xs.map f) := by
  simp [Terminated, hf]

lemma AreLines.terminated {lines : List Text} (h : AreLines lines) : Terminated lines := by
  intro line hline
  obtain ⟨body, _, rfl⟩ := h line hline
  exact endsLine_concat body

namespace Terminated

variable {xs ys : List Text}

lemma append (hx : Terminated xs) (hy : Terminated ys) : Terminated (xs ++ ys) :=
  List.forall_mem_append.mpr ⟨hx, hy⟩

/-- What is chosen among lines is terminated. -/
lemma mono (h : Terminated xs) (hsub : ys ⊆ xs) : Terminated ys :=
  fun s hs => h s (hsub hs)

end Terminated

end Text

/-! ## Filters -/

lemma terminated_grepFiles {host : Host} {keep : Text → Bool} {named : Bool} :
    ∀ paths : List Text, Text.Terminated (grepFiles host keep named paths).1
  | [] => Text.terminated_nil
  | path :: rest => by
      simp only [grepFiles]
      split
      · exact Text.terminated_nil
      next lines hlines =>
        refine Text.Terminated.append ?_ (terminated_grepFiles rest)
        intro found hfound
        obtain ⟨line, hline, rfl⟩ := List.mem_map.mp hfound
        have hends := (areLines_readFile hlines).terminated line (List.mem_filter.mp hline).1
        split_ifs
        -- the name stands before the line and leaves its end alone
        · rw [← List.singleton_append]
          exact Text.endsLine_append _ (Text.endsLine_append _ hends)
        · exact hends

/-! ## Builtins -/

section Builtins

variable (host : Host) (input : Input)

lemma terminated_filterInput (file : Option Text) {f : List Text → List Text}
    (hf : ∀ lines, Text.Terminated lines → Text.Terminated (f lines)) :
    Text.Terminated (filterInput host input file f).output := by
  simp only [filterInput]
  split
  next lines left hlines =>
    exact hf lines ((Input.areLines_contents (by rw [hlines])).terminated)
  · exact Text.terminated_nil

lemma terminated_filterInput_of_subset (file : Option Text) {f : List Text → List Text}
    (hf : ∀ lines, f lines ⊆ lines) :
    Text.Terminated (filterInput host input file f).output :=
  terminated_filterInput host input file fun lines h => h.mono (hf lines)

variable (args : List Text)

lemma terminated_runCat : Text.Terminated (runCat host input args).output := by
  simp only [runCat]
  split_ifs
  · exact terminated_filterInput_of_subset host input none fun _ => List.Subset.refl _
  · cases h : readFiles host args with
    | error e => exact Text.terminated_nil
    | ok lines => exact (areLines_readFiles h).terminated

lemma terminated_runHead : Text.Terminated (runHead host input args).output := by
  simp only [runHead]
  split
  · exact Text.terminated_nil
  · exact terminated_filterInput_of_subset host input _ fun lines => List.take_subset _ lines

lemma terminated_runTail : Text.Terminated (runTail host input args).output := by
  simp only [runTail]
  split
  · exact Text.terminated_nil
  · exact terminated_filterInput_of_subset host input _ fun lines => List.drop_subset _ lines

lemma terminated_runSort : Text.Terminated (runSort host input args).output := by
  simp only [runSort]
  split
  · exact Text.terminated_nil
  · refine terminated_filterInput_of_subset host input _ fun lines => ?_
    have hsorted : sortLines lines ⊆ lines := (Text.perm_sort lines).subset
    split_ifs
    · exact List.reverse_subset.mpr hsorted
    · exact hsorted

lemma terminated_runUniq : Text.Terminated (runUniq host input args).output := by
  simp only [runUniq]
  split
  · exact Text.terminated_nil
  · exact terminated_filterInput_of_subset host input _ fun lines =>
      (uniqBy_sublist _ lines).subset

lemma terminated_runCut : Text.Terminated (runCut host input args).output := by
  rcases args with _ | ⟨flag, _ | ⟨list, _ | ⟨file, _ | ⟨_, _⟩⟩⟩⟩ <;> simp only [runCut]
  case nil | cons.nil | cons.cons.cons.cons => exact Text.terminated_nil
  case cons.cons.nil | cons.cons.cons.nil =>
    split_ifs
    · cases parseRanges? list with
      | none => exact Text.terminated_nil
      | some ranges =>
          exact terminated_filterInput host input _ fun lines _ =>
            Text.terminated_map (fun _ => Text.endsLine_terminated _) lines
    · exact Text.terminated_nil

lemma terminated_runGrep : Text.Terminated (runGrep host input args).output := by
  cases args with
  | nil => exact Text.terminated_nil
  | cons pattern files =>
      simp only [runGrep]
      split
      · exact Text.terminated_nil
      · split_ifs
        · exact terminated_filterInput_of_subset host input none fun _ =>
            List.filter_sublist.subset
        · split
          · exact Text.terminated_nil
          · exact terminated_grepFiles _

lemma terminated_runEcho : Text.Terminated (runEcho host input args).output := by
  simp only [runEcho]
  split_ifs
  · split
    · exact Text.terminated_nil
    · exact Text.terminated_singleton (Text.endsLine_concat _)
  · exact Text.terminated_singleton (Text.endsLine_concat _)

lemma terminated_runCd : Text.Terminated (runCd host input args).output := by
  rcases args with _ | ⟨arg, _ | ⟨_, _⟩⟩ <;> simp only [runCd]
  case nil | cons.cons => exact Text.terminated_nil
  split <;> exact Text.terminated_nil

lemma terminated_runPwd : Text.Terminated (runPwd host input args).output := by
  simp only [runPwd]
  split_ifs
  · split
    · exact Text.terminated_singleton (Text.endsLine_terminated _)
    · exact Text.terminated_nil
  · exact Text.terminated_nil

lemma terminated_runLs : Text.Terminated (runLs host input args).output := by
  have hlist : ∀ target : Text, Text.Terminated (runLs host input [target]).output := by
    intro target
    simp only [runLs]
    split_ifs
    · cases expandArgument host target with
      | error e => exact Text.terminated_nil
      | ok paths => exact Text.terminated_map Text.endsLine_terminated paths
    · split
      · exact Text.terminated_nil
      · exact Text.terminated_map Text.endsLine_terminated _
  rcases args with _ | ⟨target, _ | ⟨_, _⟩⟩
  · exact hlist ['.']
  · exact hlist target
  · exact Text.terminated_nil

lemma terminated_runFind : Text.Terminated (runFind host input args).output := by
  have hsearch : ∀ root flag pattern : Text,
      Text.Terminated (runFind host input [root, flag, pattern]).output := by
    intro root flag pattern
    simp only [runFind]
    split_ifs
    · split
      · exact Text.terminated_nil
      next pattern _ =>
        cases findBelow host pattern.matches (host.files.depth + 1) root with
        | error e => exact Text.terminated_nil
        | ok found => exact Text.terminated_map Text.endsLine_terminated _
    · exact Text.terminated_nil
  rcases args with _ | ⟨first, _ | ⟨second, _ | ⟨third, _ | ⟨_, _⟩⟩⟩⟩
  case nil | cons.nil | cons.cons.cons.cons => exact Text.terminated_nil
  · exact hsearch ['.'] first second
  · exact hsearch first second third

lemma Builtin.terminated_run (b : Builtin) : Text.Terminated (b.run host input args).output := by
  cases b with
  | cd => exact terminated_runCd host input args
  | pwd => exact terminated_runPwd host input args
  | ls => exact terminated_runLs host input args
  | find => exact terminated_runFind host input args
  | echo => exact terminated_runEcho host input args
  | cat => exact terminated_runCat host input args
  | head => exact terminated_runHead host input args
  | tail => exact terminated_runTail host input args
  | grep => exact terminated_runGrep host input args
  | sort => exact terminated_runSort host input args
  | uniq => exact terminated_runUniq host input args
  | cut => exact terminated_runCut host input args
  | help => exact Text.terminated_map Text.endsLine_terminated helpLines

/-- **An application writes whole lines**, whether it fails or not. -/
theorem Application.terminated_run (app : Application) :
    Text.Terminated (app.run host input args).output := by
  induction app with
  | plain b => exact b.terminated_run host input args
  | tolerant inner ih =>
      simp only [run]
      split
      · exact ih
      · exact ih.append (Text.terminated_singleton (Text.endsLine_terminated _))

end Builtins

end LineShell
