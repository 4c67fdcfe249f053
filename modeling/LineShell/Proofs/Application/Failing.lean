import LineShell.Shell.Dispatch
import Mathlib

/-!
# What failing applications leave behind

An application that fails may have read from its input, but what else does it leave?

**Nothing**, for every builtin but one: all that can fail is done before anything is written, and
a working directory that cannot be entered is not entered (`Outcome.Clean`).

**What has been found so far**, for `grep` with files: it writes as it reads, so the matches of the
files before the one that cannot be read are written (`exists_unreadable_of_grepFiles`).
-/

namespace LineShell

/-! ## Outcomes -/

namespace Outcome

/-- The machine and the channel after an application that was given them. -/
def leaves (o : Outcome) (host : Host) (out : Channel) : Host × Channel :=
  ({ host with cwd := o.cwd }, out.append ⟨o.output⟩)

/-- If it failed, nothing was written and the working directory is the old one. -/
def Clean (host : Host) (o : Outcome) : Prop :=
  ∀ e, o.failure = some e → o.output = [] ∧ o.cwd = host.cwd

variable {host : Host} {input : Input}

lemma clean_success (output : List Text) : (success host input output).Clean host := by
  intro e h
  cases h

lemma clean_fail (e : AppError) : (fail host input e).Clean host :=
  fun _ _ => ⟨rfl, rfl⟩

lemma clean_ofExcept (r : Except AppError (List Text)) : (ofExcept host input r).Clean host := by
  cases r with
  | error e => exact clean_fail e
  | ok output => exact clean_success output

/-- What is read is read to its end before anything is written. -/
lemma clean_filterInput (file : Option Text) (f : List Text → List Text) :
    (filterInput host input file f).Clean host := by
  simp only [filterInput]
  split
  · exact clean_success _
  · exact clean_fail _

lemma Clean.leaves_eq {o : Outcome} (h : o.Clean host) {e : AppError} (he : o.failure = some e)
    (out : Channel) : o.leaves host out = (host, out) := by
  obtain ⟨houtput, hcwd⟩ := h e he
  rw [leaves, houtput, hcwd, Channel.append, List.append_nil]

end Outcome

/-- What dispatching makes of the machine and the channel is what the application leaves. -/
lemma runApplication_leaves {registry : Registry} {cmdline name rest : Text} {app : Application}
    {args : List Text} (hname : splitCommand cmdline = (name, rest)) (hne : name ≠ [])
    (happ : registry.get? name = some app) (hargs : arguments app.isRaw rest = args)
    (host : Host) (input : Input) (out : Channel) :
    (runApplication registry host input out cmdline).host =
        ((app.run host input args).leaves host out).1 ∧
      (runApplication registry host input out cmdline).channel =
        ((app.run host input args).leaves host out).2 := by
  simp [runApplication, hname, hne, happ, hargs, Outcome.leaves]

/-! ## Builtins -/

section Builtins

open Outcome

variable (host : Host) (input : Input) (args : List Text)

lemma clean_runCd : (runCd host input args).Clean host := by
  rcases args with _ | ⟨arg, _ | ⟨_, _⟩⟩ <;> simp only [runCd]
  case nil | cons.cons => exact clean_fail _
  split
  · intro e h
    cases h
  · exact clean_fail _

lemma clean_runPwd : (runPwd host input args).Clean host := by
  simp only [runPwd]
  split_ifs
  · split
    · exact clean_success _
    · exact clean_fail _
  · exact clean_fail _

lemma clean_runLs : (runLs host input args).Clean host := by
  have hlist : ∀ target : Text, (runLs host input [target]).Clean host := by
    intro target
    simp only [runLs]
    split_ifs
    · exact clean_ofExcept _
    · split
      · exact clean_fail _
      · exact clean_success _
  rcases args with _ | ⟨target, _ | ⟨_, _⟩⟩
  · exact hlist ['.']
  · exact hlist target
  · exact clean_fail _

lemma clean_runFind : (runFind host input args).Clean host := by
  have hsearch : ∀ root flag pattern : Text,
      (runFind host input [root, flag, pattern]).Clean host := by
    intro root flag pattern
    simp only [runFind]
    split_ifs
    · split
      · exact clean_fail _
      · exact clean_ofExcept _
    · exact clean_fail _
  rcases args with _ | ⟨first, _ | ⟨second, _ | ⟨third, _ | ⟨_, _⟩⟩⟩⟩
  case nil | cons.nil | cons.cons.cons.cons => exact clean_fail _
  · exact hsearch ['.'] first second
  · exact hsearch first second third

lemma clean_runEcho : (runEcho host input args).Clean host := by
  simp only [runEcho]
  split_ifs
  · split
    · exact clean_fail _
    · exact clean_success _
  · exact clean_success _

lemma clean_runCat : (runCat host input args).Clean host := by
  simp only [runCat]
  split_ifs
  · exact clean_filterInput none id
  · exact clean_ofExcept _

lemma clean_runCut : (runCut host input args).Clean host := by
  rcases args with _ | ⟨flag, _ | ⟨list, _ | ⟨file, _ | ⟨_, _⟩⟩⟩⟩ <;> simp only [runCut]
  case nil | cons.nil | cons.cons.cons.cons => exact clean_fail _
  case cons.cons.nil | cons.cons.cons.nil =>
    split_ifs
    · cases parseRanges? list with
      | none => exact clean_fail _
      | some ranges => exact clean_filterInput _ _
    · exact clean_fail _

/-- **All that can fail comes first**, for every builtin that does not write as it reads. -/
lemma Builtin.clean_run {b : Builtin} (hb : b ≠ .grep) : (b.run host input args).Clean host := by
  cases b with
  | cd => exact clean_runCd host input args
  | pwd => exact clean_runPwd host input args
  | ls => exact clean_runLs host input args
  | find => exact clean_runFind host input args
  | echo => exact clean_runEcho host input args
  | cat => exact clean_runCat host input args
  | head =>
      simp only [run, runHead]
      split
      · exact clean_fail _
      · exact clean_filterInput _ _
  | tail =>
      simp only [run, runTail]
      split
      · exact clean_fail _
      · exact clean_filterInput _ _
  | grep => exact absurd rfl hb
  | sort =>
      simp only [run, runSort]
      split
      · exact clean_fail _
      · exact clean_filterInput _ _
  | uniq =>
      simp only [run, runUniq]
      split
      · exact clean_fail _
      · exact clean_filterInput _ _
  | cut => exact clean_runCut host input args
  | help => exact clean_success _

end Builtins

/-! ## Searching files -/

/-- The matching lines of a file, with its name before each if `named`.  A file that cannot be read
    has none. -/
def matchesIn (host : Host) (keep : Text → Bool) (named : Bool) (path : Text) : List Text :=
  match readFile host path with
  | .error _ => []
  | .ok lines => (lines.filter keep).map fun line => if named then path ++ ':' :: line else line

/-- The search fails at the first file that cannot be read, with the matches of those before it. -/
lemma exists_unreadable_of_grepFiles {host : Host} {keep : Text → Bool} {named : Bool}
    {paths : List Text} {e : AppError} (h : (grepFiles host keep named paths).2 = some e) :
    ∃ before bad after, paths = before ++ bad :: after ∧
      (∀ path ∈ before, ∃ lines, readFile host path = .ok lines) ∧
      readFile host bad = .error e ∧
      (grepFiles host keep named paths).1 = before.flatMap (matchesIn host keep named) := by
  induction paths with
  | nil => cases h
  | cons path rest ih =>
      rw [grepFiles] at h ⊢
      cases hread : readFile host path with
      | error e' =>
          rw [hread] at h
          obtain rfl : e' = e := Option.some.inj h
          exact ⟨[], path, rest, rfl, by simp, hread, rfl⟩
      | ok lines =>
          rw [hread] at h
          obtain ⟨before, bad, after, rfl, hbefore, hbad, hfound⟩ := ih h
          refine ⟨path :: before, bad, after, rfl, ?_, hbad, ?_⟩
          · exact List.forall_mem_cons.mpr ⟨⟨lines, hread⟩, hbefore⟩
          · rw [List.flatMap_cons, ← hfound, matchesIn, hread]

/-- The arguments of `grep` are a pattern that can be read and files that the paths stand for. -/
def SearchesFiles (host : Host) (args : List Text) (program : Regex.Program)
    (paths : List Text) : Prop :=
  ∃ pattern files, args = pattern :: files ∧ files ≠ [] ∧
    Regex.Program.parse pattern = .ok program ∧ expandArguments host files = .ok paths

section Grep

variable {host : Host} {input : Input} {args : List Text}

lemma runGrep_of_searchesFiles {program : Regex.Program} {paths : List Text}
    (h : SearchesFiles host args program paths) : runGrep host input args =
      { output := (grepFiles host (matchesLine program) (paths.length > 1) paths).1
        failure := (grepFiles host (matchesLine program) (paths.length > 1) paths).2
        input, cwd := host.cwd } := by
  obtain ⟨pattern, files, rfl, hne, hprogram, hpaths⟩ := h
  simp [runGrep, hprogram, hpaths, hne]

/-- With files to search, `grep` fails at one that cannot be read. -/
lemma leaves_runGrep {program : Regex.Program} {paths : List Text}
    (hsearch : SearchesFiles host args program paths) {e : AppError}
    (h : (runGrep host input args).failure = some e) (out : Channel) :
    ∃ before bad rest, paths = before ++ bad :: rest ∧
      (∀ path ∈ before, ∃ lines, readFile host path = .ok lines) ∧
      readFile host bad = .error e ∧
      (runGrep host input args).leaves host out = (host, out.append
        ⟨before.flatMap (matchesIn host (matchesLine program) (paths.length > 1))⟩) := by
  rw [runGrep_of_searchesFiles hsearch] at h ⊢
  obtain ⟨before, bad, rest, hpaths, hbefore, hbad, hfound⟩ := exists_unreadable_of_grepFiles h
  refine ⟨before, bad, rest, hpaths, hbefore, hbad, ?_⟩
  rw [Outcome.leaves, hfound]

/-- Without files to search, `grep` reads its input to its end before it writes. -/
lemma clean_runGrep (h : ∀ program paths, ¬ SearchesFiles host args program paths) :
    (runGrep host input args).Clean host := by
  cases args with
  | nil => exact Outcome.clean_fail _
  | cons pattern files =>
      simp only [runGrep]
      split
      · exact Outcome.clean_fail _
      next program hprogram =>
        split_ifs with hfiles
        · exact Outcome.clean_filterInput _ _
        · split
          · exact Outcome.clean_fail _
          next paths hpaths =>
            exact absurd ⟨pattern, files, rfl, by simpa using hfiles, hprogram, hpaths⟩
              (h program paths)

end Grep

/-- **A builtin that fails** leaves the machine as it was, and all but `grep` the channel as well.
    `grep` has then written the matches of the files before the first one that cannot be read, and
    nothing if it failed for another reason.  So it is for every command line that names it. -/
theorem Builtin.run_of_failure (b : Builtin) (host : Host) (input : Input) (args : List Text)
    (out : Channel) {e : AppError} (h : (b.run host input args).failure = some e) :
    let after := (b.run host input args).leaves host out
    after.1 = host ∧
    (b ≠ .grep → after.2 = out) ∧
    (b = .grep →
      (∀ program paths, SearchesFiles host args program paths →
        ∃ before bad rest, paths = before ++ bad :: rest ∧
          (∀ path ∈ before, ∃ lines, readFile host path = .ok lines) ∧
          readFile host bad = .error e ∧
          after.2 = out.append
            ⟨before.flatMap (matchesIn host (matchesLine program) (paths.length > 1))⟩) ∧
      ((∀ program paths, ¬ SearchesFiles host args program paths) → after.2 = out)) ∧
    ∀ (registry : Registry) (cmdline name rest : Text), splitCommand cmdline = (name, rest) →
      name ≠ [] → registry.get? name = some (.plain b) → arguments b.isRaw rest = args →
      (runApplication registry host input out cmdline).host = after.1 ∧
        (runApplication registry host input out cmdline).channel = after.2 := by
  intro after
  by_cases hb : b = .grep
  · subst hb
    have hclean : (∀ program paths, ¬ SearchesFiles host args program paths) →
        after = (host, out) := fun hnone => (clean_runGrep hnone).leaves_eq h out
    refine ⟨?_, fun hne => absurd rfl hne, fun _ => ⟨?_, fun hnone => by rw [hclean hnone]⟩,
      fun _ _ _ _ hname hne happ hargs => ?_⟩
    · by_cases hfiles : ∃ program paths, SearchesFiles host args program paths
      · obtain ⟨program, paths, hsearch⟩ := hfiles
        obtain ⟨_, _, _, _, _, _, hleaves⟩ := leaves_runGrep hsearch h out
        exact congrArg Prod.fst hleaves
      · simp only [not_exists] at hfiles
        rw [hclean hfiles]
    · intro program paths hsearch
      obtain ⟨before, bad, rest, hpaths, hbefore, hbad, hleaves⟩ := leaves_runGrep hsearch h out
      exact ⟨before, bad, rest, hpaths, hbefore, hbad, congrArg Prod.snd hleaves⟩
    · exact runApplication_leaves hname hne happ hargs host input out
  · have hclean : after = (host, out) := (clean_run host input args hb).leaves_eq h out
    refine ⟨by rw [hclean], fun _ => by rw [hclean], fun hgrep => absurd hgrep hb,
      fun _ _ _ _ hname hne happ hargs => ?_⟩
    exact runApplication_leaves hname hne happ hargs host input out

/-- The second of three files is missing: what was found in the first is written, with its name. -/
theorem Builtin.run_of_failure_grep :
    let host : Host := ⟨⟨[(["f".toList], .file (Utf8.encode "ab\ncd\nxa".toList)),
      (["g".toList], .file (Utf8.encode "a\n".toList))]⟩, [], none⟩
    let paths := ["f".toList, "none".toList, "g".toList]
    let o := grep.run host {} ("a".toList :: paths)
    let after := o.leaves host ⟨["x\n".toList]⟩
    after = (host, ⟨["x\n".toList, "f:ab\n".toList, "f:xa\n".toList]⟩) ∧
      ∃ program before bad rest, paths = before ++ bad :: rest ∧
        (∀ path ∈ before, ∃ lines, readFile host path = .ok lines) ∧
        readFile host bad = .error (.file "none".toList .notFound) ∧
        after.2 = Channel.append ⟨["x\n".toList]⟩
          ⟨before.flatMap (matchesIn host (matchesLine program) true)⟩ := by
  intro host paths o after
  have hfailure : o.failure = some (.file "none".toList .notFound) := by cbv
  have houtput : o.output = ["f:ab\n".toList, "f:xa\n".toList] := by cbv
  obtain ⟨program, hprogram⟩ : ∃ program, Regex.Program.parse "a".toList = .ok program := ⟨_, rfl⟩
  have hsearch : SearchesFiles host ("a".toList :: paths) program paths :=
    ⟨_, _, rfl, by decide, hprogram, rfl⟩
  obtain ⟨hhost, _, hgrep, _⟩ := run_of_failure .grep host {} _ ⟨["x\n".toList]⟩ hfailure
  refine ⟨Prod.ext hhost ?_, program, (hgrep rfl).1 program paths hsearch⟩
  show Channel.append ⟨["x\n".toList]⟩ ⟨o.output⟩ = _
  rw [houtput]
  rfl

end LineShell
