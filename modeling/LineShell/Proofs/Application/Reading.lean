import LineShell.Application.Run
import Mathlib.Tactic.Common

/-!
# How applications use their input

Taking the implicit input uses up what was piped, so an application that took it twice would go on
to its redirection, and then to standard input.  None does.

**One use.**  Once its arguments are known, an application leaves its input alone, or takes the
implicit input once and goes by what it was given (`Application.use_run`).  Either way it stays in
the working directory, `cd` apart.  This is the one place where the builtins are gone through.

**Pipes.**  Hence an application that is piped into looks at neither its redirection nor standard
input, and sees what is piped as lines only (`Application.run_piped`).

**Filters.**  `sort` and `uniq` have a flag and a file to read, either of which may be missing.
-/

namespace LineShell

/-! ## Builtins -/

/-- The use that an application makes of its input, once its arguments are known.  Only `cd` can
    leave the working directory. -/
inductive Builtin.Use (b : Builtin) (host : Host) (run : Input → Outcome) : Prop
  /-- It leaves the input alone. -/
  | never (o : Outcome) (stays : b ≠ .cd → o.cwd = host.cwd)
      (eq : ∀ input, run input = { o with input })
  /-- It takes the implicit input and goes by what it was given. -/
  | once (reply : Except AppError (List Text) → Outcome) (stays : ∀ r, (reply r).cwd = host.cwd)
      (eq : ∀ input, run input =
        { reply (input.take host).1 with input := (input.take host).2 })

namespace Builtin

variable {b : Builtin} {host : Host}

lemma use_fail (e : AppError) : b.Use host fun input => .fail host input e :=
  .never (.fail host {} e) (fun _ => rfl) fun _ => rfl

lemma use_success (output : List Text) : b.Use host fun input => .success host input output :=
  .never (.success host {} output) (fun _ => rfl) fun _ => rfl

lemma use_ofExcept (r : Except AppError (List Text)) :
    b.Use host fun input => .ofExcept host input r := by
  cases r with
  | error e => exact use_fail e
  | ok output => exact use_success output

lemma use_ite {p : Prop} [Decidable p] {run run' : Input → Outcome} (h : b.Use host run)
    (h' : b.Use host run') : b.Use host fun input => if p then run input else run' input := by
  by_cases hp : p
  · simpa only [if_pos hp] using h
  · simpa only [if_neg hp] using h'

lemma use_filterInput (file : Option Text) (f : List Text → List Text) :
    b.Use host fun input => filterInput host input file f := by
  cases file with
  | some path =>
      simp only [filterInput, Input.contents]
      cases readFiles host [path] with
      | error e => exact use_fail e
      | ok lines => exact use_success (f lines)
  | none =>
      refine .once (fun r => .ofExcept host {} (r.map f)) ?_ ?_
      · intro r
        cases r <;> rfl
      · intro input
        simp only [filterInput, Input.contents]
        obtain ⟨r, left⟩ := input.take host
        cases r <;> rfl

variable (host) (args : List Text)

lemma use_runCat : cat.Use host fun input => runCat host input args := by
  simp only [runCat]
  exact use_ite (use_filterInput none id) (use_ofExcept (readFiles host args))

lemma use_runHead : head.Use host fun input => runHead host input args := by
  simp only [runHead]
  cases countAndFile .head args with
  | error e => exact use_fail e
  | ok x => exact use_filterInput x.2 (List.take x.1)

lemma use_runTail : tail.Use host fun input => runTail host input args := by
  simp only [runTail]
  cases countAndFile .tail args with
  | error e => exact use_fail e
  | ok x => exact use_filterInput x.2 (lastLines x.1)

lemma use_runSort : sort.Use host fun input => runSort host input args := by
  simp only [runSort]
  cases flagAndFile .sort "-r".toList args with
  | error e => exact use_fail e
  | ok x => exact use_filterInput x.2 _

lemma use_runUniq : uniq.Use host fun input => runUniq host input args := by
  simp only [runUniq]
  cases flagAndFile .uniq "-i".toList args with
  | error e => exact use_fail e
  | ok x => exact use_filterInput x.2 (uniqBy (lineKey x.1))

lemma use_runCut : cut.Use host fun input => runCut host input args := by
  rcases args with _ | ⟨flag, _ | ⟨list, _ | ⟨file, _ | ⟨_, _⟩⟩⟩⟩ <;> simp only [runCut]
  case nil | cons.nil | cons.cons.cons.cons => exact use_fail _
  case cons.cons.nil | cons.cons.cons.nil =>
    refine use_ite ?_ (use_fail _)
    cases parseRanges? list with
    | none => exact use_fail _
    | some ranges => exact use_filterInput _ _

lemma use_runGrep : grep.Use host fun input => runGrep host input args := by
  cases args with
  | nil => exact use_fail _
  | cons pattern files =>
      simp only [runGrep]
      cases Regex.Program.parse pattern with
      | error e => exact use_fail _
      | ok program =>
          refine use_ite (use_filterInput none _) ?_
          cases expandArguments host files with
          | error e => exact use_fail e
          | ok paths =>
              -- what was found before a failure is written, the input is as it was
              let found := grepFiles host (matchesLine program) (paths.length > 1) paths
              exact .never ⟨found.1, found.2, {}, host.cwd, []⟩ (fun _ => rfl) fun _ => rfl

lemma use_runEcho : echo.Use host fun input => runEcho host input args := by
  simp only [runEcho]
  refine use_ite ?_ (use_success _)
  cases expandArguments host (Text.words (Text.join [' '] args)) with
  | error e => exact use_fail e
  | ok words => exact use_success _

lemma use_runCd : cd.Use host fun input => runCd host input args := by
  rcases args with _ | ⟨arg, _ | ⟨_, _⟩⟩
  case nil | cons.cons => exact use_fail _
  simp only [runCd]
  cases host.files.directoryAt host.cwd (Text.expandHome host.home arg) with
  | error e => exact use_fail _
  | ok place => exact .never { input := {}, cwd := place } (fun h => (h rfl).elim) fun _ => rfl

lemma use_runPwd : pwd.Use host fun input => runPwd host input args := by
  simp only [runPwd]
  refine use_ite ?_ (use_fail _)
  cases host.directory? with
  | none => exact use_fail _
  | some path => exact use_success _

lemma use_runLs : ls.Use host fun input => runLs host input args := by
  have hlist : ∀ target : Text, ls.Use host fun input => runLs host input [target] := by
    intro target
    simp only [runLs]
    refine use_ite (use_ofExcept _) ?_
    cases host.files.list host.cwd target with
    | error e => exact use_fail _
    | ok entries => exact use_success _
  rcases args with _ | ⟨target, _ | ⟨_, _⟩⟩
  · exact hlist ['.']
  · exact hlist target
  · exact use_fail _

lemma use_runFind : find.Use host fun input => runFind host input args := by
  have hsearch : ∀ root flag pattern : Text, find.Use host fun input =>
      runFind host input [root, flag, pattern] := by
    intro root flag pattern
    simp only [runFind]
    refine use_ite ?_ (use_fail _)
    cases Glob.Pattern.parse pattern with
    | error e => exact use_fail _
    | ok pattern => exact use_ofExcept _
  rcases args with _ | ⟨first, _ | ⟨second, _ | ⟨third, _ | ⟨_, _⟩⟩⟩⟩
  case nil | cons.nil | cons.cons.cons.cons => exact use_fail _
  · exact hsearch ['.'] first second
  · exact hsearch first second third

lemma use_run (b : Builtin) : b.Use host fun input => b.run host input args := by
  cases b with
  | cd => exact use_runCd host args
  | pwd => exact use_runPwd host args
  | ls => exact use_runLs host args
  | find => exact use_runFind host args
  | echo => exact use_runEcho host args
  | cat => exact use_runCat host args
  | head => exact use_runHead host args
  | tail => exact use_runTail host args
  | grep => exact use_runGrep host args
  | sort => exact use_runSort host args
  | uniq => exact use_runUniq host args
  | cut => exact use_runCut host args
  | help => exact use_success _

end Builtin

/-! ## Applications -/

namespace Application

/-- The builtin that an application runs in the end. -/
def builtin : Application → Builtin
  | plain b => b
  | tolerant inner => inner.builtin

end Application

/-- The outcome with its failure printed. -/
def Outcome.tolerated (o : Outcome) : Outcome :=
  match o.failure with
  | none => o
  | some e =>
    { o with
      output := o.output ++ [Application.failureLine e]
      failure := none
      suppressed := o.suppressed ++ [e] }

namespace Outcome

lemma cwd_tolerated (o : Outcome) : o.tolerated.cwd = o.cwd := by
  simp only [tolerated]
  cases o.failure <;> rfl

lemma tolerated_input (o : Outcome) (input : Input) :
    ({ o with input } : Outcome).tolerated = { o.tolerated with input } := by
  obtain ⟨output, failure, input', cwd, suppressed⟩ := o
  cases failure <;> rfl

end Outcome

namespace Application

variable (host : Host) (args : List Text)

/-- **An application takes its input once, if at all.** -/
theorem use_run (app : Application) :
    app.builtin.Use host fun input => app.run host input args := by
  induction app with
  | plain b => exact b.use_run host args
  | tolerant inner ih =>
      -- printing a failure looks at what was written only
      have htolerant : ∀ input, run host input args (tolerant inner) =
          (run host input args inner).tolerated := fun _ => rfl
      rcases ih with ⟨o, stays, eq⟩ | ⟨reply, stays, eq⟩
      · refine .never o.tolerated (fun h => ?_) fun input => ?_
        · rw [Outcome.cwd_tolerated, stays h]
        · rw [htolerant, eq, Outcome.tolerated_input]
      · refine .once (fun r => (reply r).tolerated) (fun r => ?_) fun input => ?_
        · rw [Outcome.cwd_tolerated, stays]
        · rw [htolerant, eq, Outcome.tolerated_input]

/-- Only `cd` leaves the working directory, in any of its forms. -/
lemma cwd_run {app : Application} (h : app.builtin ≠ .cd) (input : Input) :
    (app.run host input args).cwd = host.cwd := by
  rcases app.use_run host args with ⟨o, stays, eq⟩ | ⟨reply, stays, eq⟩
  · rw [eq]
    exact stays h
  · rw [eq]
    exact stays _

/-- **An application that is piped into** goes by the lines of what is piped: what it does is
    settled by them, and its redirection and standard input are as they were. -/
theorem run_piped (app : Application) :
    ∃ (reply : List Text → Outcome) (left : List Text → Option (List Text)),
      ∀ (target : Option InputTarget) (fragments : List Text) (stdin : Bytes),
        app.run host ⟨target, some fragments, stdin⟩ args =
          { reply (Text.splitLines fragments.flatten) with
            input := ⟨target, left fragments, stdin⟩ } := by
  rcases app.use_run host args with ⟨o, _, eq⟩ | ⟨reply, _, eq⟩
  · exact ⟨fun _ => o, some, fun _ _ _ => eq _⟩
  · exact ⟨fun lines => reply (.ok lines), fun _ => none, fun _ _ _ => eq _⟩

end Application

/-! ## Filters -/

/-- Without the flag there is a file or none; a file of the flag's name is not meant. -/
lemma flagAndFile_toList (app : Builtin) {flag : Text} {file : Option Text}
    (h : file ≠ some flag) : flagAndFile app flag file.toList = .ok (false, file) := by
  cases file with
  | none => rfl
  | some path => simpa [flagAndFile] using h

lemma flagAndFile_cons_toList (app : Builtin) (flag : Text) (file : Option Text) :
    flagAndFile app flag (flag :: file.toList) = .ok (true, file) := by
  cases file <;> simp [flagAndFile]

lemma filterInput_of_contents {host : Host} {input left : Input} {file : Option Text}
    {lines : List Text} (h : input.contents host file = (.ok lines, left))
    (f : List Text → List Text) : filterInput host input file f = .success host left (f lines) := by
  simp only [filterInput, h]

end LineShell
