import LineShell.Proofs.Application.Repetition
import LineShell.Proofs.Shell.Echo
import LineShell.Proofs.Shell.Pipelines
import Mathlib

/-!
# Filters in pipelines

**Calls.**  A call that substitutes nothing runs the application that its first word names, with
its other words as arguments (`Command.effect_exec_of_issues`).

**Handing on.**  A filter writes lines, and what a stage reads of them are the same lines again.  So
two filters in a pipeline do to lines what they do one after the other (`Command.effect_filters`):
`sort | uniq` keeps every line once, and a second `uniq` has nothing to do.
-/

namespace LineShell

/-! ## Words of a command line -/

lemma Text.firstWord_eq (s : Text) :
    firstWord s = (s.takeWhile (!isBlank ·), words (s.dropWhile (!isBlank ·))) := by
  induction s with
  | nil => rfl
  | cons c cs ih =>
      cases hc : isBlank c with
      | true => simp [firstWord_cons_of_blank hc, hc, words_cons_of_blank hc]
      | false => simp [firstWord_cons_of_not_blank hc, hc, ih]

/-- The first word is the name, and the others are the words behind it. -/
lemma splitCommand_of_words {cmdline name : Text} {args : List Text}
    (h : Text.words cmdline = name :: args) :
    (splitCommand cmdline).1 = name ∧ name ≠ [] ∧
      Text.words (splitCommand cmdline).2 = args := by
  rw [← Text.words_trimStart] at h
  simp only [splitCommand]
  have hhead : ∀ c ∈ (Text.trimStart cmdline).head?, isBlank c = false := by
    intro c hc
    exact Text.head?_dropWhile_isBlank cmdline c hc
  generalize Text.trimStart cmdline = line at h hhead
  cases line with
  | nil => cases h
  | cons c cs =>
      have hc := hhead c rfl
      rw [Text.words_cons_of_not_blank hc, List.cons.injEq, Text.firstWord_eq] at h
      obtain ⟨rfl, rfl⟩ := h
      simp [hc]

/-! ## Calls -/

/-- The call is made up of these words; it substitutes nothing, and only its input is
    redirected. -/
structure Call.Issues (k : Call Command) (words : List Text) (target : Option InputTarget) :
    Prop where
  literal : k.substitution = none ∨ k.disqualified = true
  words_eq : Text.words k.text = words
  streams_eq : splitRedirections k.redirections = .ok { input := target }

/-- What a call does that runs an application. -/
def Outcome.effect (name : Text) (host : Host) (o : Outcome) : Effect where
  result := o.failure.elim (.ok ()) fun e => .error (.application name e)
  output := ⟨o.output⟩
  host := { host with cwd := o.cwd }
  stdin := o.input.stdin

namespace Command

variable {registry : Registry} {run : Text → Shell → Run} {k k' : Call Command}
  {name name' : Text} {args args' : List Text} {app app' : Application}
  {target target' : Option InputTarget}

/-- A call does what the application of its first word does with the others. -/
lemma effect_exec_of_issues (hk : k.Issues (name :: args) target)
    (happ : registry.get? name = some app) (hraw : app.isRaw = false)
    (piped : Option (List Text)) (shell : Shell) :
    (exec registry run (.call k) piped shell).effect =
      (app.run shell.host ⟨target, piped, shell.stdin⟩ args).effect name shell.host := by
  obtain ⟨hname, hne, hargs⟩ := splitCommand_of_words hk.words_eq
  rw [exec_of_literal hk.literal, hk.streams_eq]
  simp only [dispatchCall, dispatch, runApplication, hname, hne, happ, hraw, arguments, hargs,
    Run.effect, Outcome.effect, Channel.append, List.isEmpty_iff, List.nil_append,
    Bool.false_eq_true, if_false]
  cases (app.run shell.host ⟨target, piped, shell.stdin⟩ args).failure <;> rfl

/-- **Two calls in a pipeline.**  If the first fails nothing is written; else the second reads what
    it has written, from where it has left the machine and standard input. -/
lemma effect_filters (hk : k.Issues (name :: args) target)
    (hk' : k'.Issues (name' :: args') target') (happ : registry.get? name = some app)
    (happ' : registry.get? name' = some app') (hraw : app.isRaw = false)
    (hraw' : app'.isRaw = false) (piped : Option (List Text)) (shell : Shell) :
    let o := app.run shell.host ⟨target, piped, shell.stdin⟩ args
    let host := { shell.host with cwd := o.cwd }
    (exec registry run (.pipeline [.call k, .call k']) piped shell).effect =
      match o.failure with
      | some e => ⟨.error (.application name e), {}, host, o.input.stdin⟩
      | none =>
        (app'.run host ⟨target', some o.output, o.input.stdin⟩ args').effect name' host := by
  intro o host
  have hfirst : (exec registry run (.call k) piped shell).effect = o.effect name shell.host :=
    effect_exec_of_issues hk happ hraw piped shell
  rw [exec, execStages_cons (List.cons_ne_nil _ _)]
  generalize exec registry run (.call k) piped shell = r at hfirst
  obtain ⟨result, output, after⟩ := r
  simp only [Run.effect, Outcome.effect, Effect.mk.injEq] at hfirst
  obtain ⟨rfl, rfl, hhost, hstdin⟩ := hfirst
  cases o.failure with
  | some e => simp [Run.feed, Run.fail, Run.effect, host, hhost, hstdin]
  | none =>
      simp only [Run.feed, Option.elim_none]
      rw [execStages, effect_exec_of_issues hk' happ' hraw', hhost, hstdin]

/-! ## `sort | uniq` -/

lemma effect_sort_uniq (hsort : registry.get? "sort".toList = some (.plain .sort))
    (huniq : registry.get? "uniq".toList = some (.plain .uniq)) {file : Option Text}
    (hfile : file ≠ some "-r".toList) (hk : k.Issues ("sort".toList :: file.toList) target)
    (hk' : k'.Issues ["uniq".toList] target') {piped : Option (List Text)} {shell : Shell}
    {lines : List Text} {left : Input}
    (hread : Input.contents shell.host ⟨target, piped, shell.stdin⟩ file = (.ok lines, left)) :
    (exec registry run (.pipeline [.call k, .call k']) piped shell).effect =
      ⟨.ok (), ⟨uniqBy (lineKey false) (sortLines lines)⟩, shell.host, left.stdin⟩ := by
  have hfirst : Application.run shell.host ⟨target, piped, shell.stdin⟩ file.toList (.plain .sort) =
      .success shell.host left (sortLines lines) := runSort_of_contents hread hfile
  -- what `sort` writes are lines, and they are read again as they are
  have hsorted : Text.AreLines (sortLines lines) :=
    (Input.areLines_contents (by rw [hread])).mono (Text.perm_sort lines).subset
  have hflag : flagAndFile .uniq "-i".toList [] = .ok (false, none) := rfl
  have hsecond := runUniq_of_contents hflag
    (Input.contents_piped hsorted shell.host target' left.stdin)
  rw [effect_filters hk hk' hsort huniq rfl rfl, hfirst]
  exact congrArg (Outcome.effect "uniq".toList shell.host) hsecond

/-! ## `uniq | uniq` -/

/-- A second `uniq` has nothing to do, also if the first one fails. -/
lemma effect_uniq_uniq (huniq : registry.get? "uniq".toList = some (.plain .uniq))
    {ignoreCase : Bool} {file : Option Text}
    (hargs : flagAndFile .uniq "-i".toList args = .ok (ignoreCase, file))
    (hargs' : flagAndFile .uniq "-i".toList args' = .ok (ignoreCase, none))
    (hk : k.Issues ("uniq".toList :: args) target)
    (hk' : k'.Issues ("uniq".toList :: args') target') (piped : Option (List Text))
    (shell : Shell) :
    (exec registry run (.pipeline [.call k, .call k']) piped shell).effect =
      (exec registry run (.call k) piped shell).effect := by
  rw [effect_filters hk hk' huniq huniq rfl rfl, effect_exec_of_issues hk huniq rfl]
  have hfirst : Application.run shell.host ⟨target, piped, shell.stdin⟩ args (.plain .uniq) =
      filterInput shell.host ⟨target, piped, shell.stdin⟩ file (uniqBy (lineKey ignoreCase)) :=
    runUniq_eq hargs
  rw [hfirst]
  cases hread : Input.contents shell.host ⟨target, piped, shell.stdin⟩ file with
  | mk r left =>
      cases r with
      | error e =>
          simp only [filterInput, hread]
          rfl
      | ok lines =>
          have hlines : Text.AreLines lines := Input.areLines_contents (by rw [hread])
          have hsecond := runUniq_kept hargs' hlines shell.host target' left.stdin
          rw [filterInput_of_contents hread]
          -- the two read from elsewhere, which no effect shows
          exact (congrArg (Outcome.effect "uniq".toList shell.host) hsecond).trans rfl

end Command

namespace Shell

/-- **`sort | uniq` keeps every line once.**  Whatever `sort` has read, the pipeline writes its
    lines in the order of their bytes and each of them once.  What it writes depends on what the
    lines are, not on how often and in which order they stand. -/
theorem sort_uniq_distinct (lines : List Text) :
    ∃ distinct : List Text,
      (∀ l, l ∈ distinct ↔ l ∈ lines) ∧ distinct.Nodup ∧
      distinct.Pairwise (fun l l' => Utf8.encode l < Utf8.encode l') ∧
      ∀ (registry : Registry) (lines' : List Text) (left : Input) (out : Channel) (shell : Shell),
        registry.get? "sort".toList = some (.plain .sort) →
        registry.get? "uniq".toList = some (.plain .uniq) →
        (∀ l, l ∈ lines' ↔ l ∈ lines) →
        (∀ (k k' : Call Command) (file : Option Text) (target target' : Option InputTarget)
            (piped : Option (List Text)), file ≠ some "-r".toList →
          k.Issues ("sort".toList :: file.toList) target → k'.Issues ["uniq".toList] target' →
          Input.contents shell.host ⟨target, piped, shell.stdin⟩ file = (.ok lines', left) →
          (executePiped registry (.pipeline [.call k, .call k']) piped out shell).effect =
            ⟨.ok (), out.append ⟨distinct⟩, shell.host, left.stdin⟩) ∧
        (Input.contents shell.host { stdin := shell.stdin } none = (.ok lines', left) →
          (runLine registry "sort | uniq".toList out shell).effect =
            ⟨.ok (), out.append ⟨distinct⟩, shell.host, left.stdin⟩) := by
  have hincreasing := increasing_uniqBy_sortLines lines
  refine ⟨uniqBy (lineKey false) (sortLines lines), fun l => ?_, hincreasing.nodup, hincreasing, ?_⟩
  · rw [mem_uniqBy_iff]
    exact Text.mem_sort
  · intro registry lines' left out shell hsort huniq hsame
    rw [← uniqBy_sortLines_congr hsame]
    refine ⟨fun k k' file target target' piped hfile hk hk' hread => ?_, fun hread => ?_⟩
    · exact Run.effect_behind_eq (Command.effect_sort_uniq hsort huniq hfile hk hk' hread) out
    · have hnode : Node.parse "sort | uniq".toList = .ok (.pipeline
          [.call [.literal "sort ".toList], .call [.literal " uniq".toList]]) := rfl
      have hline : Command.ofText "sort | uniq".toList = .ok (.pipeline
          [.call { text := "sort".toList }, .call { text := "uniq".toList }]) := by
        rw [Command.ofText_eq, hnode]
        rfl
      have hk : Call.Issues { text := "sort".toList } ["sort".toList] none := ⟨.inl rfl, rfl, rfl⟩
      have hk' : Call.Issues { text := "uniq".toList } ["uniq".toList] none := ⟨.inl rfl, rfl, rfl⟩
      rw [effect_runLine hline]
      exact Run.effect_behind_eq (Command.effect_sort_uniq hsort huniq (by simp) hk hk' hread) out

/-- The lines of standard input, the last one without its newline, and the same lines from a pipe
    in another order. -/
theorem sort_uniq_distinct_reordered :
    let registry : Registry := ⟨[("uniq".toList, .plain .uniq), ("sort".toList, .plain .sort)]⟩
    let sort : Call Command := { text := " sort ".toList }
    let uniq : Call Command := { text := "uniq".toList }
    let host : Host := ⟨{}, [], none⟩
    (runLine registry "sort | uniq".toList ⟨["x\n".toList]⟩
        ⟨host, Utf8.encode "b\na\nb".toList, []⟩).effect =
      ⟨.ok (), ⟨["x\n".toList, "a\n".toList, "b\n".toList]⟩, host, []⟩ ∧
    (executePiped registry (.pipeline [.call sort, .call uniq])
        (some ["a\nb".toList, "\na".toList]) {} ⟨host, [], []⟩).effect =
      ⟨.ok (), ⟨["a\n".toList, "b\n".toList]⟩, host, []⟩ := by
  intro registry sort uniq host
  obtain ⟨distinct, hmem, _, hincreasing, hrun⟩ :=
    sort_uniq_distinct ["a\n".toList, "b\n".toList]
  have hab : Text.Increasing ["a\n".toList, "b\n".toList] := by
    show List.Pairwise _ _
    decide
  obtain rfl : distinct = ["a\n".toList, "b\n".toList] := Text.Increasing.ext hincreasing hab hmem
  constructor
  · refine (hrun registry ["b\n".toList, "a\n".toList, "b\n".toList] {} _ _ rfl rfl ?_).2 rfl
    intro l
    simp only [List.mem_cons, List.not_mem_nil]
    tauto
  · refine (hrun registry ["a\n".toList, "b\n".toList, "a\n".toList] {} _ _ rfl rfl ?_).1 sort uniq
      none none none _ (by simp) ⟨.inl rfl, rfl, rfl⟩ ⟨.inl rfl, rfl, rfl⟩ rfl
    intro l
    simp only [List.mem_cons, List.not_mem_nil]
    tauto

/-- **`uniq` keeps the first line of every run.**  Whatever the key, the lines are cut into runs of
    equal keys that cannot be made longer, and the first line of each is kept: these are some of
    the lines in their order, no two in a row have equal keys, and dropping repetitions again
    changes nothing.  This is what `uniq` does to what it has read, with the line itself or its
    lower case for the key.  Given what it has written, it writes the same, and so does a second
    `uniq` in a pipeline. -/
theorem uniq_keeps_first_of_runs :
    (∀ (key : Text → Text) (lines : List Text), ∃ runs : List Repetition,
      IsRuns key runs lines ∧ uniqBy key lines = runs.map Repetition.first ∧
      (uniqBy key lines).Sublist lines ∧
      (uniqBy key lines).IsChain (fun l l' => key l ≠ key l') ∧
      uniqBy key (uniqBy key lines) = uniqBy key lines) ∧
    ∀ (args args' : List Text) (ignoreCase : Bool) (file : Option Text),
      flagAndFile .uniq "-i".toList args = .ok (ignoreCase, file) →
      flagAndFile .uniq "-i".toList args' = .ok (ignoreCase, none) →
      (∀ (host : Host) (input left : Input) (lines : List Text),
        input.contents host file = (.ok lines, left) →
        let kept := uniqBy (if ignoreCase then Unicode.lowercase else id) lines
        runUniq host input args = .success host left kept ∧
        ∀ (target : Option InputTarget) (stdin : Bytes),
          runUniq host ⟨target, some kept, stdin⟩ args' =
            .success host ⟨target, none, stdin⟩ kept) ∧
      ∀ (registry : Registry) (k k' : Call Command) (target target' : Option InputTarget)
          (piped : Option (List Text)) (out : Channel) (shell : Shell),
        registry.get? "uniq".toList = some (.plain .uniq) →
        k.Issues ("uniq".toList :: args) target → k'.Issues ("uniq".toList :: args') target' →
        (executePiped registry (.pipeline [.call k, .call k']) piped out shell).effect =
          (executePiped registry (.call k) piped out shell).effect := by
  refine ⟨fun key lines => ?_, fun args args' ignoreCase file hargs hargs' => ⟨?_, ?_⟩⟩
  · obtain ⟨runs, hruns, hfirst⟩ := exists_runs_uniqBy key lines
    exact ⟨runs, hruns, hfirst, uniqBy_sublist key lines, isChain_uniqBy key lines,
      uniqBy_uniqBy key lines⟩
  · intro host input left lines hread
    have hkey : (if ignoreCase then Unicode.lowercase else id) = lineKey ignoreCase := by
      cases ignoreCase <;> rfl
    have hlines : Text.AreLines lines := Input.areLines_contents (by rw [hread])
    rw [hkey]
    exact ⟨runUniq_of_contents hargs hread, runUniq_kept hargs' hlines host⟩
  · intro registry k k' target target' piped out shell huniq hk hk'
    exact Run.effect_behind (Command.effect_uniq_uniq huniq hargs hargs' hk hk' piped shell) out

/-- Lines that differ in case only, and one that comes again later. -/
theorem uniq_keeps_first_of_runs_folded :
    let registry : Registry := ⟨[("uniq".toList, .plain .uniq)]⟩
    let host : Host := ⟨{}, [], none⟩
    let lines := ["a\n".toList, "A\n".toList, "b\n".toList, "a\n".toList]
    let uniq : Call Command := { text := "uniq -i".toList }
    runUniq host { piped := some lines } ["-i".toList] =
      .success host {} ["a\n".toList, "b\n".toList, "a\n".toList] ∧
    (executePiped registry (.pipeline [.call uniq, .call uniq]) (some lines) {}
        ⟨host, [], []⟩).effect =
      (executePiped registry (.call uniq) (some lines) {} ⟨host, [], []⟩).effect := by
  intro registry host lines uniq
  obtain ⟨happ, hpipe⟩ :=
    uniq_keeps_first_of_runs.2 ["-i".toList] ["-i".toList] true none rfl rfl
  have hkept : uniqBy Unicode.lowercase lines = ["a\n".toList, "b\n".toList, "a\n".toList] := by cbv
  obtain ⟨hrun, _⟩ := happ host { piped := some lines } {} lines rfl
  rw [if_pos rfl, hkept] at hrun
  have huniq : uniq.Issues ["uniq".toList, "-i".toList] none := ⟨.inl rfl, rfl, rfl⟩
  exact ⟨hrun, hpipe registry uniq uniq none none (some lines) {} _ rfl huniq huniq⟩

end Shell

end LineShell
