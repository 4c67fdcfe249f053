import LineShell.Proofs.Application.Reading
import LineShell.Proofs.Shell.Dispatches
import LineShell.Proofs.Shell.Redirection
import Mathlib.Tactic.Common

/-!
# What a line leaves as it was

All that a line does to the machine, it does by dispatching calls of its schedule.  What each of
these keeps the line keeps, wherever it fails (`Dispatches.keeps`).

**Files.**  A dispatch changes files through the output redirection of its call alone.  Which
application it runs is not known beforehand, since a substitution can have computed its name; but
no application changes files.

**Working directory.**  A dispatch leaves the working directory if it runs some form of `cd`, and
not otherwise.
-/

namespace LineShell

/-- **What every dispatch keeps, a list of dispatches keeps.** -/
lemma Dispatches.keeps {registry : Registry} {P : Shell → Prop} {s s' : Shell}
    {ds : List (Call Command × Text)} (h : Dispatches registry s ds s')
    (hstep : ∀ k ∈ ds.map Prod.fst, ∀ streams, splitRedirections k.redirections = .ok streams →
      ∀ piped s cmdline, P s → P (dispatchCall registry streams piped s cmdline).shell)
    (hs : P s) : P s' := by
  induction h with
  | none s => exact hs
  | append _ _ ih ih' =>
      rw [List.map_append, List.forall_mem_append] at hstep
      exact ih' hstep.2 (ih hstep.1 hs)
  | text piped s _ hstreams => exact hstep _ (by simp) _ hstreams piped s _ hs
  | substituted piped _ _ hstreams _ _ _ ih =>
      rw [List.map_append, List.forall_mem_append] at hstep
      exact hstep.2 _ (by simp) _ hstreams piped _ _ (ih hstep.1 hs)

/-! ## Files -/

lemma Streams.output_add {s s' : Streams} {r : Redirection} (h : s.add r = .ok s')
    (hr : r.direction ≠ .output) : s'.output = s.output := by
  cases hd : r.direction with
  | output => exact (hr hd).elim
  | input =>
      simp only [Streams.add, hd] at h
      split_ifs at h
      cases h
      rfl

lemma Streams.output_foldlM {rs : List Redirection} (hrs : ∀ r ∈ rs, r.direction ≠ .output) :
    ∀ {s s' : Streams}, rs.foldlM Streams.add s = .ok s' → s'.output = s.output := by
  induction rs with
  | nil =>
      intro s s' h
      cases h
      rfl
  | cons r rs ih =>
      intro s s' h
      obtain ⟨hr, hrs⟩ := List.forall_mem_cons.mp hrs
      rw [List.foldlM_cons] at h
      obtain ⟨next, hnext, hrest⟩ := bind_eq_ok_iff.mp h
      rw [ih hrs hrest, output_add hnext hr]

lemma output_of_splitRedirections {rs : List Redirection} {streams : Streams}
    (h : splitRedirections rs = .ok streams) (hrs : ∀ r ∈ rs, r.direction ≠ .output) :
    streams.output = none :=
  Streams.output_foldlM hrs h

lemma files_dispatchCall {registry : Registry} {streams : Streams} (h : streams.output = none)
    (piped : Option (List Text)) (shell : Shell) (cmdline : Text) :
    (dispatchCall registry streams piped shell cmdline).shell.host.files = shell.host.files := by
  simp only [dispatchCall, dispatch, h]
  exact files_runApplication registry shell.host _ {} cmdline

/-! ## The working directory -/

/-- No application of the registry is a form of `cd`. -/
def Registry.WithoutCd (registry : Registry) : Prop :=
  ∀ name app, registry.get? name = some app → app.builtin ≠ .cd

lemma cwd_runApplication {registry : Registry} (h : registry.WithoutCd) (host : Host)
    (input : Input) (channel : Channel) (cmdline : Text) :
    (runApplication registry host input channel cmdline).host.cwd = host.cwd := by
  simp only [runApplication]
  split
  · rfl
  · split
    · rfl
    next app happ => exact Application.cwd_run host _ (h _ app happ) input

lemma cwd_dispatchCall {registry : Registry} (h : registry.WithoutCd) (streams : Streams)
    (piped : Option (List Text)) (shell : Shell) (cmdline : Text) :
    (dispatchCall registry streams piped shell cmdline).shell.host.cwd = shell.host.cwd := by
  simp only [dispatchCall, dispatch]
  split
  · exact cwd_runApplication h _ _ _ _
  next target _ =>
    rw [(writeOutput_keeps target _).2.2.1]
    exact cwd_runApplication h _ _ _ _

/-! ## Lines -/

namespace Shell

/-- What every dispatch of the calls of a line keeps, the line keeps. -/
lemma runText_keeps {registry : Registry} {P : Shell → Prop} {line : Text}
    (hnote : ∀ s notes, P s → P (s.note notes))
    (hstep : ∀ c, Command.ofText line = .ok c → ∀ k ∈ c.schedule, ∀ streams,
      splitRedirections k.redirections = .ok streams → ∀ piped s cmdline, P s →
        P (dispatchCall registry streams piped s cmdline).shell)
    {shell : Shell} (hs : P shell) : P (runText registry line shell).shell := by
  cases h : Command.ofText line with
  | error e =>
      rw [runText_of_error h]
      exact hnote shell _ hs
  | ok c =>
      have hfollows : (runText registry line shell).Follows registry
          (shell.note (.running line :: (Command.summaries line).map .assembled)) c.schedule := by
        rw [runText, h]
        exact (Command.resolved_of_ofText h).follows_exec none _
      obtain ⟨ds, hds, hfirst, _⟩ := hfollows
      exact hds.keeps (fun k hk => hstep c h k (hfirst.subset hk)) (hnote shell _ hs)

/-- **The frame of a line.**  A line none of whose calls, in substitutions or outside, sends its
    output to a file leaves all files as they were.  Any line leaves the working directory as it
    was, if no form of `cd` is registered.  Both hold however far the line gets and whatever its
    substitutions write. -/
theorem runLine_frame (registry : Registry) (line : Text) (out : Channel) (shell : Shell) :
    ((∀ c, Command.ofText line = .ok c →
        ∀ k ∈ c.schedule, ∀ r ∈ k.redirections, r.direction ≠ .output) →
      (runLine registry line out shell).shell.host.files = shell.host.files) ∧
    (registry.WithoutCd →
      (runLine registry line out shell).shell.host.cwd = shell.host.cwd) := by
  constructor
  · intro houtput
    refine runText_keeps (P := fun s => s.host.files = shell.host.files) (fun _ _ hs => hs)
      (fun c hc k hk streams hstreams piped s cmdline hs => ?_) rfl
    have hnone := output_of_splitRedirections hstreams (houtput c hc k hk)
    rw [files_dispatchCall hnone, hs]
  · intro hcd
    refine runText_keeps (P := fun s => s.host.cwd = shell.host.cwd) (fun _ _ hs => hs)
      (fun _ _ _ _ streams _ piped s cmdline hs => ?_) rfl
    rw [cwd_dispatchCall hcd, hs]

/-- The application is named by a substitution, and the line fails after it has run. -/
theorem runLine_frame_computed_name :
    let registry : Registry :=
      ⟨[("echo".toList, .plain .echo), ("cat".toList, .tolerant (.plain .cat))]⟩
    let files : FileSystem := ⟨[(["f".toList], .file (Utf8.encode "a\nb\n".toList))]⟩
    let r := runLine registry "`echo cat` f;nosuch".toList {} ⟨⟨files, [], none⟩, [], []⟩
    r.result = .error (.unknownApplication "nosuch".toList) ∧
      r.output.fragments = ["a\n".toList, "b\n".toList] ∧
      r.shell.host.files = files ∧ r.shell.host.cwd = [] := by
  intro registry files r
  have hline : Command.ofText "`echo cat` f;nosuch".toList = .ok (.sequence
      [.call ⟨"`echo cat` f".toList, [], some
          ⟨.parsed (.call ⟨"echo cat".toList, [], none, false⟩), [], " f".toList⟩, false⟩,
        .call ⟨"nosuch".toList, [], none, false⟩]) := by cbv
  have houtput : ∀ c, Command.ofText "`echo cat` f;nosuch".toList = .ok c →
      ∀ k ∈ c.schedule, ∀ x ∈ k.redirections, x.direction ≠ .output := by
    intro c hc
    rw [hline] at hc
    cases hc
    simp [Command.schedule, Command.scheduleAll]
  have hcd : registry.WithoutCd := by
    intro name app happ
    obtain ⟨before, after, happs, _⟩ := List.lookup_eq_some_iff.mp happ
    have hall : ∀ x ∈ registry.apps, x.2.builtin ≠ .cd := by decide
    exact hall (name, app) (by simp [happs])
  obtain ⟨hfiles, hcwd⟩ := runLine_frame registry "`echo cat` f;nosuch".toList {}
    ⟨⟨files, [], none⟩, [], []⟩
  exact ⟨by cbv, by cbv, hfiles houtput, hcwd hcd⟩

end Shell

end LineShell
