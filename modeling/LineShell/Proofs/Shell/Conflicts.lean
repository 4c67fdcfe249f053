import LineShell.Proofs.Shell.Channels
import Mathlib.Tactic.Common

/-!
# Redirections that conflict

A call takes its input from one place at most, and sends its output to one at most.

**Splitting.**  The redirections of a call split into streams just when there is one of each
direction at most, in any order, and the streams are then these (`splitRedirections_eq_ok_iff`).
Otherwise a direction is reported that has two.

**Nothing happens before.**  A call splits its redirections before all else.  If they conflict, its
substitution does not run, nothing is dispatched, and no file is opened.
-/

namespace LineShell

/-! ## Splitting -/

namespace Redirection

/-- The redirections of one direction, in order. -/
def toward (direction : Direction) (rs : List Redirection) : List Redirection :=
  rs.filter fun r => r.direction = direction

/-- Where a redirection takes the input from. -/
def inputTarget (r : Redirection) : InputTarget := ⟨r.filename, r.mode = .heredoc⟩

/-- Where a redirection sends the output to. -/
def outputTarget (r : Redirection) : OutputTarget := ⟨r.filename, r.mode = .append⟩

variable {r : Redirection} {direction : Direction}

lemma toward_cons_of_eq (h : r.direction = direction) (rs : List Redirection) :
    toward direction (r :: rs) = r :: toward direction rs := by
  simp [toward, h]

lemma toward_cons_of_ne (h : r.direction ≠ direction) (rs : List Redirection) :
    toward direction (r :: rs) = toward direction rs := by
  simp [toward, h]

end Redirection

namespace Streams

/-- How many targets there are in a direction. -/
def count (s : Streams) : Direction → Nat
  | .input => s.input.toList.length
  | .output => s.output.toList.length

/-- What one redirection does: it fills its direction if that is free, and leaves the other one
    alone. -/
lemma add_eq_ok_iff {s s' : Streams} {r : Redirection} :
    s.add r = .ok s' ↔
      (r.direction = .input ∧ s.input = none ∧ s' = { s with input := some r.inputTarget }) ∨
      (r.direction = .output ∧ s.output = none ∧
        s' = { s with output := some r.outputTarget }) := by
  cases hd : r.direction with
  | input =>
      cases hs : s.input <;> simp [add, hd, hs, Redirection.inputTarget, eq_comm]
  | output =>
      cases hs : s.output <;> simp [add, hd, hs, Redirection.outputTarget, eq_comm]

lemma add_eq_error {s : Streams} {r : Redirection} {direction : Direction}
    (h : s.add r = .error direction) : r.direction = direction ∧ s.count direction = 1 := by
  cases hd : r.direction with
  | input =>
      cases hs : s.input <;> simp [add, hd, hs] at h
      subst h
      simp [count, hs]
  | output =>
      cases hs : s.output <;> simp [add, hd, hs] at h
      subst h
      simp [count, hs]

lemma ext_toList {s s' : Streams} (hinput : s.input.toList = s'.input.toList)
    (houtput : s.output.toList = s'.output.toList) : s = s' := by
  obtain ⟨input, output⟩ := s
  obtain ⟨input', output'⟩ := s'
  cases input <;> cases input' <;> cases output <;> cases output' <;> simp_all

/-- Redirections that go on after some streams add themselves to the lists of targets, and neither
    list can get longer than one. -/
lemma foldlM_add_eq_ok_iff {rs : List Redirection} : ∀ {s s' : Streams},
    rs.foldlM add s = .ok s' ↔
      s.input.toList ++ (Redirection.toward .input rs).map Redirection.inputTarget =
        s'.input.toList ∧
      s.output.toList ++ (Redirection.toward .output rs).map Redirection.outputTarget =
        s'.output.toList := by
  -- a second target does not fit beside the first
  have hlong : ∀ {α : Type} (a b : α) (rest : List α) (o : Option α),
      a :: b :: rest ≠ o.toList := by
    intro α a b rest o h
    cases o <;> simp at h
  induction rs with
  | nil =>
      intro s s'
      simp only [List.foldlM_nil, Redirection.toward, List.filter_nil, List.map_nil,
        List.append_nil]
      constructor
      · rintro ⟨⟩
        exact ⟨rfl, rfl⟩
      · rintro ⟨hinput, houtput⟩
        rw [ext_toList hinput houtput]
        rfl
  | cons r rs ih =>
      intro s s'
      rw [List.foldlM_cons, bind_eq_ok_iff]
      simp only [ih, add_eq_ok_iff]
      cases hd : r.direction with
      | input =>
          have hother : r.direction ≠ .output := by simp [hd]
          rw [Redirection.toward_cons_of_eq hd, Redirection.toward_cons_of_ne hother]
          cases s.input with
          | none => simp
          | some target => simp [hlong]
      | output =>
          have hother : r.direction ≠ .input := by simp [hd]
          rw [Redirection.toward_cons_of_eq hd, Redirection.toward_cons_of_ne hother]
          cases s.output with
          | none => simp
          | some target => simp [hlong]

lemma count_of_add {s s' : Streams} {r : Redirection} (h : s.add r = .ok s')
    (direction : Direction) :
    s'.count direction = s.count direction + (Redirection.toward direction [r]).length := by
  rcases add_eq_ok_iff.mp h with ⟨hd, hs, rfl⟩ | ⟨hd, hs, rfl⟩
  · cases direction <;> simp [count, Redirection.toward, hd, hs]
  · cases direction <;> simp [count, Redirection.toward, hd, hs]

/-- The direction that is reported has two targets, with those that were there before. -/
lemma two_le_of_foldlM_add {direction : Direction} {rs : List Redirection} : ∀ {s : Streams},
    rs.foldlM add s = .error direction →
      2 ≤ s.count direction + (Redirection.toward direction rs).length := by
  induction rs with
  | nil =>
      intro s h
      cases h
  | cons r rs ih =>
      intro s h
      have hsplit : (Redirection.toward direction (r :: rs)).length =
          (Redirection.toward direction [r]).length +
            (Redirection.toward direction rs).length := by
        rw [← List.length_append, Redirection.toward, Redirection.toward, Redirection.toward,
          ← List.filter_append, List.singleton_append]
      rw [List.foldlM_cons] at h
      rw [hsplit]
      cases hadd : s.add r with
      | error d =>
          rw [hadd] at h
          cases h
          obtain ⟨hd, hcount⟩ := add_eq_error hadd
          rw [Redirection.toward_cons_of_eq hd, List.length_cons]
          omega
      | ok next =>
          rw [hadd] at h
          have hrest := ih h
          rw [count_of_add hadd] at hrest
          omega

end Streams

/-- **Redirections split** into the only ones of their directions. -/
lemma splitRedirections_eq_ok_iff {rs : List Redirection} {streams : Streams} :
    splitRedirections rs = .ok streams ↔
      (Redirection.toward .input rs).map Redirection.inputTarget = streams.input.toList ∧
      (Redirection.toward .output rs).map Redirection.outputTarget = streams.output.toList := by
  rw [splitRedirections, Streams.foldlM_add_eq_ok_iff]
  simp

lemma exists_splitRedirections_iff {rs : List Redirection} :
    (∃ streams, splitRedirections rs = .ok streams) ↔
      ∀ direction, (Redirection.toward direction rs).length ≤ 1 := by
  -- a list of one at most is that of an option
  have hhead : ∀ {α : Type} {xs : List α}, xs.length ≤ 1 → xs = xs.head?.toList := by
    intro α xs h
    rcases xs with _ | ⟨a, _ | ⟨b, rest⟩⟩
    · rfl
    · rfl
    · simp at h
  simp only [splitRedirections_eq_ok_iff]
  constructor
  · rintro ⟨streams, hinput, houtput⟩ direction
    cases direction with
    | input =>
        rw [← List.length_map, hinput]
        exact Option.length_toList_le
    | output =>
        rw [← List.length_map, houtput]
        exact Option.length_toList_le
  · intro h
    exact ⟨⟨_, _⟩, hhead (by simpa using h .input), hhead (by simpa using h .output)⟩

lemma two_le_of_splitRedirections {rs : List Redirection} {direction : Direction}
    (h : splitRedirections rs = .error direction) :
    2 ≤ (Redirection.toward direction rs).length := by
  have htwo := Streams.two_le_of_foldlM_add h
  cases direction <;> simpa [Streams.count] using htwo

/-! ## Calls -/

/-- A call whose redirections conflict fails before it does anything. -/
lemma Command.exec_of_conflict {registry : Registry} {run : Text → Shell → Run}
    {k : Call Command} {direction : Direction}
    (hk : splitRedirections k.redirections = .error direction) (piped : Option (List Text))
    (shell : Shell) :
    exec registry run (.call k) piped shell = .fail (.conflict direction) shell := by
  obtain ⟨text, redirections, substitution, disqualified⟩ := k
  rcases substitution with _ | ⟨_ | _, before, after⟩ <;> cases disqualified <;>
    simp only [exec, hk]

namespace Shell

/-- **Redirections are checked first.**  They split just when no direction has two, and the streams
    are then the only redirection of each direction, with the mode it was written in.  A call with
    two in one direction fails for one that has two, whatever its substitution is and whatever is
    piped into it; the channel and the shell are as they were, journal included. -/
theorem redirections_checked_first :
    (∀ rs : List Redirection, (∃ streams, splitRedirections rs = .ok streams) ↔
      ∀ direction, (Redirection.toward direction rs).length ≤ 1) ∧
    (∀ (rs : List Redirection) (streams : Streams), splitRedirections rs = .ok streams →
      streams.input.toList =
        (Redirection.toward .input rs).map (fun r => ⟨r.filename, r.mode = .heredoc⟩) ∧
      streams.output.toList =
        (Redirection.toward .output rs).map (fun r => ⟨r.filename, r.mode = .append⟩)) ∧
    (∀ (k : Call Command) (direction : Direction),
      2 ≤ (Redirection.toward direction k.redirections).length →
      ∃ reported, 2 ≤ (Redirection.toward reported k.redirections).length ∧
        (ShellError.conflict reported).isExecution = true ∧
        ∀ (registry : Registry) (piped : Option (List Text)) (out : Channel) (shell : Shell),
          executePiped registry (.call k) piped out shell =
            ⟨.error (.conflict reported), out, shell⟩) := by
  refine ⟨fun rs => exists_splitRedirections_iff, ?_, ?_⟩
  · intro rs streams h
    obtain ⟨hinput, houtput⟩ := splitRedirections_eq_ok_iff.mp h
    exact ⟨hinput.symm, houtput.symm⟩
  · intro k direction htwo
    cases hsplit : splitRedirections k.redirections with
    | ok streams =>
        have hone := exists_splitRedirections_iff.mp ⟨streams, hsplit⟩ direction
        omega
    | error reported =>
        refine ⟨reported, two_le_of_splitRedirections hsplit, rfl, ?_⟩
        intro registry piped out shell
        rw [executePiped, Command.exec_of_conflict hsplit, Run.behind_fail]

/-- The substitution would write a file, and so would the call, twice. -/
theorem redirections_checked_first_substitution :
    let inner : Command :=
      .call { text := "echo b".toList, redirections := [⟨.output, "h".toList, .plain⟩] }
    let k : Call Command :=
      { text := "echo `echo b>h`".toList
        redirections := [⟨.output, "f".toList, .plain⟩, ⟨.input, "g".toList, .plain⟩,
          ⟨.output, "f".toList, .append⟩]
        substitution := some ⟨.parsed inner, "echo ".toList, []⟩ }
    let shell : Shell := ⟨⟨⟨[(["f".toList], .file (Utf8.encode "a\n".toList))]⟩, [], none⟩, [], []⟩
    executePiped (.ofConfig {}) (.call k) none {} shell =
      ⟨.error (.conflict .output), {}, shell⟩ := by
  intro inner k shell
  obtain ⟨reported, htwo, _, hexec⟩ := redirections_checked_first.2.2 k .output (by decide)
  cases reported with
  | input => exact absurd htwo (by decide)
  | output => exact hexec (.ofConfig {}) none {} shell

end Shell

end LineShell
