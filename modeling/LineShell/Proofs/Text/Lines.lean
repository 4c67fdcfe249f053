import LineShell.Text.Basic
import Mathlib.Tactic.Common

/-!
# Lines

A line ends in a newline and has no other.  Cutting a text gives lines, and lines that are put one
behind the other are cut where they meet.  So a text that has been cut once is cut in the same way
again, also when its last line had to be terminated.

The lines of a text as they stand give it back.  Terminating any of them comes to
no more than terminating the text (`Cut.flatten_terminated`).
-/

namespace LineShell

namespace Text

/-- A newline at the end, and no other. -/
def IsLine (s : Text) : Prop := ∃ body : Text, '\n' ∉ body ∧ s = body ++ ['\n']

lemma isLine_newline : IsLine ['\n'] := ⟨[], by simp, rfl⟩

lemma IsLine.cons {c : Char} {s : Text} (hs : IsLine s) (hc : c ≠ '\n') : IsLine (c :: s) := by
  obtain ⟨body, hbody, rfl⟩ := hs
  refine ⟨c :: body, ?_, rfl⟩
  rw [List.mem_cons, not_or]
  exact ⟨hc.symm, hbody⟩

lemma isLine_of_mem_splitLines {s l : Text} (hl : l ∈ splitLines s) : IsLine l := by
  induction s generalizing l with
  | nil => simp [splitLines] at hl
  | cons c cs ih =>
      rw [splitLines] at hl
      split_ifs at hl with hc
      · rcases List.mem_cons.mp hl with rfl | hl
        · exact isLine_newline
        · exact ih hl
      · split at hl
        · rw [List.mem_singleton] at hl
          subst hl
          exact isLine_newline.cons hc
        next first rest hsplit =>
          rw [hsplit] at ih
          rcases List.mem_cons.mp hl with rfl | hl
          · exact (ih List.mem_cons_self).cons hc
          · exact ih (List.mem_cons_of_mem first hl)

lemma splitLines_line_append {body : Text} (hbody : '\n' ∉ body) (s : Text) :
    splitLines (body ++ '\n' :: s) = (body ++ ['\n']) :: splitLines s := by
  induction body with
  | nil => simp [splitLines]
  | cons c cs ih =>
      rw [List.mem_cons, not_or] at hbody
      rw [List.cons_append, splitLines, if_neg (Ne.symm hbody.1), ih hbody.2]
      rfl

lemma splitLines_flatten {lines : List Text} (h : ∀ l ∈ lines, IsLine l) :
    splitLines lines.flatten = lines := by
  induction lines with
  | nil => rfl
  | cons l lines ih =>
      obtain ⟨⟨body, hbody, rfl⟩, hlines⟩ := List.forall_mem_cons.mp h
      rw [List.flatten_cons, List.append_assoc, List.singleton_append,
        splitLines_line_append hbody, ih hlines]

/-- **Cutting a text again changes nothing.** -/
theorem splitLines_flatten_splitLines (s : Text) :
    splitLines (splitLines s).flatten = splitLines s :=
  splitLines_flatten fun _ => isLine_of_mem_splitLines

/-! ## As they stand -/

/-- The lines of a text as they stand: the last one may lack its newline. -/
def lines : Text → List Text
  | [] => []
  | c :: cs =>
    if c = '\n' then [c] :: lines cs
    else
      match lines cs with
      | [] => [[c]]
      | l :: ls => (c :: l) :: ls

/-- Lines, the last of which may lack its newline. -/
inductive Cut : List Text → Prop
  | nil : Cut []
  | last {body : Text} (hne : body ≠ []) (hbody : '\n' ∉ body) : Cut [body]
  | cons {l : Text} {ls : List Text} (hl : IsLine l) (hls : Cut ls) : Cut (l :: ls)

lemma cut_lines (s : Text) : Cut (lines s) := by
  induction s with
  | nil => exact .nil
  | cons c cs ih =>
      rw [lines]
      split_ifs with hc
      · subst hc
        exact .cons isLine_newline ih
      · split
        · exact .last (List.cons_ne_nil c []) (by simpa using Ne.symm hc)
        next l ls hlines =>
          rw [hlines] at ih
          cases ih with
          | last hne hbody =>
              refine .last (List.cons_ne_nil c l) ?_
              rw [List.mem_cons, not_or]
              exact ⟨Ne.symm hc, hbody⟩
          | cons hl hls => exact .cons (hl.cons hc) hls

lemma flatten_lines (s : Text) : (lines s).flatten = s := by
  induction s with
  | nil => rfl
  | cons c cs ih =>
      rw [lines]
      split_ifs
      · rw [List.flatten_cons, ih, List.singleton_append]
      · split
        next hlines =>
          rw [hlines] at ih
          rw [← ih]
          rfl
        next l ls hlines =>
          rw [hlines] at ih
          rw [← ih]
          rfl

lemma lines_of_notMem {body : Text} (hne : body ≠ []) (hbody : '\n' ∉ body) :
    lines body = [body] := by
  induction body with
  | nil => exact absurd rfl hne
  | cons c cs ih =>
      rw [List.mem_cons, not_or] at hbody
      rw [lines, if_neg (Ne.symm hbody.1)]
      cases cs with
      | nil => rfl
      | cons d ds => rw [ih (List.cons_ne_nil d ds) hbody.2]

lemma lines_line_append {body : Text} (hbody : '\n' ∉ body) (s : Text) :
    lines (body ++ '\n' :: s) = (body ++ ['\n']) :: lines s := by
  induction body with
  | nil => simp [lines]
  | cons c cs ih =>
      rw [List.mem_cons, not_or] at hbody
      rw [List.cons_append, lines, if_neg (Ne.symm hbody.1), ih hbody.2]
      rfl

lemma IsLine.terminated_eq {l : Text} (h : IsLine l) : terminated l = l := by
  obtain ⟨body, _, rfl⟩ := h
  simp [terminated, endsLine]

lemma terminated_append (s : Text) {t : Text} (h : t ≠ []) :
    terminated (s ++ t) = s ++ terminated t := by
  have hlast : endsLine (s ++ t) = endsLine t := by
    rw [endsLine, endsLine, List.getLast?_append, List.getLast?_eq_some_getLast h, Option.some_or]
  rw [terminated, terminated, hlast]
  split_ifs
  · rfl
  · rw [List.append_assoc]

namespace Cut

lemma lines_flatten {ls : List Text} (h : Cut ls) : lines ls.flatten = ls := by
  induction h with
  | nil => rfl
  | @last body hne hbody => simpa using lines_of_notMem hne hbody
  | cons hl _ ih =>
      obtain ⟨body, hbody, rfl⟩ := hl
      rw [List.flatten_cons, List.append_assoc, List.singleton_append,
        lines_line_append hbody, ih]

lemma of_append {xs ys : List Text} (h : Cut (xs ++ ys)) : Cut ys := by
  induction xs with
  | nil => exact h
  | cons x xs ih =>
      rw [List.cons_append] at h
      generalize hzs : xs ++ ys = zs at h ih
      cases h with
      | last => exact ih .nil
      | cons _ hls => exact ih hls

lemma flatten_ne_nil {l : Text} {ls : List Text} (h : Cut (l :: ls)) :
    (l :: ls).flatten ≠ [] := by
  cases h with
  | last hne => simpa using hne
  | cons hl =>
      obtain ⟨body, _, rfl⟩ := hl
      simp

/-- **Terminating some lines** comes to no more than terminating the text. -/
lemma flatten_terminated {ls ls' : List Text} (h : Cut ls)
    (hls : List.Forall₂ (fun l l' => l' = l ∨ l' = terminated l) ls ls') :
    ls'.flatten = ls.flatten ∨ ls'.flatten = terminated ls.flatten := by
  induction h generalizing ls' with
  | nil =>
      cases hls
      exact .inl rfl
  | last =>
      cases hls with
      | cons hl hnil =>
          cases hnil
          simpa using hl
  | @cons l _ hl hcut ih =>
      cases hls with
      | @cons _ l' _ _ hl' hrest =>
          obtain rfl : l' = l := by rwa [hl.terminated_eq, or_self] at hl'
          have hflat := (ih hrest).imp (congrArg (l' ++ ·)) (congrArg (l' ++ ·))
          cases hrest with
          | nil => exact .inl rfl
          | cons => rwa [← terminated_append l' hcut.flatten_ne_nil] at hflat

end Cut

end Text

end LineShell
