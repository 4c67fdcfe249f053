import LineShell.Application.Input
import LineShell.Proofs.Text.Lines
import LineShell.Proofs.Text.Utf8
import Mathlib.Tactic.Common

/-!
# What applications read

A file, a stream or a pipe may end in the middle of a line, and may have been cut anywhere.  What is
read of it are lines all the same, each with a newline at its end and no other
(`Input.areLines_contents`).

Texts are cut after their newlines.  A stream is cut as bytes, and each piece is decoded by itself;
as no other character is written with the byte of a newline, the pieces have theirs at the end too.
-/

namespace LineShell

namespace Text

/-- Every text of the list is a line. -/
def AreLines (lines : List Text) : Prop := ∀ l ∈ lines, IsLine l

lemma areLines_nil : AreLines [] := by
  simp [AreLines]

lemma areLines_splitLines (s : Text) : AreLines (splitLines s) :=
  fun _ => isLine_of_mem_splitLines

lemma isLine_terminated {s : Text} (h : '\n' ∉ s.dropLast) : IsLine (terminated s) := by
  rcases List.eq_nil_or_concat s with rfl | ⟨body, c, rfl⟩
  · exact isLine_newline
  · rw [List.concat_eq_append, List.dropLast_concat] at h
    rw [List.concat_eq_append]
    by_cases hc : c = '\n'
    · subst hc
      have hline : IsLine (body ++ ['\n']) := ⟨body, h, rfl⟩
      rwa [hline.terminated_eq]
    · refine ⟨body ++ [c], by simp [h, Ne.symm hc], ?_⟩
      simp [terminated, endsLine, hc]

namespace AreLines

variable {xs ys : List Text}

lemma append (hx : AreLines xs) (hy : AreLines ys) : AreLines (xs ++ ys) :=
  List.forall_mem_append.mpr ⟨hx, hy⟩

lemma mono (h : AreLines xs) (hsub : ys ⊆ xs) : AreLines ys :=
  fun s hs => h s (hsub hs)

/-- Lines that are put one behind the other are cut where they meet. -/
lemma splitLines_flatten (h : AreLines xs) : splitLines xs.flatten = xs :=
  Text.splitLines_flatten h

end AreLines

end Text

/-! ## Files -/

lemma areLines_readFile {host : Host} {path : Text} {lines : List Text}
    (h : readFile host path = .ok lines) : Text.AreLines lines := by
  simp only [readFile] at h
  split at h
  · cases h
    exact Text.areLines_splitLines _
  · cases h

lemma areLines_readAll {host : Host} : ∀ {paths lines : List Text},
    readAll host paths = .ok lines → Text.AreLines lines
  | [], lines, h => by
      cases h
      exact Text.areLines_nil
  | path :: rest, lines, h => by
      simp only [readAll] at h
      split at h
      · cases h
      next first hfirst =>
        split at h
        · cases h
        next more hmore =>
          cases h
          exact (areLines_readFile hfirst).append (areLines_readAll hmore)

lemma areLines_readFiles {host : Host} {args lines : List Text}
    (h : readFiles host args = .ok lines) : Text.AreLines lines := by
  simp only [readFiles] at h
  split at h
  · cases h
  · exact areLines_readAll h

/-! ## Streams -/

/-- A newline ends the piece that it stands in. -/
lemma exists_of_mem_byteLines {bs l : Bytes} (hl : l ∈ byteLines bs) :
    ∃ body b, l = body ++ [b] ∧ 10 ∉ body := by
  induction bs generalizing l with
  | nil => simp [byteLines] at hl
  | cons b bs ih =>
      rw [byteLines] at hl
      split_ifs at hl with hb
      · rcases List.mem_cons.mp hl with rfl | hl
        · exact ⟨[], b, rfl, by simp⟩
        · exact ih hl
      · split at hl
        · exact ⟨[], b, List.mem_singleton.mp hl, by simp⟩
        next first rest hlines =>
          rw [hlines] at ih
          rcases List.mem_cons.mp hl with rfl | hl
          · obtain ⟨body, last, rfl, hbody⟩ := ih List.mem_cons_self
            exact ⟨b :: body, last, rfl, by simp [hbody, Ne.symm hb]⟩
          · exact ih (List.mem_cons_of_mem first hl)

/-- So does the newline of the text that the piece is decoded to. -/
lemma newline_notMem_dropLast {body : Bytes} {b : UInt8} {text : Text}
    (h : Utf8.decode? (body ++ [b]) = some text) (hbody : 10 ∉ body) : '\n' ∉ text.dropLast := by
  have hbytes := Utf8.decode?_eq_some_iff.mp h
  rcases List.eq_nil_or_concat text with rfl | ⟨front, c, rfl⟩
  · simp
  · rw [List.concat_eq_append, Utf8.encode, List.flatMap_append, List.flatMap_singleton] at hbytes
    rw [List.concat_eq_append, List.dropLast_concat]
    intro hmem
    refine hbody ?_
    have hfront : 10 ∈ front.flatMap Utf8.encodeChar := List.mem_flatMap.mpr ⟨'\n', hmem, by decide⟩
    have hcut : body = (body ++ [b]).dropLast := by simp
    rw [hcut, hbytes, List.dropLast_append_of_ne_nil (Utf8.encodeChar_ne_nil c)]
    exact List.mem_append_left _ hfront

lemma areLines_readLines {delimiter : Option Text} : ∀ {stream : List Bytes} {lines : List Text},
    (∀ l ∈ stream, ∃ body b, l = body ++ [b] ∧ 10 ∉ body) →
    (readLines delimiter stream).1 = .ok lines → Text.AreLines lines
  | [], lines, _, h => by
      cases h
      exact Text.areLines_nil
  | line :: rest, lines, hstream, h => by
      obtain ⟨⟨body, b, rfl, hbody⟩, hrest⟩ := List.forall_mem_cons.mp hstream
      simp only [readLines] at h
      split at h
      · cases h
      next text htext =>
        split_ifs at h
        · cases h
          exact Text.areLines_nil
        · split at h
          next more left hmore =>
            cases h
            have hfirst := newline_notMem_dropLast htext hbody
            have hmore : Text.AreLines more := areLines_readLines hrest (by rw [hmore])
            exact List.forall_mem_cons.mpr ⟨Text.isLine_terminated hfirst, hmore⟩
          · cases h

namespace Input

lemma areLines_takeStdin {input : Input} {delimiter : Option Text} {lines : List Text}
    (h : (input.takeStdin delimiter).1 = .ok lines) : Text.AreLines lines := by
  simp only [takeStdin] at h
  split at h
  next more left hmore =>
    cases h
    exact areLines_readLines (fun _ => exists_of_mem_byteLines) (by rw [hmore])
  · cases h

lemma areLines_take {host : Host} {input : Input} {lines : List Text}
    (h : (input.take host).1 = .ok lines) : Text.AreLines lines := by
  simp only [take] at h
  split at h
  · cases h
    exact Text.areLines_splitLines _
  · split at h
    · split_ifs at h
      · exact areLines_takeStdin h
      · exact areLines_readFile h
    · exact areLines_takeStdin h

/-- **What is read are lines**, whatever they are read from. -/
lemma areLines_contents {host : Host} {input : Input} {file : Option Text} {lines : List Text}
    (h : (input.contents host file).1 = .ok lines) : Text.AreLines lines := by
  cases file with
  | some path => exact areLines_readFiles h
  | none => exact areLines_take h

/-- Lines that are piped are read as they are. -/
lemma contents_piped {lines : List Text} (h : Text.AreLines lines) (host : Host)
    (target : Option InputTarget) (stdin : Bytes) :
    contents host ⟨target, some lines, stdin⟩ none = (.ok lines, ⟨target, none, stdin⟩) := by
  simp only [contents, take, h.splitLines_flatten]

end Input

end LineShell
