import LineShell.Proofs.Command.Occurrence
import Mathlib.Tactic.Common

/-!
# The spacing of unquoted calls

The text of a call without quotes is put together from its literals, each with its blanks
collapsed, and trimmed as a whole.  Between two literals stands a redirection, which leaves nothing
in the text.

**Words.**  The text has the words of the literals, wherever redirections are written.

**Spaces.**  One space stands between two words, unless a redirection stands there with a blank
before it.  The target of the redirection ends at a blank too, the two belong to different
literals, and so both become a space (`Part.isChain_trim_unwrapped_iff`).
-/

namespace LineShell

namespace Part

/-! ## Literals -/

/-- The unquoted text of a part. -/
def literalText : Part → Text
  | literal run => run
  | _ => []

/-- No part is a quoted span. -/
def Unquoted (parts : List Part) : Prop := ∀ kind contents, quoted kind contents ∉ parts

/-- Some redirection stands between two words and has a blank before it. -/
def Gapped (parts : List Part) : Prop :=
  ∃ before op target after, parts = before ++ redirect op target :: after ∧
    Text.endsBlank (before.flatMap literalText) = true ∧
    Text.isBlankText (before.flatMap literalText) = false ∧
    Text.isBlankText (after.flatMap literalText) = false

variable {parts : List Part}

lemma Unquoted.of_subset {parts' : List Part} (h : Unquoted parts) (hsub : parts' ⊆ parts) :
    Unquoted parts' :=
  fun kind contents hmem => h kind contents (hsub hmem)

/-- A part of an unquoted call has a literal's text, collapsed. -/
lemma Unquoted.unwrapped_eq (h : Unquoted parts) {p : Part} (hp : p ∈ parts) :
    p.unwrapped = Text.collapseBlanks p.literalText := by
  cases p with
  | literal run => rfl
  | redirect op target => rfl
  | quoted kind contents => exact absurd hp (h kind contents)

lemma Unquoted.firstWord_unwrapped (h : Unquoted parts) :
    Text.firstWord (parts.flatMap unwrapped) = Text.firstWord (parts.flatMap literalText) := by
  induction parts with
  | nil => rfl
  | cons p rest ih =>
      have hrest := ih (h.of_subset (List.subset_cons_self p rest))
      rw [List.flatMap_cons, List.flatMap_cons, h.unwrapped_eq List.mem_cons_self]
      exact (Text.firstWord_collapseFrom_append _ _).1.trans (Text.firstWord_append_congr hrest _)

lemma Unquoted.isBlankText_unwrapped (h : Unquoted parts) :
    Text.isBlankText (parts.flatMap unwrapped) = Text.isBlankText (parts.flatMap literalText) := by
  induction parts with
  | nil => rfl
  | cons p rest ih =>
      have hrest := ih (h.of_subset (List.subset_cons_self p rest))
      have hp := Text.isBlankText_collapseFrom p.literalText false
      rw [List.flatMap_cons, List.flatMap_cons, h.unwrapped_eq List.mem_cons_self]
      simp only [Text.isBlankText, List.all_append] at hp hrest ⊢
      rw [Text.collapseBlanks, hp, hrest]

lemma Unquoted.endsBlank_unwrapped (h : Unquoted parts) :
    Text.endsBlank (parts.flatMap unwrapped) = Text.endsBlank (parts.flatMap literalText) := by
  -- from the end, where the first part that has any text decides
  induction parts using List.reverseRecOn with
  | nil => rfl
  | append_singleton rest p ih =>
      have hrest := ih (h.of_subset (List.subset_append_left rest [p]))
      have hp := h.unwrapped_eq (p := p) (by simp)
      rw [List.flatMap_append, List.flatMap_append, List.flatMap_singleton, List.flatMap_singleton,
        hp]
      rcases eq_or_ne p.literalText [] with hnil | hne
      · rw [hnil, Text.collapseBlanks_eq_nil_iff.mpr rfl, List.append_nil, List.append_nil]
        exact hrest
      · rw [Text.endsBlank_append _ hne,
          Text.endsBlank_append _ (mt Text.collapseBlanks_eq_nil_iff.mp hne)]
        exact (Text.endsBlank_collapseFrom _).1

lemma Unquoted.eq_space_of_mem (h : Unquoted parts) {c : Char} (hc : c ∈ parts.flatMap unwrapped)
    (hblank : LineShell.isBlank c = true) : c = ' ' := by
  obtain ⟨p, hp, hmem⟩ := List.mem_flatMap.mp hc
  rw [h.unwrapped_eq hp] at hmem
  exact Text.eq_space_of_mem_collapseFrom hmem hblank

/-- The first literal behind a redirection starts with the blank that ends the target. -/
lemma Unquoted.startsBlank_unwrapped {op : Operator} {target : Text} (h : Unquoted parts)
    (hchain : (redirect op target :: parts).IsChain Follows)
    (hwords : Text.isBlankText (parts.flatMap literalText) = false) :
    Text.startsBlank (parts.flatMap unwrapped) = true := by
  induction parts generalizing op target with
  | nil => cases hwords
  | cons p rest ih =>
      obtain ⟨hfollows, hrest⟩ := List.isChain_cons_cons.mp hchain
      cases p with
      | quoted kind contents => exact absurd List.mem_cons_self (h kind contents)
      | redirect op' target' =>
          exact ih (h.of_subset (List.subset_cons_self _ rest)) hrest hwords
      | literal run =>
          have hrun : Text.startsBlank (Text.collapseBlanks run) = true := by
            rw [Text.startsBlank_collapseBlanks]
            exact hfollows
          obtain ⟨d, ds, hd⟩ : ∃ d ds, Text.collapseBlanks run = d :: ds := by
            refine List.exists_cons_of_ne_nil fun hnil => ?_
            rw [hnil] at hrun
            cases hrun
          rw [hd] at hrun
          rw [List.flatMap_cons, unwrapped, hd]
          exact hrun

/-! ## Spaces -/

/-- Where a text with two blanks in a row is cut between them, a part ends: the blanks of one
    literal are collapsed. -/
lemma Unquoted.exists_cut (h : Unquoted parts) {a b : Text}
    (heq : parts.flatMap unwrapped = a ++ b) (ha : Text.endsBlank a = true)
    (hb : Text.startsBlank b = true) :
    ∃ before after, parts = before ++ after ∧ before.flatMap unwrapped = a ∧
      after.flatMap unwrapped = b := by
  induction parts generalizing a with
  | nil =>
      obtain ⟨rfl, rfl⟩ := List.append_eq_nil_iff.mp heq.symm
      cases ha
  | cons p rest ih =>
      rw [List.flatMap_cons] at heq
      rcases List.append_eq_append_iff.mp heq with ⟨a', rfl, hrest⟩ | ⟨b', hp, rfl⟩
      · rcases eq_or_ne a' [] with rfl | hne
        · exact ⟨[p], rest, rfl, by simp, hrest⟩
        · rw [Text.endsBlank_append _ hne] at ha
          obtain ⟨before, after, rfl, rfl, hafter⟩ :=
            ih (h.of_subset (List.subset_cons_self p rest)) hrest ha
          exact ⟨p :: before, after, rfl, by simp, hafter⟩
      · rcases b' with _ | ⟨d, ds⟩
        · exact ⟨[p], rest, rfl, by simpa using hp, rfl⟩
        · -- the two blanks would stand in one collapsed literal
          have hchain : (a ++ d :: ds).IsChain Text.Apart := by
            rw [← hp, h.unwrapped_eq List.mem_cons_self]
            exact (Text.isChain_collapseFrom _).1
          rw [Text.endsBlank, Option.any_eq_true] at ha
          obtain ⟨c, hc, hblank⟩ := ha
          have hd : LineShell.isBlank d = true := hb
          have hapart := (List.isChain_append.mp hchain).2.2 c hc d rfl
          simp [Text.Apart, hblank, hd] at hapart

/-- **Two spaces in a row** come from a redirection between two words that has a blank before
    it. -/
lemma isChain_trim_unwrapped_iff (hcan : CanonicalList parts) (h : Unquoted parts) :
    (Text.trim (parts.flatMap unwrapped)).IsChain Text.Apart ↔ ¬ Gapped parts := by
  rw [Text.isChain_trim_iff]
  constructor
  · rintro hcuts ⟨before, op, target, after, rfl, hends, hbefore, hafter⟩
    have hunquoted := h.of_subset (List.subset_append_left before _)
    have hrest : Unquoted after := h.of_subset fun p hp => by simp [hp]
    have hchain := hcan.2.right_of_append
    have hcut : (before ++ redirect op target :: after).flatMap unwrapped =
        before.flatMap unwrapped ++ after.flatMap unwrapped := by
      simp [unwrapped]
    have hblank := hcuts _ _ hcut (hunquoted.endsBlank_unwrapped.trans hends)
      (hrest.startsBlank_unwrapped hchain hafter)
    rw [hunquoted.isBlankText_unwrapped, hrest.isBlankText_unwrapped, hbefore, hafter] at hblank
    simp at hblank
  · intro hgapped a b heq ha hb
    by_contra hwords
    rw [not_or, Bool.not_eq_true, Bool.not_eq_true] at hwords
    obtain ⟨before, after, rfl, rfl, rfl⟩ := h.exists_cut heq ha hb
    have hbefore := h.of_subset (List.subset_append_left before after)
    have hafter := h.of_subset (List.subset_append_right before after)
    rw [hbefore.endsBlank_unwrapped] at ha
    rw [hbefore.isBlankText_unwrapped, hafter.isBlankText_unwrapped] at hwords
    -- a redirection stands on one side of the cut, since two literals never meet
    rcases List.eq_nil_or_concat before with rfl | ⟨first, p, rfl⟩
    · cases hwords.1
    rcases after with _ | ⟨q, last⟩
    · cases hwords.2
    have hfollows : p.Follows q := by
      have hmiddle := (List.isChain_append.mp hcan.2).2.2
      exact hmiddle p (by simp) q rfl
    cases p with
    | quoted kind contents => exact hbefore kind contents (by simp)
    | redirect op target =>
        refine hgapped ⟨first, op, target, q :: last, by simp, ?_, ?_, hwords.2⟩
        · simpa [literalText] using ha
        · simpa [literalText] using hwords.1
    | literal run =>
        cases q with
        | literal run' => exact hfollows
        | quoted kind contents => exact hafter kind contents List.mem_cons_self
        | redirect op target => exact hgapped ⟨_, op, target, last, rfl, ha, hwords⟩

end Part

/-! ## Lines -/

/-- A line without quotes has unquoted calls. -/
lemma Node.unquoted_of_parse {line : Text} {node : Node} (hnode : Node.parse line = .ok node)
    (hquotes : ∀ kind : Quote, kind.delimiter ∉ line) :
    ∀ x ∈ node.calls false, Part.Unquoted x.2 := by
  intro x hx kind contents hp
  have hquoted := Node.quotedIn_of_parse hnode x hx kind contents hp
  exact hquotes kind (hquoted.subset List.mem_cons_self)

/-- **The text of an unquoted call** has the words of its literals, redirections left out.  One
    space stands between neighbours, and no two blanks in a row, unless a redirection with a blank
    before it stands between two words. -/
theorem Command.spacing_of_unquoted {line : Text} {node : Node} {c : Command}
    (hquotes : ∀ kind : Quote, kind.delimiter ∉ line) (hnode : Node.parse line = .ok node)
    (h : ofText line = .ok c) :
    ∀ k ∈ c.schedule, ∃ x ∈ node.calls false, Call.assemble ofText x.1 x.2 = .ok k ∧
      Text.words k.text = Text.words (x.2.flatMap Part.literalText) ∧
      (k.text = Text.join [' '] (Text.words (x.2.flatMap Part.literalText)) ↔
        ¬ Part.Gapped x.2) ∧
      (k.text.IsChain Text.Apart ↔ ¬ Part.Gapped x.2) := by
  intro k hk
  obtain ⟨_, x, hx, hassemble⟩ := forall_schedule_of_ofText h hnode (hquotes .back) k hk
  refine ⟨x, hx, hassemble, ?_⟩
  have hcan := Node.canonicalList_of_calls (Node.canonical_of_parse hnode) x hx
  have hunquoted := Node.unquoted_of_parse hnode hquotes x hx
  obtain ⟨_, _, _, rfl⟩ := (Call.assemble_eq_ok_iff hcan.1).mp hassemble
  have hwords : Text.words (Text.trim (x.2.flatMap Part.unwrapped)) =
      Text.words (x.2.flatMap Part.literalText) := by
    rw [Text.words_trim, Text.words_congr hunquoted.firstWord_unwrapped]
  have hspace : ∀ c ∈ Text.trim (x.2.flatMap Part.unwrapped), isBlank c = true → c = ' ' := by
    intro c hc
    exact hunquoted.eq_space_of_mem (Text.mem_of_mem_trim hc)
  have hchain := Part.isChain_trim_unwrapped_iff hcan hunquoted
  refine ⟨hwords, ?_, hchain⟩
  rw [← hwords, Text.eq_join_words_iff (Text.trimmed_trim _) hspace]
  exact hchain

/-- Redirections right behind a word and behind the last one, and one with a blank before it
    between two words. -/
theorem Command.spacing_of_unquoted_inner :
    ∃ node c, Node.parse "echo  a>f  b <g ;cat <h  x".toList = .ok node ∧
      ofText "echo  a>f  b <g ;cat <h  x".toList = .ok c ∧
      c.schedule.map Call.text = ["echo a b".toList, "cat  x".toList] ∧
      ∀ k ∈ c.schedule, ∃ x ∈ node.calls false, Call.assemble ofText x.1 x.2 = .ok k ∧
        Text.words k.text = Text.words (x.2.flatMap Part.literalText) ∧
        (k.text = Text.join [' '] (Text.words (x.2.flatMap Part.literalText)) ↔
          ¬ Part.Gapped x.2) ∧
        (k.text.IsChain Text.Apart ↔ ¬ Part.Gapped x.2) := by
  have hnode : Node.parse "echo  a>f  b <g ;cat <h  x".toList = .ok (.sequence
      [.call [.literal "echo  a".toList, .redirect .output "f".toList, .literal "  b ".toList,
          .redirect .input "g".toList, .literal " ".toList],
        .call [.literal "cat ".toList, .redirect .input "h".toList, .literal "  x".toList]]) := rfl
  have hc : ofText "echo  a>f  b <g ;cat <h  x".toList = .ok (.sequence
      [.call { text := "echo a b".toList, redirections :=
          [⟨.output, "f".toList, .plain⟩, ⟨.input, "g".toList, .plain⟩] },
        .call { text := "cat  x".toList, redirections := [⟨.input, "h".toList, .plain⟩] }]) := by
    rw [ofText_eq, hnode]
    rfl
  have hquotes : ∀ kind : Quote, kind.delimiter ∉ "echo  a>f  b <g ;cat <h  x".toList := by
    intro kind
    cases kind <;> decide
  exact ⟨_, _, hnode, hc, rfl, spacing_of_unquoted hquotes hnode hc⟩

/-- With single spaces throughout, a redirection between two words leaves two of them. -/
theorem Command.spacing_around_redirection :
    ∃ parts k, Node.parse "echo a > f b".toList = .ok (.call parts) ∧
      ofText "echo a > f b".toList = .ok (.call k) ∧
      k.text = "echo a  b".toList ∧
      k.text ≠ Text.join [' '] (Text.words (parts.flatMap Part.literalText)) ∧
      ¬ k.text.IsChain Text.Apart := by
  have hnode : Node.parse "echo a > f b".toList = .ok (.call
      [.literal "echo a ".toList, .redirect .output "f".toList, .literal " b".toList]) := rfl
  have hc : ofText "echo a > f b".toList = .ok (.call
      { text := "echo a  b".toList, redirections := [⟨.output, "f".toList, .plain⟩] }) := by
    rw [ofText_eq, hnode]
    rfl
  exact ⟨_, _, hnode, hc, rfl, by decide, by decide⟩

end LineShell
