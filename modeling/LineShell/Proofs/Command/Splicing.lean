import LineShell.Proofs.Command.Descent
import Mathlib.Tactic.Common

/-!
# Where a substitution is put in

A call keeps its substitution as three texts: what is run, and what stands before and behind it in
the text of the call.

**The span is found.**  The text is cut at the first occurrence of the backquoted span, and there is
one (`Draft.exists_splitOnce`).  It need not be the span itself: a literal may hold the same
characters.

**The three texts are the text.**  What stands before the span is trimmed at its start and what
stands behind it at its end, each by itself.  Backquotes are not blank, so this is the same as
trimming the whole (`Text.trim_append`), and the three put together are the text of the call.
-/

namespace LineShell

/-- A text that has a marker is cut at it, and nothing is lost. -/
lemma Text.splitOnce_of_infix {marker text : Text} (h : marker <:+: text) :
    ∃ before after, splitOnce marker text = some (before, after) ∧
      text = before ++ marker ++ after := by
  induction text with
  | nil =>
      obtain rfl := List.eq_nil_of_infix_nil h
      exact ⟨[], [], rfl, rfl⟩
  | cons c cs ih =>
      rw [splitOnce]
      split_ifs with hstart
      · obtain ⟨rest, hrest⟩ := List.isPrefixOf_iff_prefix.mp hstart
        refine ⟨[], (c :: cs).drop marker.length, rfl, ?_⟩
        rw [← hrest, List.nil_append, List.drop_left]
      · have hcs : marker <:+: cs := by
          rcases List.infix_cons_iff.mp h with hprefix | hcs
          · exact absurd (List.isPrefixOf_iff_prefix.mpr hprefix) hstart
          · exact hcs
        obtain ⟨before, after, hsplit, hcut⟩ := ih hcs
        refine ⟨c :: before, after, by rw [hsplit]; rfl, ?_⟩
        rw [hcut]
        rfl

/-- **The span of a draft is found in its text**, and trimming on either side of it is trimming the
    text. -/
lemma Draft.exists_splitOnce {piped : Bool} {parts : List Part} {d : Draft}
    {rs : List Redirection} (h : gather piped parts = .ok (d, rs)) {inner : Text}
    (hpending : d.pending = some inner) :
    ∃ before after, Text.splitOnce (backquote inner) d.text = some (before, after) ∧
      d.text = before ++ backquote inner ++ after ∧
      Text.trim d.text = Text.trimStart before ++ backquote inner ++ Text.trimEnd after := by
  have hspan := (infix_of_pending (gather_eq_ok_iff.mp h).1 hpending).2
  obtain ⟨before, after, hsplit, hcut⟩ := Text.splitOnce_of_infix hspan
  refine ⟨before, after, hsplit, hcut, ?_⟩
  rw [hcut]
  exact Text.trim_append (backquote_ne_nil inner) (trimmed_backquote inner) before after

/-- The texts that a payload stands for: a text stands for itself, a command for what is read as
    it. -/
def Payload.HeldBy (text : Text) : Payload Command → Prop
  | .raw held => held = text
  | .parsed command => Command.ofText text = .ok command

/-- A call is put together again from its substitution. -/
def Call.Spliced (k : Call Command) : Prop :=
  ∀ s, k.substitution = some s →
    ∃ text, s.payload.HeldBy text ∧ k.text = s.before ++ backquote text ++ s.after

/-- **A call is its substitution with the text on either side**, whatever its parts are made of. -/
lemma Call.spliced_of_assemble {piped : Bool} {parts : List Part} {k : Call Command}
    (h : Call.assemble Command.ofText piped parts = .ok k) : k.Spliced := by
  obtain ⟨d, hgather, hsub, htext, _⟩ := Call.exists_draft_of_assemble h
  intro s hs
  rw [hs] at hsub
  obtain ⟨inner, hpending, hbefore, hafter, hpayload⟩ := Draft.substitution_eq_some hsub
  obtain ⟨before, after, hsplit, _, htrim⟩ := Draft.exists_splitOnce hgather hpending
  have haround : d.around inner = (before, after) := by
    rw [Draft.around]
    exact congrArg (Option.getD · (d.text, [])) hsplit
  rw [haround] at hbefore hafter
  refine ⟨inner, ?_, by rw [htext, hbefore, hafter]; exact htrim⟩
  rcases hpayload with hraw | ⟨command, hparsed, _, hread⟩
  · rw [hraw]
    rfl
  · rw [hparsed]
    exact hread

/-- **Every substitution of a command is put in where its span stands.**  The calls of the command
    are put together again from their substitutions, and the fallback for a span that is not in
    the text of its call is never taken. -/
theorem Node.substitutions_spliced {node : Node} {c : Command} (h : node.assemble = .ok c) :
    (∀ k ∈ c.schedule, k.Spliced) ∧
      ∀ piped parts d rs inner, Draft.gather piped parts = .ok (d, rs) → d.pending = some inner →
        ∃ before after, Text.splitOnce (backquote inner) d.text = some (before, after) ∧
          Text.trim d.text = Text.trimStart before ++ backquote inner ++ Text.trimEnd after := by
  constructor
  · exact Command.forall_schedule_of_assemble (fun _ _ _ => Call.spliced_of_assemble) h
  · intro piped parts d rs inner hgather hpending
    obtain ⟨before, after, hsplit, _, htrim⟩ := Draft.exists_splitOnce hgather hpending
    exact ⟨before, after, hsplit, htrim⟩

/-- A literal that holds the same characters as the span behind it is where the text is cut. -/
theorem Node.substitutions_spliced_literal :
    ∃ k, Node.assemble (.call [.literal "echo  `a`".toList, .quoted .double
          (.text " x ".toList (.span .back (.text "a".toList .done) (.text "  ".toList .done)))]) =
        .ok (.call k) ∧
      k.substitution = some ⟨.parsed (.call ⟨"a".toList, [], none, false⟩), "echo ".toList,
        " x `a`".toList⟩ ∧
      k.Spliced := by
  have hinner : Command.ofText "a".toList = .ok (.call ⟨"a".toList, [], none, false⟩) := by
    rw [Command.ofText_eq]
    rfl
  have hgather : Draft.gather false [.literal "echo  `a`".toList, .quoted .double
      (.text " x ".toList (.span .back (.text "a".toList .done) (.text "  ".toList .done)))] =
        .ok (⟨"echo `a` x `a`  ".toList, some "a".toList, 1, false⟩, []) := rfl
  have hsub : Draft.substitution Command.ofText
      ⟨"echo `a` x `a`  ".toList, some "a".toList, 1, false⟩ =
        .ok (some ⟨.parsed (.call ⟨"a".toList, [], none, false⟩), "echo ".toList,
          " x `a`".toList⟩) := by
    simp only [Draft.substitution, hinner]
    rfl
  have hnode : Node.assemble (.call [.literal "echo  `a`".toList, .quoted .double
      (.text " x ".toList (.span .back (.text "a".toList .done) (.text "  ".toList .done)))]) =
        .ok (.call ⟨"echo `a` x `a`".toList, [], some ⟨.parsed (.call ⟨"a".toList, [], none,
          false⟩), "echo ".toList, " x `a`".toList⟩, false⟩) := by
    rw [assemble, assembleWith, assembleStage, Call.assemble, hgather]
    simp only [hsub]
    rfl
  exact ⟨_, hnode, rfl, (substitutions_spliced hnode).1 _ (Command.mem_schedule_call _)⟩

end LineShell
