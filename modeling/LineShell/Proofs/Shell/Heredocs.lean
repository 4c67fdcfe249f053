import LineShell.Proofs.Shell.Pipelines
import LineShell.Proofs.Text.Lines
import LineShell.Proofs.Text.Utf8

/-!
# Reading standard input in blocks

Standard input is one stream for all commands, and each takes what it needs off the front: the
lines before its delimiter, or all that is left.

**Blocks.**  `Blocks` says what the readings take, line by line and without a stream: one block
after another, each up to the first line that reads its delimiter.

**Readings.**  They take these blocks and leave the lines behind them (`readBlocks_eq`).  The
stream is bytes and is cut at bytes, which on encoded text is where the newlines are
(`byteLines_encode`).

**Nothing is lost.**  Put together, what is taken, the delimiters and what is left are the text.
-/

namespace LineShell

/-! ## Blocks of lines -/

/-- The lines that one reading takes: those it answers with and the one it has stopped at, unless
    the lines have run out. -/
structure Block where
  body : List Text
  mark : Option Text := none
deriving DecidableEq, Repr

namespace Block

/-- What the reading answers with. -/
def answer (b : Block) : List Text := b.body.map Text.terminated

/-- All lines of the block as they stand. -/
def lines (b : Block) : List Text := b.body ++ b.mark.toList

/-- What the reading answers with, and the line it has stopped at. -/
def taken (b : Block) : List Text := b.answer ++ b.mark.toList

/-- The block is the front of some lines, up to the first one that reads `delimiter`. -/
structure Heads (delimiter : Text) (ls : List Text) (b : Block) (rest : List Text) : Prop where
  lines_eq : ls = b.lines ++ rest
  body_ne : ∀ l ∈ b.body, bareLine l ≠ delimiter
  mark_eq : ∀ l ∈ b.mark, bareLine l = delimiter
  rest_eq : b.mark = none → rest = []

end Block

/-- One block after another, each with its own delimiter. -/
inductive Blocks : List Text → List Text → List Block → List Text → Prop
  | nil {ls : List Text} : Blocks [] ls [] ls
  | cons {d : Text} {ds ls mid rest : List Text} {b : Block} {bs : List Block}
      (head : b.Heads d ls mid) (tail : Blocks ds mid bs rest) : Blocks (d :: ds) ls (b :: bs) rest

lemma Blocks.lines_eq {ds ls rest : List Text} {bs : List Block} (h : Blocks ds ls bs rest) :
    ls = bs.flatMap Block.lines ++ rest := by
  induction h with
  | nil => rfl
  | cons head _ ih => rw [head.lines_eq, ih, List.flatMap_cons, List.append_assoc]

/-- Only what a reading answers with is terminated. -/
lemma Block.forall₂_taken (b : Block) :
    List.Forall₂ (fun l l' => l' = l ∨ l' = Text.terminated l) b.lines b.taken := by
  refine List.rel_append (List.forall₂_map_right_iff.mpr ?_) ?_
  · exact List.forall₂_same.mpr fun l _ => .inr rfl
  · exact List.forall₂_same.mpr fun l _ => .inl rfl

/-- **Nothing is lost, repeated or moved.** -/
lemma Blocks.flatten_eq {ds ls rest : List Text} {bs : List Block} (h : Blocks ds ls bs rest)
    (hcut : Text.Cut ls) :
    (bs.flatMap Block.taken ++ rest).flatten = ls.flatten ∨
      (bs.flatMap Block.taken ++ rest).flatten = Text.terminated ls.flatten := by
  refine hcut.flatten_terminated ?_
  rw [h.lines_eq]
  refine List.rel_append ?_ (List.forall₂_same.mpr fun l _ => .inl rfl)
  clear h
  induction bs with
  | nil => exact .nil
  | cons b bs ih => exact List.rel_append b.forall₂_taken ih

/-! ## Cutting a stream -/

lemma byteLines_append {xs : Bytes} (hne : xs ≠ []) (hxs : 10 ∉ xs) (bs : Bytes) :
    byteLines (xs ++ bs) =
      match byteLines bs with
      | [] => [xs]
      | l :: ls => (xs ++ l) :: ls := by
  induction xs with
  | nil => exact absurd rfl hne
  | cons x xs ih =>
      rw [List.mem_cons, not_or] at hxs
      rw [List.cons_append, byteLines, if_neg (Ne.symm hxs.1)]
      cases xs with
      | nil => rfl
      | cons y ys =>
          rw [ih (List.cons_ne_nil y ys) hxs.2]
          cases byteLines bs <;> rfl

/-- **The lines of an encoded text** are its encoded lines. -/
lemma byteLines_encode (s : Text) :
    byteLines (Utf8.encode s) = (Text.lines s).map Utf8.encode := by
  induction s with
  | nil => rfl
  | cons c cs ih =>
      rw [Utf8.encode_cons, Text.lines]
      split_ifs with hc
      · subst hc
        rw [List.map_cons, ← ih]
        rfl
      · rw [byteLines_append (Utf8.encodeChar_ne_nil c) (Utf8.newline_notMem_encodeChar hc), ih]
        cases Text.lines cs with
        | nil => simp [Utf8.encode]
        | cons l ls => simp [Utf8.encode_cons]

/-! ## One reading -/

lemma readLines_none_encode (ls : List Text) :
    readLines none (ls.map Utf8.encode) = (.ok (ls.map Text.terminated), []) := by
  induction ls with
  | nil => rfl
  | cons l ls ih => simp [readLines, Utf8.decode?_encode, ih]

lemma readLines_encode (d : Text) (ls : List Text) :
    ∃ b rest, Block.Heads d ls b rest ∧
      readLines (some d) (ls.map Utf8.encode) = (.ok b.answer, rest.map Utf8.encode) := by
  induction ls with
  | nil => exact ⟨⟨[], none⟩, [], ⟨rfl, by simp, by simp, fun _ => rfl⟩, rfl⟩
  | cons l ls ih =>
      rw [List.map_cons, readLines]
      simp only [Utf8.decode?_encode]
      by_cases hl : bareLine l = d
      · refine ⟨⟨[], some l⟩, ls, ⟨rfl, by simp, by simpa using hl, by simp⟩, ?_⟩
        rw [if_pos (congrArg some hl.symm)]
        rfl
      · obtain ⟨b, rest, hb, hread⟩ := ih
        refine ⟨⟨l :: b.body, b.mark⟩, rest, ⟨?_, ?_, hb.mark_eq, hb.rest_eq⟩, ?_⟩
        · rw [hb.lines_eq]
          rfl
        · exact List.forall_mem_cons.mpr ⟨hl, hb.body_ne⟩
        · rw [if_neg (fun h => hl (Option.some.inj h).symm), hread]
          rfl

namespace Input

variable (host : Host)

/-- Without a delimiter all is read. -/
lemma take_bare {ls : List Text} (hcut : Text.Cut ls) :
    take host { stdin := Utf8.encode ls.flatten } = (.ok (ls.map Text.terminated), {}) := by
  simp [take, takeStdin, byteLines_encode, hcut.lines_flatten, readLines_none_encode]

/-- With a delimiter the first block is read, and the stream stands behind it. -/
lemma take_heredoc (d : Text) {ls : List Text} (hcut : Text.Cut ls) :
    ∃ b rest, Block.Heads d ls b rest ∧
      take host { target := some ⟨d, true⟩, stdin := Utf8.encode ls.flatten } =
        (.ok b.answer, { target := some ⟨d, true⟩, stdin := Utf8.encode rest.flatten }) := by
  obtain ⟨b, rest, hb, hread⟩ := readLines_encode d ls
  refine ⟨b, rest, hb, ?_⟩
  rw [Utf8.encode_flatten rest]
  simp [take, takeStdin, byteLines_encode, hcut.lines_flatten, hread]

end Input

/-! ## One reading after another -/

/-- Readings from one stream, each up to a delimiter of its own, and what they leave of it. -/
def readBlocks (host : Host) :
    List Text → Bytes → List (Except AppError (List Text)) × Bytes
  | [], stdin => ([], stdin)
  | d :: ds, stdin =>
    let (answer, input) := Input.take host { target := some ⟨d, true⟩, stdin }
    let (answers, left) := readBlocks host ds input.stdin
    (answer :: answers, left)

lemma readBlocks_eq (host : Host) (ds : List Text) {ls : List Text} (hcut : Text.Cut ls) :
    ∃ bs rest, Blocks ds ls bs rest ∧
      readBlocks host ds (Utf8.encode ls.flatten) =
        (bs.map fun b => .ok b.answer, Utf8.encode rest.flatten) := by
  induction ds generalizing ls with
  | nil => exact ⟨[], ls, .nil, rfl⟩
  | cons d ds ih =>
      obtain ⟨b, mid, hb, htake⟩ := Input.take_heredoc host d hcut
      have hmid : Text.Cut mid := by
        rw [hb.lines_eq] at hcut
        exact hcut.of_append
      obtain ⟨bs, rest, hbs, hread⟩ := ih hmid
      refine ⟨b :: bs, rest, .cons hb hbs, ?_⟩
      simp only [readBlocks, htake, hread]
      rfl

/-! ## One command after another -/

namespace Command

variable {registry : Registry} {run : Text → Shell → Run}

/-- A call of `cat` without arguments, with the redirection that `<<` makes of `delimiter`. -/
def catHeredoc (delimiter : Text) : Command :=
  .call { text := "cat".toList, redirections := [.ofOperator .heredoc delimiter] }

/-- Without arguments and with nothing piped into it, `cat` writes what it reads. -/
lemma exec_cat_of_take (hcat : registry.get? "cat".toList = some (.plain .cat))
    {redirections : List Redirection} {target : Option InputTarget}
    (hsplit : splitRedirections redirections = .ok { input := target }) {shell : Shell}
    {lines : List Text} {left : Input}
    (htake : Input.take shell.host { target, stdin := shell.stdin } = (.ok lines, left)) :
    exec registry run (.call { text := "cat".toList, redirections }) none shell =
      ⟨.ok (), ⟨lines⟩, { shell with
        stdin := left.stdin
        notes := shell.notes ++ [.dispatched "cat".toList (some ("cat".toList, []))] }⟩ := by
  have hrun : runCat shell.host { target, stdin := shell.stdin } [] =
      .success shell.host left lines := by
    simp [runCat, filterInput, Input.contents, htake]
  have happ : runApplication registry shell.host ⟨target, none, shell.stdin⟩ {} "cat".toList =
      ⟨.ok (), ⟨lines⟩, left, shell.host,
        [.dispatched "cat".toList (some ("cat".toList, []))]⟩ := by
    have hname : splitCommand "cat".toList = ("cat".toList, []) := rfl
    have hargs : arguments (Application.isRaw (.plain .cat)) [] = [] := rfl
    simp only [runApplication, hname, hcat, hargs, Application.run, Builtin.run, hrun]
    rfl
  rw [exec_of_literal (.inl rfl), hsplit]
  show dispatchCall registry { input := target } none shell "cat".toList = _
  simp only [dispatchCall, dispatch, happ]

/-- **The commands of a session** read as `readBlocks` does. -/
lemma execAll_catHeredoc (hcat : registry.get? "cat".toList = some (.plain .cat))
    {ds : List Text} {answers : List (List Text)} {left : Bytes} {shell : Shell}
    (h : readBlocks shell.host ds shell.stdin = (answers.map .ok, left)) :
    let r := execAll registry run (ds.map catHeredoc) shell
    r.result = .ok () ∧ r.output = ⟨answers.flatten⟩ ∧
      r.shell.host = shell.host ∧ r.shell.stdin = left := by
  induction ds generalizing answers shell with
  | nil =>
      simp only [readBlocks, Prod.mk.injEq, List.nil_eq, List.map_eq_nil_iff] at h
      obtain ⟨rfl, rfl⟩ := h
      exact ⟨rfl, rfl, rfl, rfl⟩
  | cons d ds ih =>
      simp only [readBlocks, Prod.mk.injEq] at h
      obtain ⟨hanswers, hleft⟩ := h
      cases answers with
      | nil => cases hanswers
      | cons answer answers =>
          rw [List.map_cons, List.cons.injEq] at hanswers
          let next : Shell := { shell with
            stdin := (Input.take shell.host ⟨some ⟨d, true⟩, none, shell.stdin⟩).2.stdin
            notes := shell.notes ++ [.dispatched "cat".toList (some ("cat".toList, []))] }
          have hexec : exec registry run (catHeredoc d) none shell = ⟨.ok (), ⟨answer⟩, next⟩ :=
            exec_cat_of_take hcat rfl (Prod.ext hanswers.1 rfl)
          have hrest : readBlocks next.host ds next.stdin = (answers.map .ok, left) :=
            Prod.ext hanswers.2 hleft
          obtain ⟨hresult, houtput, hhost, hstdin⟩ := ih hrest
          rw [List.map_cons, execAll, hexec]
          refine ⟨hresult, ?_, hhost, hstdin⟩
          simp only [Run.andThen, houtput, Channel.append, List.flatten_cons]

end Command

/-- **Heredocs and a bare reading share out standard input.**  Each heredoc takes the lines up to
    its delimiter and the bare reading takes the rest; together with the delimiters they are the
    text, with its last line terminated if a reading has taken it. -/
theorem readBlocks_partition {stdin : Bytes} {s : Text} (h : Utf8.decode? stdin = some s)
    (host : Host) (delimiters : List Text) :
    ∃ (blocks : List Block) (rest : List Text),
      Blocks delimiters (Text.lines s) blocks rest ∧
      readBlocks host delimiters stdin =
        (blocks.map fun b => .ok b.answer, Utf8.encode rest.flatten) ∧
      Input.take host { stdin := Utf8.encode rest.flatten } =
        (.ok (rest.map Text.terminated), { stdin := [] }) ∧
      ((blocks.flatMap Block.taken ++ rest).flatten = s ∨
        (blocks.flatMap Block.taken ++ rest).flatten = Text.terminated s) ∧
      ∀ (registry : Registry) (run : Text → Shell → Run) (shell : Shell),
        registry.get? "cat".toList = some (.plain .cat) → shell.host = host →
        shell.stdin = stdin →
        let r := Command.execAll registry run (delimiters.map Command.catHeredoc) shell
        let r' := Command.exec registry run (.call { text := "cat".toList }) none r.shell
        r.result = .ok () ∧ r.output = ⟨blocks.flatMap Block.answer⟩ ∧
          r.shell.stdin = Utf8.encode rest.flatten ∧
        r'.result = .ok () ∧ r'.output = ⟨rest.map Text.terminated⟩ ∧ r'.shell.stdin = [] := by
  obtain rfl := Utf8.decode?_eq_some_iff.mp h
  have hcut := Text.cut_lines s
  have hflat := Text.flatten_lines s
  obtain ⟨blocks, rest, hblocks, hread⟩ := readBlocks_eq host delimiters hcut
  have hwritten := hblocks.flatten_eq hcut
  rw [hflat] at hread hwritten
  have hrest : Text.Cut rest := by
    rw [hblocks.lines_eq] at hcut
    exact hcut.of_append
  have hbare := Input.take_bare host hrest
  refine ⟨blocks, rest, hblocks, hread, hbare, hwritten, ?_⟩
  rintro registry run shell hcat rfl hstdin r r'
  have hanswers : readBlocks shell.host delimiters shell.stdin =
      ((blocks.map Block.answer).map .ok, Utf8.encode rest.flatten) := by
    rw [hstdin, hread, List.map_map]
    rfl
  obtain ⟨hresult, houtput, hhost, hleft⟩ := Command.execAll_catHeredoc hcat hanswers
  rw [← hhost, ← hleft] at hbare
  have hr' : r' = _ := Command.exec_cat_of_take hcat rfl hbare
  rw [hr']
  refine ⟨hresult, ?_, hleft, rfl, rfl, rfl⟩
  rw [houtput, List.flatMap_def]

/-- Two heredocs, with and without carriage returns, on a text that lacks its last newline. -/
theorem readBlocks_partition_two :
    let host : Host := ⟨{}, [], none⟩
    let delimiters := ["E".toList, "F".toList]
    let s := "a\r\nE\r\nb\nF\nc".toList
    Utf8.decode? (Utf8.encode s) = some s ∧
    readBlocks host delimiters (Utf8.encode s) =
      ([.ok ["a\r\n".toList], .ok ["b\n".toList]], Utf8.encode "c".toList) ∧
    ∃ (blocks : List Block) (rest : List Text),
      Blocks delimiters ["a\r\n".toList, "E\r\n".toList, "b\n".toList, "F\n".toList, "c".toList]
        blocks rest ∧
      ([.ok ["a\r\n".toList], .ok ["b\n".toList]], Utf8.encode "c".toList) =
        (blocks.map fun b => (.ok b.answer : Except AppError _), Utf8.encode rest.flatten) ∧
      ((blocks.flatMap Block.taken ++ rest).flatten = s ∨
        (blocks.flatMap Block.taken ++ rest).flatten = Text.terminated s) := by
  intro host delimiters s
  have hdecode := Utf8.decode?_encode s
  have hread : readBlocks host delimiters (Utf8.encode s) =
      ([.ok ["a\r\n".toList], .ok ["b\n".toList]], Utf8.encode "c".toList) := rfl
  obtain ⟨blocks, rest, hblocks, hread', _, hwritten, _⟩ :=
    readBlocks_partition hdecode host delimiters
  exact ⟨hdecode, hread, blocks, rest, hblocks, hread.symm.trans hread', hwritten⟩

end LineShell
