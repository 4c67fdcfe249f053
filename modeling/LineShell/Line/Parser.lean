import LineShell.Line.Node
import LineShell.Line.Error

/-!
# Reading a line

Lowest precedence first, the grammar is

* line: pipelines separated by `;`
* pipeline: calls separated by `|`
* call: literals, quoted spans and redirections
* quoted: a span of any kind, which may hold spans of the two other kinds
* redirection: `<`, `>`, `>>` or `<<`, spaces and tabs, a file name

It is read from left to right by a machine: `Reader` holds what has been read and `Reader.step`
takes one character.  Literal runs and operators are as long as possible, so `>>` is never two
outputs.  `Node.parse` folds the step over a text, so reading a text that is cut in two is
reading the first half and going on with the second.
-/

namespace LineShell

/-- The characters that end a literal run. -/
def isSpecial (c : Char) : Bool :=
  c = '\'' || c = '"' || c = '`' || c = ';' || c = '|' || c = '<' || c = '>'

/-- A quoted span whose closing delimiter has not been read. -/
structure OpenSpan where
  kind : Quote
  /-- The column of the opening delimiter. -/
  column : Nat
  /-- What has been read of its contents. -/
  contents : Quotation
deriving DecidableEq, Repr

/-- What the reader is in the middle of. -/
inductive Reading where
  /-- Unquoted text, or nothing yet. -/
  | plain
  /-- A single `<` or `>` has been read, which may still be doubled. -/
  | operator (direction : Direction)
  /-- An operator is complete; blanks are skipped as long as the target is empty. -/
  | target (op : Operator) (name : Text)
  /-- A quoted span is open, inside the open spans below it. -/
  | quoted (top : OpenSpan) (below : List OpenSpan)
deriving DecidableEq, Repr

/-- What has been read of a line. -/
structure Reader where
  /-- Members of the line that are complete. -/
  members : List Node := []
  /-- Stages of the open pipeline that are complete. -/
  stages : List (List Part) := []
  /-- Parts of the open call. -/
  parts : List Part := []
  /-- What is in progress. -/
  reading : Reading := .plain
  /-- How many characters have been read. -/
  count : Nat := 0
deriving Repr

namespace Reader

/-- Adds a character of unquoted text; a line break counts as a space. -/
def pushLiteral (c : Char) : List Part → List Part
  | [] => [.literal [if c = '\n' ∨ c = '\r' then ' ' else c]]
  | [.literal run] => [.literal (run ++ [if c = '\n' ∨ c = '\r' then ' ' else c])]
  | part :: parts => part :: pushLiteral c parts

/-- A pipeline from its stages: one stage stands alone, and of several none may be blank. -/
def pipelineOf (stages : List (List Part)) : Except SyntaxError Node :=
  match stages with
  | [parts] => .ok (.call parts)
  | _ =>
    if stages.any (fun parts => parts.all Part.isBlank) then .error .emptyStage
    else .ok (.pipeline (stages.map .call))

/-- Ends the open pipeline. -/
def closePipeline (r : Reader) : Except SyntaxError Reader :=
  match pipelineOf (r.stages ++ [r.parts]) with
  | .error e => .error e
  | .ok node => .ok { r with members := r.members ++ [node], stages := [], parts := [] }

/-- Takes a character where neither a quote nor a redirection is in progress. -/
def stepPlain (r : Reader) (c : Char) : Except SyntaxError Reader :=
  if c = ';' then r.closePipeline
  else if c = '|' then .ok { r with stages := r.stages ++ [r.parts], parts := [] }
  else if c = '<' then .ok { r with reading := .operator .input }
  else if c = '>' then .ok { r with reading := .operator .output }
  else
    match Quote.ofChar? c with
    | some kind => .ok { r with reading := .quoted ⟨kind, r.count + 1, .done⟩ [] }
    | none => .ok { r with parts := pushLiteral c r.parts }

/-- Takes a character after a complete operator. -/
def stepTarget (r : Reader) (op : Operator) (name : Text) (c : Char) :
    Except SyntaxError Reader :=
  if isBlank c || isSpecial c then
    if name.isEmpty then
      if c = ' ' ∨ c = '\t' then .ok { r with reading := .target op [] }
      else .error (.missingTarget op (r.count + 1))
    else stepPlain { r with parts := r.parts ++ [.redirect op name], reading := .plain } c
  else .ok { r with reading := .target op (name ++ [c]) }

/-- Takes a character inside a quoted span: its own delimiter closes it, another one opens an
    inner span, anything else is text. -/
def stepQuoted (r : Reader) (top : OpenSpan) (below : List OpenSpan) (c : Char) : Reader :=
  if c = top.kind.delimiter then
    match below with
    | [] => { r with parts := r.parts ++ [.quoted top.kind top.contents], reading := .plain }
    | next :: rest =>
      { r with
        reading := .quoted
          { next with contents := Quotation.pushSpan top.kind top.contents next.contents } rest }
  else
    match Quote.ofChar? c with
    | some kind => { r with reading := .quoted ⟨kind, r.count + 1, .done⟩ (top :: below) }
    | none =>
      { r with reading := .quoted { top with contents := top.contents.pushChar c } below }

/-- The operator with one character. -/
def single : Direction → Operator
  | .input => .input
  | .output => .output

/-- The operator with its character twice. -/
def doubled : Direction → Operator
  | .input => .heredoc
  | .output => .append

/-- The character of the operators of a direction. -/
def sign : Direction → Char
  | .input => '<'
  | .output => '>'

/-- Takes one character, its count apart. -/
def advance (r : Reader) (c : Char) : Except SyntaxError Reader :=
  match r.reading with
  | .plain => r.stepPlain c
  | .operator direction =>
    if c = sign direction then .ok { r with reading := .target (doubled direction) [] }
    else r.stepTarget (single direction) [] c
  | .target op name => r.stepTarget op name c
  | .quoted top below => .ok (r.stepQuoted top below c)

/-- Takes one character. -/
def step (r : Reader) (c : Char) : Except SyntaxError Reader :=
  (r.advance c).map fun r' => { r' with count := r.count + 1 }

/-- Ends what is in progress at the end of the line. -/
def settle (r : Reader) : Except SyntaxError Reader :=
  match r.reading with
  | .plain => .ok r
  | .operator direction => .error (.missingTarget (single direction) (r.count + 1))
  | .target op name =>
    if name.isEmpty then .error (.missingTarget op (r.count + 1))
    else .ok { r with parts := r.parts ++ [.redirect op name], reading := .plain }
  | .quoted top _ => .error (.unterminated top.kind top.column)

/-- A line from its members: one member stands alone. -/
def lineOf : List Node → Node
  | [node] => node
  | members => .sequence members

/-- The tree of a line that has been read to its end. -/
def finish (r : Reader) : Except SyntaxError Node := do
  let settled ← r.settle
  let closed ← settled.closePipeline
  return lineOf closed.members

end Reader

/-- Reads a line. -/
def Node.parse (line : Text) : Except SyntaxError Node :=
  if Text.isBlankText line then .error .emptyLine
  else do
    let reader ← line.foldlM Reader.step {}
    reader.finish

end LineShell
