import LineShell.Line.Node
import LineShell.Line.Error

/-!
# Drafts of calls

A `Draft` is the text of a call as it is put together from its parts, with what has been learned
about backquoted spans.

**Unwrapping.**  Quotes at the outside of a span are dropped, except backquotes; inner spans keep
theirs.  Blanks in literals collapse, blanks in quotes are kept.

**Backquotes.**  One under a backquote is refused.  One under single quotes disqualifies the
whole call.  The last one seen is the candidate for substitution.
-/

namespace LineShell

/-- The text of a call in the making. -/
structure Draft where
  text : Text := []
  /-- What the last backquoted span holds. -/
  pending : Option Text := none
  /-- How many backquoted spans there are. -/
  count : Nat := 0
  /-- Some backquoted span stands under single quotes. -/
  disqualified : Bool := false
deriving DecidableEq, Repr

namespace Draft

/-- Adds text. -/
def push (d : Draft) (s : Text) : Draft := { d with text := d.text ++ s }

/-- Adds a span of the given kind whose contents have been rebuilt, with its delimiters or
    without. -/
def pushSpan (d : Draft) (kind : Quote) (inner : Draft) (delimited : Bool) : Draft where
  text :=
    if delimited then d.text ++ kind.delimiter :: (inner.text ++ [kind.delimiter])
    else d.text ++ inner.text
  pending := if kind = .back then some inner.text else inner.pending.or d.pending
  count := d.count + inner.count + if kind = .back then 1 else 0
  disqualified := d.disqualified || inner.disqualified

/-- Rebuilds the rest of a span of kind `enclosing`, which stands in a span of kind `outermost`
    (itself, if it is the outer one), after what `d` holds already. -/
def rebuild (outermost : Quote) (enclosing : Quote) (d : Draft) :
    Quotation → Except SyntaxError Draft
  | .done => .ok d
  | .text run rest => rebuild outermost enclosing (d.push run) rest
  | .span kind inner rest =>
    if kind = .back ∧ (enclosing = .back ∨ outermost = .back) then .error .nestedSubstitution
    else
      match rebuild outermost kind {} inner with
      | .error e => .error e
      | .ok innerDraft =>
        let silenced := decide (kind = .back ∧ outermost = .single)
        let d' : Draft := { d with disqualified := d.disqualified || silenced }
        rebuild outermost enclosing (d'.pushSpan kind innerDraft true) rest

/-- Adds one part of a call.  A stage other than the last (`piped`) has no output redirection. -/
def addPart (piped : Bool) :
    Draft × List Redirection → Part → Except SyntaxError (Draft × List Redirection)
  | (d, rs), .literal run => .ok (d.push (Text.collapseBlanks run), rs)
  | (d, rs), .quoted kind contents =>
    match rebuild kind kind {} contents with
    | .error e => .error e
    | .ok inner => .ok (d.pushSpan kind inner (kind == .back), rs)
  | (d, rs), .redirect op target =>
    let r := Redirection.ofOperator op target
    if piped && r.direction == .output then .error .outputInPipeline
    else .ok (d, rs ++ [r])

/-- The draft and the redirections of a call: its parts in order, and at most one backquoted span
    unless the call is disqualified. -/
def gather (piped : Bool) (parts : List Part) :
    Except SyntaxError (Draft × List Redirection) :=
  match parts.foldlM (addPart piped) ({}, []) with
  | .error e => .error e
  | .ok (d, rs) =>
    if d.count > 1 && !d.disqualified then .error .manySubstitutions else .ok (d, rs)

/-- The text to run, when there is any: a span of blanks runs nothing, and neither does a
    disqualified one. -/
def runnable? (d : Draft) : Option Text :=
  d.pending.filter fun inner => !d.disqualified && !Text.isBlankText inner

/-- The text on either side of the backquoted span that holds `inner`. -/
def around (d : Draft) (inner : Text) : Text × Text :=
  (Text.splitOnce ('`' :: (inner ++ ['`'])) d.text).getD (d.text, [])

end Draft

end LineShell
