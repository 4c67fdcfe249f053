import LineShell.Line.Quote
import LineShell.Line.Redirection

/-!
# Parse trees

A `Node` is a command line before any interpretation: sequences of pipelines of calls, where a
call is a list of parts in source order.  `Node.render` prints a node back to text.
-/

namespace LineShell

/-- One part of a call. -/
inductive Part where
  /-- Unquoted text, blanks included. -/
  | literal (run : Text)
  /-- A quoted span. -/
  | quoted (kind : Quote) (contents : Quotation)
  /-- A redirection. -/
  | redirect (op : Operator) (target : Text)
deriving DecidableEq, Repr

namespace Part

/-- The source text of a part. -/
def render : Part → Text
  | literal run => run
  | quoted kind contents => kind.delimiter :: (contents.render ++ [kind.delimiter])
  | redirect op target => op.symbol ++ target

/-- Whether the part is unquoted text of blanks only. -/
def isBlank : Part → Bool
  | literal run => Text.isBlankText run
  | _ => false

end Part

/-- A parse tree. -/
inductive Node where
  /-- `a ; b ; c` -/
  | sequence (members : List Node)
  /-- `a | b | c` -/
  | pipeline (stages : List Node)
  /-- One call. -/
  | call (parts : List Part)
deriving Repr, Inhabited

namespace Node

mutual

/-- The source text of a node: members joined by `;`, stages by `|`. -/
def render : Node → Text
  | sequence members => renderAll ';' members
  | pipeline stages => renderAll '|' stages
  | call parts => parts.flatMap Part.render

/-- The source texts of some nodes with a separator between neighbours. -/
def renderAll (sep : Char) : List Node → Text
  | [] => []
  | [node] => node.render
  | node :: rest => node.render ++ sep :: renderAll sep rest

end

end Node

end LineShell
