import LineShell.Line.Parser
import LineShell.Command.Basic
import LineShell.Command.Draft

/-!
# From parse trees to commands

`Node.assembleWith` turns a parse tree into a command, given how the text of a substitution is
read; `Command.ofText` ties the knot: a substitution is read as a line of its own.

Each call is assembled from its own parts alone.  Empty members of a sequence are dropped, and a
sequence of one member is that member.

`Command.summaries` lists the calls in the order in which reading a line assembles them, up to
the first that fails; this is what the log shows of it.
-/

namespace LineShell

/-! ## Calls -/

/-- The substitution of a call, its text read by `read`. -/
def Draft.substitution (read : Text → Except SyntaxError Command) (d : Draft) :
    Except SyntaxError (Option (Substitution Command)) :=
  match d.pending with
  | none => .ok none
  | some inner =>
    let (before, after) := d.around inner
    if d.disqualified then
      .ok (some ⟨.raw inner, Text.trimStart before, Text.trimEnd after⟩)
    else if Text.isBlankText inner then .ok none
    else
      match read inner with
      | .error e => .error e
      | .ok command =>
        .ok (some ⟨.parsed command, Text.trimStart before, Text.trimEnd after⟩)

/-- Assembles a call from its parts. -/
def Call.assemble (read : Text → Except SyntaxError Command) (piped : Bool)
    (parts : List Part) : Except SyntaxError (Call Command) :=
  match Draft.gather piped parts with
  | .error e => .error e
  | .ok (d, redirections) =>
    match d.substitution read with
    | .error e => .error e
    | .ok substitution =>
      .ok ⟨Text.trim d.text, redirections, substitution, d.disqualified⟩

/-! ## Trees -/

/-- A sequence from its members. -/
def Command.ofMembers (members : List Command) : Except SyntaxError Command :=
  match members.filter fun c => !c.isEmptyCall with
  | [] => .error .emptyLine
  | [c] => .ok c
  | children => .ok (.sequence children)

namespace Node

mutual

/-- Assembles a node; `piped` says that it is a stage with another one after it. -/
def assembleStage (read : Text → Except SyntaxError Command) (piped : Bool) :
    Node → Except SyntaxError Command
  | .sequence members =>
    match assembleMembers read members with
    | .error e => .error e
    | .ok children => Command.ofMembers children
  | .pipeline stages =>
    match assembleStages read stages with
    | .error e => .error e
    | .ok commands => .ok (.pipeline commands)
  | .call parts =>
    match Call.assemble read piped parts with
    | .error e => .error e
    | .ok c => .ok (.call c)

/-- Assembles the members of a sequence in order. -/
def assembleMembers (read : Text → Except SyntaxError Command) :
    List Node → Except SyntaxError (List Command)
  | [] => .ok []
  | node :: rest =>
    match assembleStage read false node with
    | .error e => .error e
    | .ok c =>
      match assembleMembers read rest with
      | .error e => .error e
      | .ok cs => .ok (c :: cs)

/-- Assembles the stages of a pipeline in order. -/
def assembleStages (read : Text → Except SyntaxError Command) :
    List Node → Except SyntaxError (List Command)
  | [] => .ok []
  | node :: rest =>
    match assembleStage read (!rest.isEmpty) node with
    | .error e => .error e
    | .ok c =>
      match assembleStages read rest with
      | .error e => .error e
      | .ok cs => .ok (c :: cs)

end

/-- Assembles a parse tree, with substitutions read by `read`. -/
def assembleWith (read : Text → Except SyntaxError Command) (node : Node) :
    Except SyntaxError Command :=
  assembleStage read false node

end Node

/-- Reads a line as a command.  The text of a substitution is shorter than the line it stands in,
    so the test never fails and only bounds the recursion. -/
def Command.ofText (line : Text) : Except SyntaxError Command :=
  match Node.parse line with
  | .error e => .error e
  | .ok node =>
    node.assembleWith fun inner =>
      if inner.length < line.length then Command.ofText inner else .error .emptyLine
termination_by line.length

/-- Assembles a parse tree. -/
def Node.assemble (node : Node) : Except SyntaxError Command :=
  node.assembleWith Command.ofText

/-! ## Summaries for the log -/

/-- What the log says of an assembled call. -/
structure CallSummary where
  text : Text
  redirections : Nat
  substitution : Bool
  disqualified : Bool
deriving DecidableEq, Repr

/-- The summary of a call. -/
def Call.summary (c : Call Command) : CallSummary :=
  ⟨c.text, c.redirections.length, c.substitution.isSome, c.disqualified⟩

namespace Node

mutual

/-- The calls of a node in order, each with whether another stage follows it. -/
def calls (piped : Bool) : Node → List (Bool × List Part)
  | .sequence members => memberCalls members
  | .pipeline stages => stageCalls stages
  | .call parts => [(piped, parts)]

/-- The calls of the members of a sequence. -/
def memberCalls : List Node → List (Bool × List Part)
  | [] => []
  | node :: rest => calls false node ++ memberCalls rest

/-- The calls of the stages of a pipeline. -/
def stageCalls : List Node → List (Bool × List Part)
  | [] => []
  | node :: rest => calls (!rest.isEmpty) node ++ stageCalls rest

end

end Node

/-- The summaries of some calls in order, up to the first that cannot be assembled.  A
    substitution is summarised by `inner` and stands before the call that holds it. -/
def summariesOf (inner : Text → List CallSummary) :
    List (Bool × List Part) → List CallSummary
  | [] => []
  | (piped, parts) :: rest =>
    match Draft.gather piped parts with
    | .error _ => []
    | .ok (d, _) =>
      let before := (d.runnable?.map inner).getD []
      match Call.assemble Command.ofText piped parts with
      | .error _ => before
      | .ok c => before ++ c.summary :: summariesOf inner rest

/-- The calls that reading a line assembles, in order. -/
def Command.summaries (line : Text) : List CallSummary :=
  match Node.parse line with
  | .error _ => []
  | .ok node =>
    summariesOf
      (fun inner => if inner.length < line.length then Command.summaries inner else [])
      (node.calls false)
termination_by line.length

end LineShell
