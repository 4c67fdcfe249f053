import LineShell.Application.Filter
import LineShell.Application.Help
import LineShell.Application.Input
import LineShell.Regex.Matcher
import LineShell.Text.Home

/-!
# Running applications

`Builtin.run` runs a builtin on its arguments.  A builtin sees the files but cannot change them,
and only `cd` moves the working directory: an `Outcome` has the lines written, the failure if
there is one, what is left of the input, and the working directory.

`Application.run` also runs the tolerant forms, which print a failure as a line and go on.
-/

namespace LineShell

/-- What running an application gives. -/
structure Outcome where
  /-- The lines written, also those before a failure. -/
  output : List Text := []
  failure : Option AppError := none
  input : Input
  cwd : Place
  /-- Failures that were printed instead. -/
  suppressed : List AppError := []
deriving DecidableEq, Repr

namespace Outcome

/-- Success with some lines. -/
def success (host : Host) (input : Input) (output : List Text) : Outcome :=
  { output, input, cwd := host.cwd }

/-- Failure without any. -/
def fail (host : Host) (input : Input) (e : AppError) : Outcome :=
  { failure := some e, input, cwd := host.cwd }

/-- Success or failure. -/
def ofExcept (host : Host) (input : Input) : Except AppError (List Text) → Outcome
  | .ok output => success host input output
  | .error e => fail host input e

end Outcome

/-! ## Arguments -/

/-- How many lines `head` and `tail` show. -/
def defaultCount : Nat := 10

/-- The arguments of `head` and `tail`: a count after `-n`, and a file. -/
def countAndFile (app : Builtin) (args : List Text) : Except AppError (Nat × Option Text) :=
  let count (n : Text) (file : Option Text) : Except AppError (Nat × Option Text) :=
    match Text.toCount? n with
    | some k => .ok (k, file)
    | none => .error (.invalidArguments app)
  match args with
  | [] => .ok (defaultCount, none)
  | [file] =>
    if file = "-n".toList then .error (.invalidArguments app)
    else .ok (defaultCount, some file)
  | [flag, n] =>
    if flag = "-n".toList then count n none else .error (.invalidArguments app)
  | [flag, n, file] =>
    if flag = "-n".toList then count n (some file) else .error (.invalidArguments app)
  | _ => .error (.invalidArguments app)

/-- The arguments of `sort` and `uniq`: whether the flag is there, and a file. -/
def flagAndFile (app : Builtin) (flag : Text) (args : List Text) :
    Except AppError (Bool × Option Text) :=
  match args with
  | [] => .ok (false, none)
  | [arg] => if arg = flag then .ok (true, none) else .ok (false, some arg)
  | [arg, file] =>
    if arg = flag then .ok (true, some file) else .error (.invalidArguments app)
  | _ => .error (.invalidArguments app)

/-! ## Filters -/

/-- Writes what `f` makes of the lines of a file or of the implicit input. -/
def filterInput (host : Host) (input : Input) (file : Option Text)
    (f : List Text → List Text) : Outcome :=
  match input.contents host file with
  | (.ok lines, input') => .success host input' (f lines)
  | (.error e, input') => .fail host input' e

/-- `cat [FILE]...` -/
def runCat (host : Host) (input : Input) (args : List Text) : Outcome :=
  if args.isEmpty then filterInput host input none id
  else .ofExcept host input (readFiles host args)

/-- `head [-n N] [FILE]` -/
def runHead (host : Host) (input : Input) (args : List Text) : Outcome :=
  match countAndFile .head args with
  | .error e => .fail host input e
  | .ok (n, file) => filterInput host input file (List.take n)

/-- `tail [-n N] [FILE]` -/
def runTail (host : Host) (input : Input) (args : List Text) : Outcome :=
  match countAndFile .tail args with
  | .error e => .fail host input e
  | .ok (n, file) => filterInput host input file (lastLines n)

/-- `sort [-r] [FILE]` -/
def runSort (host : Host) (input : Input) (args : List Text) : Outcome :=
  match flagAndFile .sort "-r".toList args with
  | .error e => .fail host input e
  | .ok (descending, file) =>
    filterInput host input file fun lines =>
      if descending then (sortLines lines).reverse else sortLines lines

/-- `uniq [-i] [FILE]` -/
def runUniq (host : Host) (input : Input) (args : List Text) : Outcome :=
  match flagAndFile .uniq "-i".toList args with
  | .error e => .fail host input e
  | .ok (ignoreCase, file) => filterInput host input file (uniqBy (lineKey ignoreCase))

/-- `cut -b LIST [FILE]` -/
def runCut (host : Host) (input : Input) (args : List Text) : Outcome :=
  let cut (list : Text) (file : Option Text) : Outcome :=
    match parseRanges? list with
    | some ranges => filterInput host input file (List.map (cutLine ranges))
    | none => .fail host input (.invalidArguments .cut)
  match args with
  | [flag, list] =>
    if flag = "-b".toList then cut list none else .fail host input (.invalidArguments .cut)
  | [flag, list, file] =>
    if flag = "-b".toList then cut list (some file)
    else .fail host input (.invalidArguments .cut)
  | _ => .fail host input (.invalidArguments .cut)

/-! ## Search in lines -/

/-- Whether a line matches, its newline left out. -/
def matchesLine (program : Regex.Program) (line : Text) : Bool :=
  program.isMatch (Text.dropEndWhile (· = '\n') line)

/-- The matching lines of some files in order, up to the first file that cannot be read; with its
    name before each if `named`. -/
def grepFiles (host : Host) (keep : Text → Bool) (named : Bool) :
    List Text → List Text × Option AppError
  | [] => ([], none)
  | path :: rest =>
    match readFile host path with
    | .error e => ([], some e)
    | .ok lines =>
      let found := (lines.filter keep).map fun line =>
        if named then path ++ ':' :: line else line
      let (more, failure) := grepFiles host keep named rest
      (found ++ more, failure)

/-- `grep PATTERN [FILE]...` -/
def runGrep (host : Host) (input : Input) (args : List Text) : Outcome :=
  match args with
  | [] => .fail host input (.invalidArguments .grep)
  | pattern :: files =>
    match Regex.Program.parse pattern with
    | .error e => .fail host input (.regex e)
    | .ok program =>
      if files.isEmpty then filterInput host input none (List.filter (matchesLine program))
      else
        match expandArguments host files with
        | .error e => .fail host input e
        | .ok paths =>
          let (output, failure) :=
            grepFiles host (matchesLine program) (paths.length > 1) paths
          { output, failure, input, cwd := host.cwd }

/-! ## Words -/

/-- `echo [ARG]...`: the line as it is, or its words with wildcards expanded if it holds a
    star. -/
def runEcho (host : Host) (input : Input) (args : List Text) : Outcome :=
  let line := Text.join [' '] args
  if line.contains '*' then
    match expandArguments host (Text.words line) with
    | .error e => .fail host input e
    | .ok words => .success host input [Text.join [' '] words ++ ['\n']]
  else .success host input [line ++ ['\n']]

/-! ## Directories -/

/-- `cd DIR` -/
def runCd (host : Host) (input : Input) (args : List Text) : Outcome :=
  match args with
  | [arg] =>
    let dir := Text.expandHome host.home arg
    match host.files.directoryAt host.cwd dir with
    | .ok place => { input, cwd := place }
    | .error e => .fail host input (.file dir e)
  | _ => .fail host input (.invalidArguments .cd)

/-- The path of the working directory, as long as it exists. -/
def Host.directory? (host : Host) : Option Text :=
  if host.files.find? host.cwd = some .directory then some host.cwd.text else none

/-- `pwd` -/
def runPwd (host : Host) (input : Input) (args : List Text) : Outcome :=
  if args.isEmpty then
    match host.directory? with
    | some path => .success host input [Text.terminated path]
    | none => .fail host input (.file ['.'] .notFound)
  else .fail host input (.invalidArguments .pwd)

/-- `ls [DIR|PATTERN]`: the entries that do not start with a dot, in order. -/
def runLs (host : Host) (input : Input) (args : List Text) : Outcome :=
  let list (target : Text) : Outcome :=
    if target.contains '*' then
      .ofExcept host input ((expandArgument host target).map (List.map Text.terminated))
    else
      match host.files.list host.cwd target with
      | .error e => .fail host input (.file target e)
      | .ok entries =>
        let names := (entries.map Prod.fst).filter fun name => name.head? ≠ some '.'
        .success host input ((Text.sort names).map Text.terminated)
  match args with
  | [] => list ['.']
  | [target] => list target
  | _ => .fail host input (.invalidArguments .ls)

/-- The paths of the entries below the directory of a path that are not directories and whose
    name passes a test, at most `depth` levels down.  Every directory is opened by its path; the
    first one that cannot be opened ends the search. -/
def findBelow (host : Host) (keep : Text → Bool) :
    (depth : Nat) → (path : Text) → Except AppError (List Text)
  | 0, _ => .ok []
  | depth + 1, path =>
    match host.files.list host.cwd path with
    | .error e => .error (.file path e)
    | .ok entries => do
      let found ← entries.mapM fun (name, entry) =>
        if entry.isDirectory then findBelow host keep depth (joinPath path name)
        else .ok (if keep name then [joinPath path name] else [])
      return found.flatten

/-- `find [PATH] -name PATTERN` -/
def runFind (host : Host) (input : Input) (args : List Text) : Outcome :=
  let search (root pattern : Text) : Outcome :=
    match Glob.Pattern.parse pattern with
    | .error e => .fail host input (.glob e)
    | .ok pattern =>
      .ofExcept host input ((findBelow host pattern.matches (host.files.depth + 1) root).map
        fun found => (Text.sort found).map Text.terminated)
  match args with
  | [flag, pattern] =>
    if flag = "-name".toList then search ['.'] pattern
    else .fail host input (.invalidArguments .find)
  | [root, flag, pattern] =>
    if flag = "-name".toList then search root pattern
    else .fail host input (.invalidArguments .find)
  | _ => .fail host input (.invalidArguments .find)

/-! ## All together -/

/-- Runs a builtin. -/
def Builtin.run (b : Builtin) (host : Host) (input : Input) (args : List Text) : Outcome :=
  match b with
  | .cd => runCd host input args
  | .pwd => runPwd host input args
  | .ls => runLs host input args
  | .find => runFind host input args
  | .echo => runEcho host input args
  | .cat => runCat host input args
  | .head => runHead host input args
  | .tail => runTail host input args
  | .grep => runGrep host input args
  | .sort => runSort host input args
  | .uniq => runUniq host input args
  | .cut => runCut host input args
  | .help => .success host input (helpLines.map Text.terminated)

/-- An application: a builtin, or the form of an application that prints its failures. -/
inductive Application where
  | plain (b : Builtin)
  | tolerant (inner : Application)
deriving DecidableEq, Repr

namespace Application

/-- Whether the application takes the rest of the command line as one argument. -/
def isRaw : Application → Bool
  | plain b => b.isRaw
  | tolerant inner => inner.isRaw

/-- The line that stands for a failure. -/
def failureLine (e : AppError) : Text := Text.terminated ("Error: ".toList ++ e.message)

/-- Runs an application. -/
def run (host : Host) (input : Input) (args : List Text) : Application → Outcome
  | plain b => b.run host input args
  | tolerant inner =>
    let o := run host input args inner
    match o.failure with
    | none => o
    | some e =>
      { o with
        output := o.output ++ [failureLine e]
        failure := none
        suppressed := o.suppressed ++ [e] }

end Application

end LineShell
