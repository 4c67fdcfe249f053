import LineShell.Application.Error
import LineShell.Command.Streams
import LineShell.Glob.Expand

/-!
# What applications read

**Files.**  `readFiles` reads the files of some arguments, wildcards expanded first.

**Implicit input.**  `Input.take` reads the input of an application that names no file: what was
piped into it, else its redirection, else standard input to its end.  `readLines` reads the lines
of a stream up to a delimiter line, which is consumed as well.
-/

namespace LineShell

/-- What the shell sees of the machine: its files, the working directory, the home directory. -/
structure Host where
  files : FileSystem
  cwd : Place
  home : Option Text
deriving DecidableEq, Repr

/-! ## Files -/

/-- The lines of a file. -/
def readFile (host : Host) (path : Text) : Except AppError (List Text) :=
  match host.files.readText host.cwd path with
  | .ok text => .ok (Text.splitLines text)
  | .error e => .error (.file path e)

/-- The paths that an argument stands for: its matches in order if it holds a star and has any,
    else the argument itself. -/
def expandArgument (host : Host) (arg : Text) : Except AppError (List Text) :=
  if arg.contains '*' then
    match Glob.expand host.files host.cwd arg with
    | .error e => .error (.glob e)
    | .ok [] => .ok [arg]
    | .ok paths => .ok paths
  else .ok [arg]

/-- The paths that some arguments stand for. -/
def expandArguments (host : Host) : List Text → Except AppError (List Text)
  | [] => .ok []
  | arg :: rest =>
    match expandArgument host arg with
    | .error e => .error e
    | .ok paths =>
      match expandArguments host rest with
      | .error e => .error e
      | .ok more => .ok (paths ++ more)

/-- The lines of some files one after another. -/
def readAll (host : Host) : List Text → Except AppError (List Text)
  | [] => .ok []
  | path :: rest =>
    match readFile host path with
    | .error e => .error e
    | .ok lines =>
      match readAll host rest with
      | .error e => .error e
      | .ok more => .ok (lines ++ more)

/-- The lines of the files that some arguments stand for. -/
def readFiles (host : Host) (args : List Text) : Except AppError (List Text) :=
  match expandArguments host args with
  | .error e => .error e
  | .ok paths => readAll host paths

/-! ## Streams -/

/-- The lines of a stream with their newlines. -/
def byteLines : Bytes → List Bytes
  | [] => []
  | b :: bs =>
    if b = 10 then [b] :: byteLines bs
    else
      match byteLines bs with
      | [] => [[b]]
      | l :: ls => (b :: l) :: ls

/-- A line without the line ends at its end. -/
def bareLine (s : Text) : Text := Text.dropEndWhile (fun c => c = '\n' || c = '\r') s

/-- Reads lines up to one that reads `delimiter`, or all of them, and answers with the lines left
    over.  A line that is not text ends the reading, and is consumed too. -/
def readLines (delimiter : Option Text) :
    List Bytes → Except FileError (List Text) × List Bytes
  | [] => (.ok [], [])
  | line :: rest =>
    match Utf8.decode? line with
    | none => (.error .invalidText, rest)
    | some text =>
      if delimiter = some (bareLine text) then (.ok [], rest)
      else
        match readLines delimiter rest with
        | (.ok lines, left) => (.ok (Text.terminated text :: lines), left)
        | (.error e, left) => (.error e, left)

/-- What an application may read from. -/
structure Input where
  /-- The input redirection. -/
  target : Option InputTarget := none
  /-- What the stage before it wrote; gone once it has been read. -/
  piped : Option (List Text) := none
  /-- What is left of standard input. -/
  stdin : Bytes := []
deriving DecidableEq, Repr

/-- Reads standard input up to a delimiter. -/
def Input.takeStdin (input : Input) (delimiter : Option Text) :
    Except AppError (List Text) × Input :=
  match readLines delimiter (byteLines input.stdin) with
  | (.ok lines, left) => (.ok lines, { input with stdin := left.flatten })
  | (.error e, left) => (.error (.file "<stdin>".toList e), { input with stdin := left.flatten })

/-- Reads the implicit input: what was piped wins, then the redirection, then standard input. -/
def Input.take (host : Host) (input : Input) : Except AppError (List Text) × Input :=
  match input.piped with
  | some fragments => (.ok (Text.splitLines fragments.flatten), { input with piped := none })
  | none =>
    match input.target with
    | some target =>
      if target.heredoc then input.takeStdin (some target.file)
      else (readFile host target.file, input)
    | none => input.takeStdin none

/-- Reads a file, or the implicit input if none is named. -/
def Input.contents (host : Host) (input : Input) :
    Option Text → Except AppError (List Text) × Input
  | some path => (readFiles host [path], input)
  | none => input.take host

end LineShell
