import LineShell.Program.Basic

/-!
# Command line

The outer layer: it takes a picture of the files that the program works on, runs the program on
it, and carries out what has changed.

The picture holds the tree below the working directory, and of the home directory the two trees
that hold the configuration and what the program keeps for itself.
-/

namespace LineShell.Main

/-- Reads a stream to its end. -/
partial def readToEnd (stream : IO.FS.Stream) (done : ByteArray) : IO ByteArray := do
  let chunk ← stream.read 65536
  if chunk.isEmpty then return done else readToEnd stream (done ++ chunk)

/-- The entries below a directory.  A link is followed to its end, wherever that is. -/
partial def entriesBelow (dir : Place) : IO (List (Place × Entry)) := do
  let mut found := []
  for e in ← ((← IO.currentDir) / String.ofList dir.text).readDir do
    let place := dir ++ [e.fileName.toList]
    match (← e.path.symlinkMetadata).type with
    | .dir => found := found ++ (place, .directory) :: (← entriesBelow place)
    | .file =>
      let contents ← IO.FS.readBinFile e.path
      found := found ++ [(place, .file contents.toList)]
    | .symlink =>
      match ← (IO.FS.realPath e.path).toBaseIO with
      | .ok target => found := found ++ [(place, .link target.toString.toList)]
      | .error _ => pure ()
    | .other => pure ()
  return found

/-- The files below some directories, those that exist. -/
def picture (roots : List Place) : IO FileSystem := do
  let mut fs : FileSystem := {}
  for root in roots do
    match ← (entriesBelow root).toBaseIO with
    | .error _ => pure ()
    | .ok entries =>
      fs := fs.makeDirectories [] root
      for (place, entry) in entries do
        fs := fs.place place entry
  return (fs.place ["dev".toList, "null".toList] .null).place ["dev".toList, "full".toList] .full

/-- Carries out a change. -/
def carryOut (place : Place) (entry : Option Entry) : IO Unit := do
  let path := String.ofList place.text
  match entry with
  | some .directory => IO.FS.createDirAll path
  | some (.file contents) => IO.FS.writeBinFile path (ByteArray.mk contents.toArray)
  | _ => pure ()

/-- The time of day at which the process was started. -/
def clock : IO Text := do
  let info ← ((← IO.currentDir) / "/proc/self").metadata.toBaseIO
  let seconds : Nat :=
    match info with
    | .ok m => m.modified.sec.toNat % 86400
    | .error _ => 0
  let pair (n : Nat) : Text := if n < 10 then '0' :: Text.ofNat n else Text.ofNat n
  return pair (seconds / 3600) ++ ':' :: pair (seconds / 60 % 60) ++ ':' :: pair (seconds % 60)

/-- Runs the program on this machine. -/
def run (args : List String) : IO UInt32 := do
  let cwd := pathNames (← IO.currentDir).toString.toList
  let home := (← IO.getEnv "HOME").map String.toList
  let homePlace := pathNames (home.getD [])
  let kept := [".config/minish", ".local/share/minish"].map fun p => pathNames p.toList
  let files ← picture (cwd :: if home.isSome then kept.map (homePlace ++ ·) else [])
  let stdin ← readToEnd (← IO.getStdin) ByteArray.empty
  let r := Program.run (← clock) (args.map String.toList) stdin.toList ⟨files, cwd, home⟩
  for (place, entry) in FileSystem.changes [] files r.host.files do
    carryOut place entry
  (← IO.getStdout).putStr (String.ofList r.stdout)
  (← IO.getStderr).putStr (String.ofList r.stderr)
  return r.status.toUInt32

end LineShell.Main

/-- The command line. -/
def main (args : List String) : IO UInt32 := LineShell.Main.run args
