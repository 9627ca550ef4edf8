import Regen.Program

/-!
# The command

The outermost layer: it gathers the environment, the input and the files that the program is told
of, runs the program on them, and writes out what came of it. It starts no tools; to the program
every tool looks as if it were not installed.
-/

namespace Regen.Command

/-- The variables that the program looks at. -/
def watched : List String :=
  [Tool.pluginEnv, Tool.modulePathEnv, Tool.configEnv, Settings.protoRootEnv, Log.levelEnv,
   Log.fileEnv, Log.fileLevelEnv]

def readEnv : IO Env := do
  let found ← watched.mapM fun v => return (← IO.getEnv v).map fun value => (v, value)
  return found.filterMap id

/-- The rest of a stream. -/
partial def readAll (s : IO.FS.Stream) (seen : Bytes) : IO Bytes := do
  let chunk ← s.read 65536
  if chunk.isEmpty then return seen else readAll s (seen ++ chunk.toList)

/-- The files that the command line and the environment name. -/
def named (words : List String) (env : Env) : List String :=
  let asked := match CommandLine.read words with
    | some items => (CommandLine.value? items .config).toList
    | none => []
  (asked ++ [env.value Tool.configEnv, env.value Log.fileEnv]).filter (· ≠ "")

/-- The tree with a directory and those on the way to it. -/
def withDirectory (t : Files) (at_ : Place) : Files :=
  (List.range at_.length).foldl (fun t n => t.put (at_.take (n + 1)) .directory) t

/-- The tree with a named file, when it can be read. -/
def load (cwd : Place) (t : Files) (name : String) : IO Files := do
  let path := (Session.pathOf cwd).join name
  try
    let content ← IO.FS.readBinFile path.toString
    let at_ := path.collapsed.parts
    return (withDirectory t at_.dropLast).put at_ (.file content.toList false)
  catch _ => return t

/-- The numbers that a seed gives, others at each attempt and whenever more was done before. -/
def drawn (seed : Nat) (w : World) (attempt : Nat) : Nat :=
  (randNat (mkStdGen (seed + Staging.attempts * w.journal.length + attempt)) 0 (Nat.pow 37 8 - 1)).1

def hostOf (env : Env) (cwd : Place) (program : String) (seed : Nat) : Host where
  env := env
  cwd := cwd
  program := program
  locate _ := none
  run _ t := (.unstarted SystemFault.noEntry, t)
  draw := drawn seed

/-- Writes what differs between two trees. -/
def store (old new : Files) : IO Unit := do
  for (at_, entry) in new.entries do
    if old.get? at_ ≠ some entry then
      let name := (Session.pathOf at_).toString
      match entry with
      | .file content _ => IO.FS.writeBinFile name ⟨content.toArray⟩
      | .directory => IO.FS.createDirAll name
      | .link _ => pure ()

/-- Runs the program on the host; gives its exit status. -/
def run (words : List String) : IO UInt32 := do
  let env ← readEnv
  let cwd := (Path.ofString (← IO.currentDir).toString).parts
  let program := (← IO.appPath).toString
  let seed ← IO.rand 0 (Nat.pow 2 31)
  let input ← match (Settings.runMode env).1 with
    | .plugin => readAll (← IO.getStdin) []
    | .batch => pure []
  let files ← (named words env).foldlM (load cwd) (withDirectory .empty cwd)
  let (result, world) :=
    Session.runOn (Program.run words input) (hostOf env cwd program seed) ⟨files, []⟩
  store files world.files
  let out ← IO.getStdout
  out.write ⟨(Program.output world.journal).toArray⟩
  out.flush
  match result with
  | .ok ending =>
    IO.eprint (Program.errorOutput ending.log world.journal)
    match ending.outcome with
    | .ok status => return status.toUInt32
    | .error e =>
      IO.eprintln e.message
      return 1
  | .error e =>
    IO.eprintln e.message
    return 1

end Regen.Command

def main (words : List String) : IO UInt32 := Regen.Command.run words
