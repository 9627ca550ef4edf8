import Regen.Failure
import Regen.Files.Walk

/-!
# Sessions

A session runs on a host, which gives the environment and runs tools, and changes a world: the
file tree and a journal of all that was done. A failing session keeps what it changed before it
failed.
-/

namespace Regen

/-- Names of environment variables with their values. -/
abbrev Env := List (String × String)

/-- The start of a tool. -/
structure Call where
  argv : List String
  cwd : Option String
  env : Option Env
  input : Option Bytes
  deriving DecidableEq

/-- A text holds the character that ends texts for the system. -/
def holdsNul (s : String) : Bool := s.toList.contains '\x00'

/-- A call that no system can be asked for: a text of it would end early, or the name of a variable
    holds the sign behind names. -/
def Call.isUnfit (c : Call) : Bool :=
  c.argv.any holdsNul || c.cwd.any holdsNul ||
    (c.env.getD []).any fun v => holdsNul v.1 || holdsNul v.2 || v.1.toList.contains '='

/-- What became of a call: the number of the fault that kept it from starting, or its end. -/
inductive Outcome where
  | unstarted (fault : Nat)
  | ended (status : Int) (stdout stderr : Bytes)
  deriving DecidableEq

/-- The value of a variable; a variable without a value is empty. -/
def Env.value (env : Env) (name : String) : String := (Assoc.get? env name).getD ""

/-- One thing done in a session. -/
inductive Event where
  /-- A tool was called, whether it could be started or not. -/
  | ran (call : Call)
  /-- A generator was asked for a file; `stable` asks for an answer without tool versions. -/
  | asked (generator : String) (file : String) (stable : Bool)
  /-- A part of the report on the files of a run. -/
  | emitted (text : String)
  /-- Bytes on the standard output stream. -/
  | answered (bytes : Bytes)
  /-- A warning for the log. -/
  | warned (text : String)
  /-- A text on the standard error stream. -/
  | told (text : String)
  deriving DecidableEq

structure World where
  files : Files
  journal : List Event

/-- What a session runs on. A tool is a function of its call and of the files. -/
structure Host where
  env : Env
  cwd : Place
  /-- The name by which the running program was started. -/
  program : String
  /-- Where a program is found on the search path. -/
  locate : String → Option String
  run : Call → Files → Outcome × Files
  /-- The number that is drawn for the name of a new directory, at each attempt in turn. Draws may
      depend on all that was done before, and no two runs need draw alike. -/
  draw : World → Nat → Nat := fun _ attempt => attempt
  /-- The reader of annotations, given bytes that are no text, finds fault with what stands in front of the first line
      that is none. -/
  objects : Bytes → Bool := fun _ => false

/-- What comes of a call, and the files after it; nothing comes of a call that cannot be made. -/
def Host.start (host : Host) (call : Call) (t : Files) : Option Outcome × Files :=
  if call.isUnfit then (none, t) else (some (host.run call t).1, (host.run call t).2)

abbrev Session := ReaderT Host (ExceptT Failure (StateM World))

namespace Session

/-- The result of a session and the world after it. -/
def runOn {α : Type} (s : Session α) (host : Host) (w : World) : Except Failure α × World :=
  Id.run ((ReaderT.run s host).run.run w)

def note (e : Event) : Session Unit := modify fun w => { w with journal := w.journal ++ [e] }

def warn (text : String) : Session Unit := note (.warned text)

def emit (text : String) : Session Unit := note (.emitted text)

def tell (text : String) : Session Unit := note (.told text)

def ofExcept {α : Type} : Except Failure α → Session α
  | .ok a => pure a
  | .error e => throw e

def fail {α : Type} (e : Failure) : Session α := throw e

/-- Looks at the files. -/
def look {α : Type} (f : Files → Place → α) : Session α := do
  return f (← get).files (← read).cwd

/-- Looks at the files, which may be a fault. -/
def inspect {α : Type} (f : Files → Place → Except SystemFault α) : Session α := do
  match f (← get).files (← read).cwd with
  | .ok a => pure a
  | .error e => throw (.system e)

/-- Changes the files. -/
def alter (f : Files → Place → Except SystemFault Files) : Session Unit := do
  match f (← get).files (← read).cwd with
  | .ok t => modify fun w => { w with files := t }
  | .error e => throw (.system e)

/-- The absolute path of a place. -/
def pathOf (at_ : Place) : Path := ⟨"/", at_⟩

/-- The current directory. -/
def currentDirectory : Session Path := return pathOf (← read).cwd

/-- Refuses a path that the file system cannot be asked for. -/
def demand (p : Path) : Session Unit := if p.hasNul then throw .outOfRange else pure ()

/-- The absolute path that a path stands for, without links and `..`. -/
def resolve (p : Path) : Session Path := do
  demand p
  match ← look fun t base => t.resolve base p with
  | some at_ => return pathOf at_
  | none => throw (.endlessLinks p.toString)

/-- Whether there is a file at the end of a path. -/
def isFile (p : Path) : Session Bool :=
  if p.hasNul then pure false else inspect fun t base => t.isFile base p

def readFile (p : Path) : Session Bytes := do
  demand p
  inspect fun t base => t.read base p

def readOrEmpty (p : Path) : Session Bytes := do
  demand p
  inspect fun t base => t.readOrEmpty base p

/-- Makes a directory and those around it that are missing. -/
def makeDirectories (p : Path) : Session Unit := do
  demand p
  let (t, fault) := (← get).files.makeDirectories (← read).cwd p
  modify fun w => { w with files := t }
  match fault with
  | none => pure ()
  | some f => throw (.system f)

/-- Writes a file; the directories around it are made first, and stay when it cannot be
    written. -/
def writeFile (p : Path) (content : Bytes) : Session Unit := do
  makeDirectories p.parent
  demand p
  alter fun t base => t.write base p content

/-- Copies a file over another one; the directories around it are made first. -/
def copyFile (source destination : Path) : Session Unit := do
  writeFile destination (← readFile source)

/-- The names of the files below a directory, in order. -/
def walkNames (root : Path) (endings : Option (List String)) : Session (List (List String)) := do
  demand root
  look fun t base => t.walkNames base root endings

/-- The paths of the files below a directory, in order. -/
def walk (root : Path) (endings : Option (List String)) : Session (List Path) := do
  return (← walkNames root endings).map fun names => ⟨root.root, root.parts ++ names⟩

/-- The result of `body`, which may be a failure; what it changed stays. -/
def attempt {α : Type} (body : Session α) : Session (Except Failure α) :=
  tryCatch (.ok <$> body) fun e => pure (.error e)

/-- Runs `last` after `body`, whether it failed or not. -/
def ensuring {α : Type} (body : Session α) (last : Session Unit) : Session α := do
  let r ← attempt body
  last
  ofExcept r

def isEmitted : Event → Bool
  | .emitted _ => true
  | _ => false

/-- Runs `body` without the report on files that it gives. -/
def silently {α : Type} (body : Session α) : Session α := do
  let before := (← get).journal.length
  ensuring body (modify fun w =>
    { w with journal :=
      w.journal.take before ++ (w.journal.drop before).filter (!isEmitted ·) })

end Session
end Regen
