import Regen.Session

/-!
# Logs

Messages go to the standard error stream and, when one is named, to a log file. Each of the two
has a level and passes over messages below it. A level that is no name of one is the level of
warnings.
-/

namespace Regen.Log

/-- The variables that stand for what the command line does not say. -/
def levelEnv : String := "GENPROTOS_LOG_LEVEL"

def fileEnv : String := "GENPROTOS_LOG_FILE"

def fileLevelEnv : String := "GENPROTOS_LOG_FILE_LEVEL"

def warning : Nat := 30

def error : Nat := 40

def levels : List (String × Nat) :=
  [("NOTSET", 0), ("DEBUG", 10), ("INFO", 20), ("WARN", 30), ("WARNING", 30), ("ERROR", 40),
   ("CRITICAL", 50), ("FATAL", 50)]

/-- The upper case of a letter whose upper case is an ASCII letter. -/
def upper (c : Char) : Char :=
  if c = 'ı' then 'I' else if c = 'ſ' then 'S' else c.toUpper

/-- The level that a text names, in any case. -/
def level (s : String) : Nat := (levels.lookup (s.map upper)).getD warning

/-- Where messages go. -/
structure Handler where
  /-- The log file; none stands for the standard error stream. -/
  file : Option Path
  level : Nat
  dateFormat : Option String
  deriving DecidableEq

/-- The level below which no message is made, and where messages go. -/
structure Setup where
  level : Nat
  handlers : List Handler
  deriving DecidableEq

/-- What stands before anything is set up. -/
def Setup.initial : Setup := ⟨warning, []⟩

/-- The handler for the standard error stream; below the level of warnings it tells the time. -/
def console (level : Nat) : Handler :=
  ⟨none, level, if level ≤ 20 then some "%H:%M:%S" else none⟩

/-- What is asked of a log. -/
structure Wish where
  level : String
  file : String
  /-- An empty text asks for the same level as that of the standard error stream. -/
  fileLevel : String
  deriving DecidableEq

/-- What an environment asks of a log when the command line asks for `level`. -/
def Wish.ofEnv (env : Env) (level : String) : Wish where
  level := if level = "" then env.value levelEnv else level
  file := env.value fileEnv
  fileLevel := env.value fileLevelEnv

/-- Opens a log file behind what it holds already. -/
def openFile (p : Path) : Session Unit := do
  Session.demand p
  Session.alter fun t base => do
    let old ← t.readOrEmpty base p
    t.write base p old

/-- Sets up a log in place of `old`. When the log file cannot be opened, messages go to the
    standard error stream and the level stays. -/
def setUp (old : Setup) (w : Wish) : Session (Setup × Option Failure) := do
  let first := console (level w.level)
  if w.file = "" then return (⟨first.level, [first]⟩, none)
  let directory := (← Session.currentDirectory).toString
  let path := Path.ofString (Path.normalized (Path.joinText directory w.file))
  let fileLevel := if w.fileLevel = "" then first.level else level w.fileLevel
  tryCatch (do
      openFile path
      return (⟨min first.level fileLevel,
        [first, ⟨some path, fileLevel, some "%Y-%m-%d %H:%M:%S"⟩]⟩, none))
    fun e => return (⟨old.level, [first]⟩, some e)

/-- A message of the given level is shown on the standard error stream. -/
def Setup.shows (s : Setup) (level : Nat) : Bool :=
  s.level ≤ level && s.handlers.any fun h => h.file.isNone && h.level ≤ level

end Regen.Log
