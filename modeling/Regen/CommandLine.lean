import Regen.Settings.Resolve

/-!
# The command line

Words that start with `-` are options, unless `--` stands before them. An option is a switch, or
it takes a value: the rest of its word behind `=`, or the next word. One-letter options may
stand in one word, and the letters behind one that takes a value are its value. Of an option
that is given several times the last value counts, except that overrides add up.
-/

namespace Regen.CommandLine

inductive Switch where
  | execute
  | skipLocal
  | skipRemote
  | json
  | verbose
  | quiet
  | debug
  | version
  | help
  deriving DecidableEq

inductive Field where
  | protoRoot
  | config
  | override
  | repoRoot
  | modulePath
  | plugin
  deriving DecidableEq

/-- An option by itself. -/
inductive Name where
  | switch (s : Switch)
  | field (f : Field)
  deriving DecidableEq

/-- One part of a command line. -/
inductive Item where
  | switch (s : Switch)
  | field (f : Field) (value : String)
  /-- A word that is no option. -/
  | extra (word : String)
  deriving DecidableEq

def longNames : List (String × Name) :=
  [("--execute", .switch .execute), ("--protoroot", .field .protoRoot),
   ("--config", .field .config), ("--override", .field .override),
   ("--repo-root", .field .repoRoot), ("--module-path", .field .modulePath),
   ("--plugin", .field .plugin), ("--skip-local", .switch .skipLocal),
   ("--skip-remote", .switch .skipRemote), ("--json-output", .switch .json),
   ("--json", .switch .json), ("--verbose", .switch .verbose), ("--quiet", .switch .quiet),
   ("--debug", .switch .debug), ("--version", .switch .version), ("--help", .switch .help)]

def letters : List (Char × Name) :=
  [('c', .field .config), ('v', .switch .verbose), ('q', .switch .quiet)]

/-- What a word holds: whole items, or items and an option that takes the next word. -/
inductive Word where
  | whole (items : List Item)
  | open_ (items : List Item) (f : Field)

/-- Reads letters that stand in one word. -/
def readLetters : List Char → Option Word
  | [] => some (.whole [])
  | c :: r =>
    match letters.lookup c with
    | none => none
    | some (.switch s) =>
      match readLetters r with
      | none => none
      | some (.whole is) => some (.whole (.switch s :: is))
      | some (.open_ is f) => some (.open_ (.switch s :: is) f)
    | some (.field f) =>
      if r.isEmpty then some (.open_ [] f) else some (.whole [.field f (String.ofList r)])

/-- Reads an option word. -/
def readWord (w : String) : Option Word :=
  let cs := w.toList
  let name := String.ofList (cs.takeWhile (· ≠ '='))
  let value := ((cs.dropWhile (· ≠ '=')).head?).map fun _ =>
    String.ofList ((cs.dropWhile (· ≠ '=')).drop 1)
  match longNames.lookup name, value with
  | some (.switch s), none => some (.whole [.switch s])
  | some (.switch _), some _ => none
  | some (.field f), some v => some (.whole [.field f v])
  | some (.field f), none => some (.open_ [] f)
  | none, _ => if cs.take 2 = ['-', '-'] then none else readLetters (cs.drop 1)

/-- The word is an option or ends the options. -/
def isOption (w : String) : Bool := w.toList.head? == some '-' && w != "-"

/-- The parts of a command line; nothing when it is malformed. -/
def read : List String → Option (List Item)
  | [] => some []
  | w :: ws =>
    if w = "--" then some (ws.map .extra)
    else if !isOption w then (read ws).map (.extra w :: ·)
    else
      match readWord w with
      | none => none
      | some (.whole is) => (read ws).map (is ++ ·)
      | some (.open_ is f) =>
        match ws with
        | [] => none
        | v :: ws => (read ws).map ((is ++ [.field f v]) ++ ·)

/-! ### What the parts ask for -/

def has (items : List Item) (s : Switch) : Bool := items.contains (.switch s)

/-- The values of an option. -/
def values (items : List Item) (f : Field) : List String :=
  items.filterMap fun i => match i with
    | .field g v => if f = g then some v else none
    | _ => none

/-- The value of an option that is given last. -/
def value? (items : List Item) (f : Field) : Option String := (values items f).getLast?

def hasExtra (items : List Item) : Bool :=
  items.any fun i => match i with
    | .extra _ => true
    | _ => false

/-- The first part that asks for a text about the program instead of a run. -/
def about? (items : List Item) : Option Switch :=
  items.findSome? fun i => match i with
    | .switch .version => some .version
    | .switch .help => some .help
    | _ => none

/-- The level of the log that is asked for; empty when none is. -/
def logLevel (items : List Item) : String :=
  if has items .debug then "DEBUG"
  else if has items .verbose then "INFO"
  else if has items .quiet then "ERROR"
  else ""

/-- The settings that are asked for. The source root may come from the environment. -/
def options (env : Env) (items : List Item) : Settings.Options where
  execute := has items .execute
  protoRoot := value? items .protoRoot <|>
    Settings.told (some (env.value Settings.protoRootEnv))
  configPath := (value? items .config).map Path.ofString
  overrides := values items .override
  repoRoot := (value? items .repoRoot).map Path.ofString
  modulePath := value? items .modulePath
  pluginExecutable := value? items .plugin

/-- The options that are given, in order. -/
def given (items : List Item) : List Field :=
  (items.filterMap fun i => match i with
    | .field f _ => some f
    | _ => none).eraseDups

/-- The path of an option is not that of something else: the configuration is no directory and
    the repository is no file. -/
def pathFits (t : Files) (base : Place) (items : List Item) (f : Field) : Except Failure Bool := do
  let value := (value? items f).getD ""
  if f ≠ .config ∧ f ≠ .repoRoot then return true
  if (Path.ofString value).hasNul then throw .outOfRange
  match f, t.findText? base value with
  | .config, some .directory => return false
  | .repoRoot, some (.file _ _) => return false
  | _, _ => return true

/-- The paths of all options fit. They are looked at in order, up to the first that does not. -/
def pathsFit (t : Files) (base : Place) (items : List Item) : Except Failure Bool :=
  (given items).foldlM (fun fit f => if fit then pathFits t base items f else return false) true

end Regen.CommandLine
