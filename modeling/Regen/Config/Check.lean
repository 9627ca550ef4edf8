import Regen.Config.Basic
import Regen.Document

/-!
# Checking a document against the form of a configuration

Every part of a document is checked, so that one run reports every problem, each with its
place. Problems stand in the order of the settings, then of list positions, then of table
entries; in an entry the key comes before the value. Unknown settings are passed over.
-/

namespace Regen

/-- A value, or all that is wrong with the document that should hold it. -/
inductive Checked (α : Type) where
  | good (a : α)
  | bad (first : Problem) (more : List Problem)

namespace Checked

variable {α β : Type}

def problems : Checked α → List Problem
  | good _ => []
  | bad p ps => p :: ps

def map (f : α → β) : Checked α → Checked β
  | good a => good (f a)
  | bad p ps => bad p ps

/-- Both values, or the problems of both. -/
def and (f : Checked (α → β)) (a : Checked α) : Checked β :=
  match f, a with
  | good f, good a => good (f a)
  | good _, bad p ps => bad p ps
  | bad p ps, a => bad p (ps ++ a.problems)

instance : Functor Checked := ⟨map, fun a => map fun _ => a⟩

instance : Seq Checked := ⟨fun f a => and f (a ())⟩

/-- The values of all, or the problems of all. -/
def all : List (Checked α) → Checked (List α)
  | [] => good []
  | c :: cs => and (map List.cons c) (all cs)

end Checked

/-- A check of a document that stands at a place. -/
abbrev Check (α : Type) := List Step → Document → Checked α

namespace Check

variable {α : Type}

def refuse (d : Defect) (place : List Step) : Checked α := .bad ⟨place, d⟩ []

/-- A text, also one that stands as its bytes or its code points. -/
def text : Check String := fun place d =>
  match d with
  | .text s => .good s
  | .codes cs => .good (String.ofList (Text.ofCodes cs))
  | .octets bs => match Text.decode? bs with
    | some s => .good s
    | none => refuse .unreadableText place
  | _ => refuse .notText place

def optionalText : Check (Option String) := fun place d =>
  match d with
  | .null => .good none
  | d => (text place d).map some

def trueWords : List String := ["1", "on", "t", "true", "y", "yes"]

def falseWords : List String := ["0", "off", "f", "false", "n", "no"]

/-- A truth value: as such, as one of the usual words in any case, or as the number 0 or 1. A number
    of more than 64 bits is nothing like one. -/
def truth : Check Bool := fun place d =>
  let word (s : String) : Checked Bool :=
    let w := s.map Char.toLower
    if trueWords.contains w then .good true
    else if falseWords.contains w then .good false
    else refuse .unreadableBool place
  let number (n : Int) : Checked Bool :=
    if n = 0 then .good false else if n = 1 then .good true else refuse .unreadableBool place
  match d with
  | .bool b => .good b
  | .text s => word s
  | .codes _ => refuse .unreadableText place
  | .octets bs => match Text.decode? bs with
    | some s => word s
    | none => refuse .unreadableBool place
  | .int n => if -Int.pow 2 63 ≤ n ∧ n < Int.pow 2 63 then number n else refuse .notBool place
  | .float x => match Document.integer? x with
    | some n => if -Int.pow 2 63 < n ∧ n < Int.pow 2 63 then number n else refuse .notBool place
    | none => refuse .notBool place
  | _ => refuse .notBool place

/-- The elements of a list. -/
def elements (d : Defect) (element : Check α) : Check (List α) := fun place doc =>
  let each (xs : List Document) : Checked (List α) :=
    .all (xs.zipIdx.map fun (x, i) => element (place ++ [.index i]) x)
  match doc with
  | .list xs => each xs
  | .pair a b => each [a, b]
  | .set xs => each xs
  | _ => refuse d place

def listOf (element : Check α) : Check (List α) := elements .notTuple element

/-- A list of texts that counts as a set. -/
def setOf : Check (List String) := fun place d =>
  (elements .notSet text place d).map List.eraseDups

/-- The step that a key stands for. A number that takes more than 64 bits stands as a text. -/
def keyStep : Document → Step
  | .int n => if -Int.pow 2 63 ≤ n ∧ n < Int.pow 2 63 then .index n else .key (Document.intText n)
  | .bool b => .index (if b then 1 else 0)
  | k => .key k.keyText

/-- A table from texts to texts. -/
def textTable : Check (List (String × String)) := fun place d =>
  match d with
  | .table entries =>
    (Checked.all (entries.map fun (k, v) =>
      let here := place ++ [keyStep k]
      .and ((text (here ++ [.key "[key]"]) k).map Prod.mk) (text here v))).map (Assoc.putAll [])
  | _ => refuse .notTable place

/-- The entries of a table of settings. -/
def settings (check : List (Document × Document) → Checked α) : Check α := fun place d =>
  match d with
  | .table entries => check entries
  | _ => refuse .notRecord place

/-- A setting, or what stands when it is not there. -/
def setting (place : List Step) (entries : List (Document × Document)) (name : String)
    (check : Check α) (default : α) : Checked α :=
  match Document.field? name entries with
  | some d => check (place ++ [.key name]) d
  | none => .good default

/-- A setting that has to be there. -/
def required (place : List Step) (entries : List (Document × Document)) (name : String)
    (check : Check α) : Checked α :=
  match Document.field? name entries with
  | some d => check (place ++ [.key name]) d
  | none => refuse .missing (place ++ [.key name])

def job : Check Job := fun place => settings (fun es =>
  Job.mk <$> required place es "path" text <*> setting place es "grpc" truth false
    <*> setting place es "annotate" setOf [] <*> setting place es "exclude" setOf []) place

def target : Check Target := fun place => settings (fun es =>
  Target.mk <$> setting place es "prefix" text "" <*> required place es "path" text) place

def relocation : Check Relocation := fun place => settings (fun es =>
  Relocation.mk <$> required place es "source" text <*> required place es "destination" text
    <*> setting place es "optional" truth false) place

/-- A table of overrides stands as such, or as the setting `entries` of a table. -/
def overrides : Check Overrides := fun place d =>
  match d with
  | .table es =>
    match Document.field? "entries" es with
    | some inner => (textTable (place ++ [.key "entries"]) inner).map Overrides.mk
    | none => (textTable (place ++ [.key "entries"]) d).map Overrides.mk
  | _ => refuse .notRecord place

/-- A text that is a search pattern. -/
def pattern : Check String := fun place d =>
  match text place d with
  | .good s => if (Pattern.read? s).isSome then .good s else refuse .badValue place
  | bad => bad

end Check

/-- The configuration that a document holds. -/
def Config.check (d : Document) : Checked Config :=
  Check.settings (fun es =>
    let setting {α : Type} (name : String) (check : Check α) (default : α) :=
      Check.setting [] es name check default
    Config.mk
      <$> setting "preamble" (Check.listOf Check.text) default.preamble
      <*> setting "overrides" Check.overrides default.overrides
      <*> setting "local" (Check.listOf Check.job) default.jobs
      <*> setting "remote" (Check.listOf Check.target) default.targets
      <*> setting "relocations" (Check.listOf Check.relocation) default.relocations
      <*> setting "plugins" Check.textTable default.plugins
      <*> setting "field_number_package" Check.text default.fieldTablePackage
      <*> setting "field_number_dir" Check.text default.fieldTableDir
      <*> setting "legacy_pattern" Check.pattern default.legacyPattern
      <*> setting "sync_suffixes" (Check.listOf Check.text) default.syncSuffixes
      <*> setting "gofmt" Check.optionalText default.formatter) [] d

/-- What breaks off the reading of the search pattern of a document. -/
def Config.patternFault? : Document → Option Failure
  | .table es =>
    match (Document.field? "legacy_pattern" es).map (Check.text []) with
    | some (.good s) =>
      match Pattern.breakOff? s with
      | some .countTooLarge => some .countTooLarge
      | some .codeTooLarge => some (.value .overflow)
      | some .tooDeep => some .tooDeep
      | some .tooWide => some .tooWide
      | _ => none
    | _ => none
  | _ => none

/-- The configuration that a document holds, or the failure with all problems. -/
def Config.ofDocument (d : Document) : Except Failure Config :=
  match patternFault? d, Config.check d with
  | some f, _ => .error f
  | none, .good c => .ok c
  | none, .bad p ps => .error (.notValid (p :: ps))

end Regen
