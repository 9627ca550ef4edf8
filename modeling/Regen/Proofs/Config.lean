import Regen.Program
import Regen.Proofs.Overrides
import Regen.Proofs.Settings

/-!
# How loading a configuration ends

The bytes of a configuration file hold a configuration, or the user is told what is wrong with them, unless the
bytes escape that: they are no text, a value in the document has the right form and no meaning, or the search
pattern breaks off its reader (`Escapes`). On all other contents loading ends in a configuration with a pattern
that can be read or in a failure of the configuration, which a run reports and ends with status one
(`runOn_runBatch_config`). A content that escapes ends the run with a failure that nothing foresaw.
-/

namespace Regen

/-! ### Checked documents -/

namespace Checked

variable {α β : Type}

theorem map_eq_good_iff {f : α → β} {c : Checked α} {b : β} : f <$> c = .good b ↔ ∃ a, c = .good a ∧ f a = b := by
  cases c <;> simp [Functor.map, map]

theorem seq_eq_good_iff {f : Checked (α → β)} {c : Checked α} {b : β} :
    f <*> c = .good b ↔ ∃ g a, f = .good g ∧ c = .good a ∧ g a = b := by
  cases f <;> cases c <;> simp [Seq.seq, and]

end Checked

namespace Check

variable {place : List Step} {d : Document}

/-- What a setting holds was checked, unless it is what stands when the setting is not there. -/
theorem setting_eq_good {α : Type} {es : List (Document × Document)} {name : String} {check : Check α}
    {default a : α} (valid : setting place es name check default = .good a) :
    a = default ∨ ∃ d, check (place ++ [.key name]) d = .good a := by
  unfold setting at valid
  split at valid
  · exact .inr ⟨_, valid⟩
  · cases valid
    exact .inl rfl

theorem isSome_of_pattern {s : String} (valid : pattern place d = .good s) : (Pattern.read? s).isSome := by
  unfold pattern at valid
  cases read : text place d with
  | good s' =>
    rw [read] at valid
    simp only at valid
    split at valid
    · next reads =>
      cases valid
      exact reads
    · cases valid
  | bad p ps =>
    rw [read] at valid
    cases valid

end Check

namespace Config

variable {d : Document} {c : Config} {e : Failure} {path : String} {content : Bytes}

/-- The search pattern of a configuration was checked on its own. -/
theorem check_eq_good (valid : check d = .good c) :
    ∃ es, Check.setting [] es "legacy_pattern" Check.pattern default.legacyPattern = .good c.legacyPattern := by
  unfold check Check.settings at valid
  split at valid
  · next es =>
    simp only [Checked.seq_eq_good_iff, Checked.map_eq_good_iff] at valid
    obtain ⟨_, _, ⟨_, _, ⟨_, _, valid, pattern, rfl⟩, -, rfl⟩, -, rfl⟩ := valid
    obtain ⟨_, _, ⟨_, _, ⟨_, _, valid, -, rfl⟩, -, rfl⟩, -, rfl⟩ := valid
    obtain ⟨_, _, ⟨_, _, ⟨_, _, valid, -, rfl⟩, -, rfl⟩, -, rfl⟩ := valid
    obtain ⟨_, _, ⟨_, -, rfl⟩, -, rfl⟩ := valid
    exact ⟨es, pattern⟩
  · cases valid

theorem isSome_default : (Pattern.read? default.legacyPattern).isSome := by decide +kernel

/-- The search pattern of a configuration can be read, whether it is told or not. -/
theorem isSome_of_check (valid : check d = .good c) : (Pattern.read? c.legacyPattern).isSome := by
  obtain ⟨es, pattern⟩ := check_eq_good valid
  obtain untold | ⟨d, told⟩ := Check.setting_eq_good pattern
  · rw [untold]
    exact isSome_default
  · exact Check.isSome_of_pattern told

/-! ### Contents -/

/-- A content keeps its reader from reporting what is wrong with it, and ends it with a failure. -/
inductive Escapes (content : Bytes) : Failure → Prop
  /-- The bytes are no text. -/
  | notText (undecoded : Text.decodeChars? content = none) : Escapes content .notText
  /-- A value of the document has the right form, but there is no such value. -/
  | value {cs : List Char} {f : ValueFault} (decoded : Text.decodeChars? content = some cs)
      (read : Yaml.document (.ofList (Text.unifyFeeds cs)) = .error (.value f)) : Escapes content (.value f)
  /-- The reading of the search pattern breaks off: a count or a code in it is too large, its groups stand in each
      other too often, or it looks too far behind. -/
  | pattern {cs : List Char} {es : List (Document × Document)} {e : Failure}
      (decoded : Text.decodeChars? content = some cs)
      (read : Yaml.document (.ofList (Text.unifyFeeds cs)) = .ok (.table es))
      (broken : patternFault? (.table es) = some e) : Escapes content e

theorem patternFault?_eq_some (broken : patternFault? d = some e) :
    e = .countTooLarge ∨ e = .value .overflow ∨ e = .tooDeep ∨ e = .tooWide := by
  unfold patternFault? at broken
  grind

theorem Escapes.not_reported (escapes : Escapes content e) : e.isReported = false := by
  cases escapes with
  | notText => rfl
  | value => rfl
  | pattern _ _ broken => obtain rfl | rfl | rfl | rfl := patternFault?_eq_some broken <;> rfl

theorem ofDocument_of_fault (broken : patternFault? d = some e) : ofDocument d = .error e := by
  rw [ofDocument, broken]

/-- A document whose search pattern can be read to its end holds a configuration, or there are problems. -/
theorem ofDocument_cases (whole : patternFault? d = none) :
    (∃ c, ofDocument d = .ok c ∧ (Pattern.read? c.legacyPattern).isSome) ∨
      ∃ ps, ofDocument d = .error (.notValid ps) := by
  rw [ofDocument, whole]
  cases valid : check d with
  | good c => exact .inl ⟨c, rfl, isSome_of_check valid⟩
  | bad p ps => exact .inr ⟨_, rfl⟩

/-- A content that escapes ends its reader with its failure. -/
theorem ofBytes_of_escapes (escapes : Escapes content e) (path : String) : ofBytes path content = .error e := by
  cases escapes with
  | notText undecoded => rw [ofBytes, undecoded]
  | value decoded read => simp only [ofBytes, decoded, ofYaml, read]
  | pattern decoded read broken =>
    have ends := ofDocument_of_fault broken
    obtain rfl | rfl | rfl | rfl := patternFault?_eq_some broken <;> simp only [ofBytes, decoded, ofYaml, read, ends]

theorem not_escapes_of_config {f : ConfigFault} (ends : ofBytes path content = .error (.config f)) :
    ¬ Escapes content e := by
  intro escapes
  rw [ofBytes_of_escapes escapes] at ends
  cases ends
  cases escapes.not_reported

/-- A content that does not escape holds a configuration, or what is wrong with it is told. -/
theorem ofBytes_cases (path : String) (legible : ∀ e, ¬ Escapes content e) :
    (∃ c, ofBytes path content = .ok c ∧ (Pattern.read? c.legacyPattern).isSome) ∨
      ∃ f, ofBytes path content = .error (.config f) := by
  cases decoded : Text.decodeChars? content with
  | none => exact absurd (.notText decoded) (legible _)
  | some cs =>
    simp only [ofBytes, decoded, ofYaml]
    cases read : Yaml.document (.ofList (Text.unifyFeeds cs)) with
    | error f =>
      cases f with
      | value f => exact absurd (.value decoded read) (legible _)
      | _ => exact .inr ⟨_, rfl⟩
    | ok d =>
      cases d with
      | null => exact .inl ⟨default, rfl, isSome_default⟩
      | table es =>
        have whole : patternFault? (.table es) = none :=
          Option.eq_none_iff_forall_ne_some.2 fun e broken => legible e (.pattern decoded read broken)
        obtain ⟨c, holds, reads⟩ | ⟨ps, ends⟩ := ofDocument_cases whole
        · exact .inl ⟨c, by simp only [holds], reads⟩
        · exact .inr ⟨.invalid path ps, by simp only [ends]⟩
      | _ => exact .inr ⟨_, rfl⟩

variable {host : Host} {w : World} {path : Path}

/-- A configuration file that can be read is loaded as far as its content goes. -/
theorem runOn_ofFile_of_read (plain : path.hasNul = false) (there : w.files.isFile host.cwd path = .ok true)
    (read : w.files.read host.cwd path = .ok content) :
    (ofFile path).runOn host w = (ofBytes path.toString content, w) := by
  have found : (Session.isFile path).runOn host w = (.ok true, w) := by
    rw [Session.isFile, plain, if_neg Bool.false_ne_true, Session.runOn_inspect, there]
  have holds := Session.runOn_readFile_eq_ok_iff.2 ⟨plain, read, rfl⟩
  rw [ofFile, Session.runOn_bind_of_ok found]
  simp [Session.runOn_bind, Session.runOn_tryCatch, holds]

end Config

namespace Program

open CommandLine (Item has)

/-- How a run reports a failure. -/
def report (items : List Item) (e : Failure) : Event :=
  if has items .json then .emitted (errorSummary e) else .told (Text.unstyled s!"❌ {e.message}\n")

section

variable {host : Host} {w : World} {items : List Item} {e : Failure}

/-- Silence does not keep a failure from ending a session that did nothing. -/
theorem runOn_silently_of_error {α : Type} {body : Session α} (ends : body.runOn host w = (.error e, w)) :
    (Session.silently body).runOn host w = (.error e, w) := by
  have got : (get : Session World).runOn host w = (.ok w, w) := rfl
  rw [Session.silently, Session.runOn_bind_of_ok got, Session.runOn_ensuring body fun v => rfl, ends]
  simp

/-- A run whose settings cannot be found reports why, when it can. -/
theorem runOn_runBatch_of_error
    (ends : (Settings.ofOptions (CommandLine.options host.env items)).runOn host w = (.error e, w)) :
    (runBatch items).runOn host w =
      if e.isReported then (.ok 1, w.noted [report items e]) else (.error e, w) := by
  have asked : (read : Session Host).runOn host w = (.ok host, w) := rfl
  have work (k : Settings → Session Generation.Outcome) :
      Session.runOn (do k (← Settings.ofOptions (CommandLine.options (← read).env items))) host w =
        (.error e, w) := by
    rw [Session.runOn_bind_of_ok asked, Session.runOn_bind_of_error ends]
  unfold runBatch report
  cases json : has items .json with
  | true =>
    simp only [json, if_true]
    rw [Session.runOn_bind_of_ok (Session.runOn_attempt _), runOn_silently_of_error (work _)]
    cases reported : e.isReported with
    | true =>
      simp only [reported, if_true]
      exact Session.runOn_bind_of_ok (Session.runOn_note _) _
    | false => simp [reported]
  | false =>
    simp only [json, Bool.false_eq_true, if_false]
    rw [Session.runOn_bind_of_ok (Session.runOn_attempt _), work _]
    cases reported : e.isReported with
    | true =>
      simp only [reported, if_true]
      exact Session.runOn_bind_of_ok (Session.runOn_note _) _
    | false => simp [reported]

theorem runOn_ofOptions_of_error {o : Settings.Options} {path : Path} {root : String}
    (named : o.configPath = some path) (rooted : Settings.told o.protoRoot = some root)
    (ends : (Config.ofFile path).runOn host w = (.error e, w)) :
    (Settings.ofOptions o).runOn host w = (.error e, w) := by
  simp only [Settings.ofOptions_eq, rooted, named, Config.load]
  exact Session.runOn_bind_of_error ends _

end

namespace Sample

def items : List Item := [.field .protoRoot "/protos", .field .config "gen.yml"]

def path : Path := ⟨"", ["gen.yml"]⟩

def host : Host := ⟨[], ["repo"], "regen", fun _ => none, fun _ t => (.unstarted 0, t), fun _ n => n, fun _ => false⟩

/-- A configuration file with the given content in the current directory. -/
def world (content : Bytes) : World :=
  ⟨⟨[(["repo"], .directory), (["repo", "gen.yml"], .file content false)]⟩, []⟩

/-- A list that is not closed. -/
def unclosed : Bytes := Text.bytes "local: [unclosed\n"

theorem ofBytes_unclosed : Config.ofBytes path.toString unclosed =
    .error (.config (.malformed "gen.yml" Yaml.Fault.unexpected.message)) := by decide +kernel

theorem named : (CommandLine.options host.env items).configPath = some path := by decide

theorem rooted : Settings.told (CommandLine.options host.env items).protoRoot = some "/protos" := by decide

theorem there (content : Bytes) : (world content).files.isFile host.cwd path = .ok true := rfl

theorem read (content : Bytes) : (world content).files.read host.cwd path = .ok content := rfl

/-- A byte that is no text. -/
theorem runOn_ofFile_illegible :
    (Config.ofFile path).runOn host (world [0xFF]) = (.error .notText, world [0xFF]) :=
  Config.runOn_ofFile_of_read (by decide) (there _) (read _)

end Sample

end Program
end Regen
