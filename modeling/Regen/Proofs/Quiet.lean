import Regen.Proofs.Dispatch
import Regen.Proofs.Tool

/-!
# Sessions that write nothing

A session that writes nothing to the standard output stream and has failures of one kind only is put together
from such sessions, by one rule for each way of putting sessions together (`Session.Quiet`). Tools and formatters
are run by such sessions, and so is all that a process does before it serves a request.
-/

namespace Regen

/-! ### Sessions that write nothing -/

namespace Session

variable {α β : Type} {host : Host} {P Q : Failure → Prop}

/-- A session writes nothing to the standard output stream, and it has failures of one kind only. -/
def Quiet (host : Host) (P : Failure → Prop) (s : Session α) : Prop :=
  ∀ w, Program.output (s.runOn host w).2.journal = Program.output w.journal ∧
    ∀ e, (s.runOn host w).1 = .error e → P e

namespace Quiet

theorem pure (a : α) : Quiet host P (Pure.pure a) := fun _ => ⟨rfl, nofun⟩

theorem throw {e : Failure} (holds : P e) : Quiet host P (MonadExcept.throw e : Session α) :=
  fun _ => ⟨rfl, by rintro _ ⟨⟩; exact holds⟩

theorem ofExcept {r : Except Failure α} (each : ∀ e, r = .error e → P e) : Quiet host P (Session.ofExcept r) :=
  fun w => by rw [runOn_ofExcept]; exact ⟨rfl, each⟩

theorem bind {s : Session α} {f : α → Session β} (first : Quiet host P s)
    (rest : ∀ a, (∃ w, (s.runOn host w).1 = .ok a) → Quiet host P (f a)) : Quiet host P (s >>= f) := by
  intro w
  obtain ⟨silent, each⟩ := first w
  have later := fun a => rest a ∘ Exists.intro w
  rw [runOn_bind]
  generalize s.runOn host w = r at silent each later ⊢
  obtain ⟨e | a, v⟩ := r
  · exact ⟨silent, by rintro _ ⟨⟩; exact each e rfl⟩
  · obtain ⟨silent', each'⟩ := later a rfl v
    exact ⟨silent'.trans silent, each'⟩

theorem read {f : Host → Session α} (rest : Quiet host P (f host)) : Quiet host P (MonadReader.read >>= f) := rest

theorem tryCatch {s : Session α} {handle : Failure → Session α} (first : Quiet host Q s)
    (rest : ∀ e, Q e → Quiet host P (handle e)) : Quiet host P (MonadExcept.tryCatch s handle) := by
  intro w
  obtain ⟨silent, each⟩ := first w
  rw [runOn_tryCatch]
  generalize s.runOn host w = r at silent each ⊢
  obtain ⟨e | a, v⟩ := r
  · obtain ⟨silent', each'⟩ := rest e (each e rfl) v
    exact ⟨silent'.trans silent, each'⟩
  · exact ⟨silent, nofun⟩

theorem foldlM {f : β → α → Session β} {l : List α} (step : ∀ b, ∀ a ∈ l, Quiet host P (f b a)) (b : β) :
    Quiet host P (l.foldlM f b) := by
  induction l generalizing b with
  | nil => exact pure b
  | cons a l ih =>
    rw [List.foldlM_cons]
    exact bind (step b a (by simp)) fun b _ => ih (fun b a mem => step b a (by simp [mem])) b

theorem forM {f : α → Session PUnit} {l : List α} (step : ∀ a ∈ l, Quiet host P (f a)) :
    Quiet host P (l.forM f) := by
  induction l with
  | nil => exact pure _
  | cons a l ih => exact bind (step a (by simp)) fun _ _ => ih fun a mem => step a (by simp [mem])

theorem mono {s : Session α} (quiet : Quiet host P s) (weaker : ∀ e, P e → Q e) : Quiet host Q s :=
  fun w => ⟨(quiet w).1, fun e failed => weaker e ((quiet w).2 e failed)⟩

/-- A session that notes nothing writes nothing. -/
theorem of_journal {s : Session α} (same : ∀ w, (s.runOn host w).2.journal = w.journal) :
    Quiet host (fun _ => True) s :=
  fun w => ⟨by rw [same], fun _ _ => trivial⟩

theorem note {e : Event} (unwritten : Program.output [e] = []) : Quiet host P (Session.note e) := by
  intro w
  rw [runOn_note, World.noted_journal, Dispatch.output_append, unwritten, List.append_nil]
  exact ⟨rfl, nofun⟩

end Quiet

end Session

open Session (Quiet)

variable {host : Host}

/-! ### Tools -/

namespace Tool

theorem quiet_run (argv : List String) (s : Setting) : (run argv s).Quiet host fun e => (∃ f, e = .tool f) ∨
    e = .outOfRange ∧ Call.isUnfit ⟨argv, s.cwd, s.env, s.input⟩ = true := by
  intro w
  rw [runOn_run]
  refine ⟨by simp [after, Program.output], fun e failed => ?_⟩
  cases @failsWith_of_ending host ⟨argv, s.cwd, s.env, s.input⟩ _ _ failed with
  | unfit unfit => exact .inr ⟨rfl, unfit⟩
  | tool fault => exact .inl ⟨fault, rfl⟩

/-- The formatter ends well and gives what is no text. -/
def FormatsBadly (host : Host) (f source : String) : Prop :=
  ∃ t out err, (host.run (formatCall f source) t).1 = .ended 0 out err ∧ Text.decode? out = none

/-- Formatting fails as the tool does, or when the formatter gives no text or cannot be called. -/
theorem quiet_format (formatter : Option String) (source : String) : (format formatter source).Quiet host
    fun e => (∃ f, e = .tool f) ∨ ∃ f, formatter = some f ∧
      (e = .notText ∧ FormatsBadly host f source ∨ e = .outOfRange ∧ (formatCall f source).isUnfit = true) := by
  cases formatter with
  | none => exact .pure source
  | some f =>
    by_cases named : f = ""
    · subst named
      exact .pure source
    · intro w
      rw [runOn_format named]
      refine ⟨by simp [after, Program.output], fun e failed => ?_⟩
      cases ended : ending [f] (host.start (formatCall f source) w.files).1 with
      | error e' =>
        rw [ended] at failed
        cases failed
        cases @failsWith_of_ending host (formatCall f source) _ _ ended with
        | unfit unfit => exact .inr ⟨f, rfl, .inr ⟨rfl, unfit⟩⟩
        | tool fault => exact .inl ⟨fault, rfl⟩
      | ok output =>
        rw [ended] at failed
        have ran := (Host.start_fst_eq_some_iff.1 (ending_eq_ok_iff.1 ended)).2
        simp only [Except.bind, textOf] at failed
        split at failed
        · cases failed
        · next illegible =>
          cases failed
          exact .inr ⟨f, rfl, .inl ⟨rfl, w.files, output.1, output.2, ran, illegible⟩⟩

end Tool

/-! ### What a process does first -/

namespace Program

theorem quiet_ofFile (path : Path) : (Config.ofFile path).Quiet host fun _ => True := by
  refine .bind (.of_journal fun w => by rw [Session.runOn_isFile_snd]) fun there _ => ?_
  have rest (handle : Failure → Session Bytes) (throws : ∀ e, (handle e).Quiet host fun _ => True) :
      Session.Quiet host (fun _ => True) (do
        let content ← tryCatch (Session.readFile path) handle
        Session.ofExcept (Config.ofBytes path.toString content)) :=
    .bind (.tryCatch (.of_journal fun w => by rw [Session.runOn_readFile_snd]) fun e (_ : True) => throws e)
      fun content _ => .ofExcept fun _ _ => trivial
  cases there with
  | true => exact rest _ fun e => by cases e <;> exact .throw trivial
  | false => exact .bind (.throw trivial) fun _ _ => rest _ fun e => by cases e <;> exact .throw trivial

theorem quiet_output (argv : List String) (cwd : Option String) :
    (Tool.output argv cwd).Quiet host fun _ => True :=
  .bind ((Tool.quiet_run _ _).mono fun _ _ => trivial) fun out _ =>
    .bind (.of_journal fun w => by rw [Tool.runOn_text]) fun _ _ => .pure _

theorem quiet_ofEnvironment (host : Host) : Settings.ofEnvironment.Quiet host fun _ => True := by
  refine .read (.bind (.of_journal fun w => rfl) fun root _ => ?_)
  have rest (modulePath : String) : Session.Quiet host (fun _ => True) (do
      let config ← Config.load ((Settings.told (some (host.env.value Tool.configEnv))).map Path.ofString)
      return (⟨.plugin, .diff, root, modulePath, none, "", (Settings.runMode host.env).2,
        (Settings.told (some (host.env.value Tool.configEnv))).map Path.ofString, config⟩ : Settings)) := by
    refine .bind ?_ fun config _ => .pure _
    cases (Settings.told (some (host.env.value Tool.configEnv))).map Path.ofString with
    | none => exact .pure _
    | some path => exact quiet_ofFile path
  split
  · exact rest _
  · exact .bind (quiet_output _ _) fun modulePath _ => rest modulePath

theorem journal_openFile (p : Path) (w : World) : ((Log.openFile p).runOn host w).2.journal = w.journal := by
  rw [Log.openFile, Session.runOn_bind, Session.runOn_demand]
  cases p.hasNul with
  | true => rfl
  | false =>
    simp only [Bool.false_eq_true, if_false, Session.runOn_alter]
    split <;> rfl

theorem quiet_setUp (host : Host) (old : Log.Setup) (wish : Log.Wish) :
    (Log.setUp old wish).Quiet host fun _ => True := by
  unfold Log.setUp
  split
  · exact .pure _
  · refine .bind (.of_journal fun w => rfl) fun directory _ => ?_
    exact .tryCatch (.bind (.of_journal (journal_openFile _)) fun _ _ => .pure _) fun e (_ : True) => .pure _

/-- Warnings of missing programs write nothing. -/
theorem quiet_build (host : Host) (s : Settings) : (Registry.build s).Quiet host fun _ => True := by
  refine .bind (.read (.forM fun p _ => ?_)) fun _ _ => .pure _
  split
  split
  · exact .note rfl
  · exact .pure _

end Program

end Regen
