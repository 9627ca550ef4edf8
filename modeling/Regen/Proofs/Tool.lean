import Regen.Proofs.Alike
import Regen.Tool

/-!
# What running a tool does

A tool is run with one call, which is noted, and what it leaves of the files stays however it ends
(`runOn_run`). Of several calls all end well, or there is a first one that does not (`succeed_or_fails`). Where a
host answers one call alike in related worlds (`Respects`), the tools of a run are run alike.
-/

namespace Regen

namespace Host

variable {host host' : Host} {call : Call} {t t' : Files}

theorem start_of_unfit (unfit : call.isUnfit = true) : host.start call t = (none, t) := by
  rw [start, if_pos unfit]

theorem start_of_fit (fit : call.isUnfit = false) :
    host.start call t = (some (host.run call t).1, (host.run call t).2) := by
  rw [start, fit, if_neg Bool.false_ne_true]

theorem start_fst_eq_some_iff {outcome : Outcome} :
    (host.start call t).1 = some outcome ↔ call.isUnfit = false ∧ (host.run call t).1 = outcome := by
  cases fit : call.isUnfit <;> simp [start, fit]

/-- Tools that answer alike do so when they are called. -/
theorem start_fst_congr (same : (host.run call t).1 = (host'.run call t').1) :
    (host.start call t).1 = (host'.start call t').1 := by
  cases fit : call.isUnfit <;> simp [start, fit, same]

/-- The files after a call are those that the tool leaves, or those before it. -/
theorem start_snd_of {P : Files → Prop} (before : P t) (after : P (host.run call t).2) :
    P (host.start call t).2 := by
  cases fit : call.isUnfit with
  | true => rwa [start_of_unfit fit]
  | false => rwa [start_of_fit fit]

end Host

namespace Tool

/-- The result of a tool that was called with `argv`. -/
def ending (argv : List String) : Option Outcome → Except Failure (Bytes × Bytes)
  | none => .error .outOfRange
  | some (.unstarted n) => .error (.tool ⟨argv, SystemFault.message ⟨n, argv.headD ""⟩, none⟩)
  | some (.ended status out err) =>
    if status = 0 then .ok (out, err)
    else .error (.tool ⟨argv, Text.decodeReplacing (out ++ err), some status⟩)

/-- The world after a call. -/
def after (host : Host) (call : Call) (w : World) : World :=
  ⟨(host.start call w.files).2, w.journal ++ [.ran call]⟩

/-- What holds of the files before a call, and of what its tool leaves, holds of the files after it. -/
theorem files_after_of {host : Host} {call : Call} {w : World} {P : Files → Prop} (before : P w.files)
    (ran : P (host.run call w.files).2) : P (after host call w).files := Host.start_snd_of before ran

/-- A tool that changes no files leaves a note of its call. -/
theorem after_eq_noted {host : Host} {call : Call} {w : World} (same : (host.run call w.files).2 = w.files) :
    after host call w = w.noted [.ran call] := by
  have files : (host.start call w.files).2 = w.files := Host.start_snd_of (P := (· = w.files)) rfl same
  rw [after, files]
  rfl

/-- The world after calls, one after the other. -/
def afterAll (host : Host) (w : World) (calls : List Call) : World := calls.foldl (fun w call => after host call w) w

variable {host : Host} {w : World} {R : World → World → Prop}

theorem afterAll_append (calls more : List Call) :
    afterAll host w (calls ++ more) = afterAll host (afterAll host w calls) more := List.foldl_append

theorem journal_afterAll (calls : List Call) (w : World) :
    (afterAll host w calls).journal = w.journal ++ calls.map .ran := by
  induction calls generalizing w with
  | nil => simp [afterAll]
  | cons call calls ih =>
    have rest : (afterAll host w (call :: calls)).journal = (afterAll host (after host call w) calls).journal := rfl
    rw [rest, ih]
    simp [after]

/-- A tool that is called ends with the status zero. -/
def EndsWell (host : Host) (w : World) (call : Call) : Prop :=
  ∃ out err, (host.start call w.files).1 = some (.ended 0 out err)

/-- The tools that are called, one after the other, all end well. -/
def Succeed (host : Host) : World → List Call → Prop
  | _, [] => True
  | w, call :: calls => EndsWell host w call ∧ Succeed host (after host call w) calls

theorem succeed_append (calls more : List Call) (w : World) :
    Succeed host w (calls ++ more) ↔ Succeed host w calls ∧ Succeed host (afterAll host w calls) more := by
  induction calls generalizing w with
  | nil => simp [Succeed, afterAll]
  | cons call calls ih =>
    have rest : afterAll host w (call :: calls) = afterAll host (after host call w) calls := rfl
    rw [List.cons_append, Succeed, Succeed, ih, rest, and_assoc]

theorem succeed_singleton (call : Call) : Succeed host w [call] ↔ EndsWell host w call :=
  and_iff_left trivial

/-- All calls end well, or there is a first one that does not. -/
theorem succeed_or_fails (calls : List Call) (w : World) : Succeed host w calls ∨
    ∃ front call rest, calls = front ++ call :: rest ∧ Succeed host w front ∧
      ¬ EndsWell host (afterAll host w front) call := by
  induction calls generalizing w with
  | nil => exact .inl trivial
  | cons call calls ih =>
    by_cases well : EndsWell host w call
    · rcases ih (after host call w) with succeed | ⟨front, failing, rest, rfl, succeed, fails⟩
      · exact .inl ⟨well, succeed⟩
      · exact .inr ⟨call :: front, failing, rest, rfl, ⟨well, succeed⟩, fails⟩
    · exact .inr ⟨[], call, calls, rfl, trivial, well⟩

theorem runOn_run (argv : List String) (s : Setting) :
    (run argv s).runOn host w =
      (ending argv (host.start ⟨argv, s.cwd, s.env, s.input⟩ w.files).1,
        after host ⟨argv, s.cwd, s.env, s.input⟩ w) := by
  unfold after
  have steps : (run argv s).runOn host w = Session.runOn (match
      (host.start ⟨argv, s.cwd, s.env, s.input⟩ w.files).1 with
      | none => throw .outOfRange
      | some (.unstarted n) =>
        throw (.tool ⟨argv, SystemFault.message ⟨n, argv.headD ""⟩, none⟩)
      | some (.ended status out err) =>
        if status = 0 then return (out, err)
        else throw (.tool ⟨argv, Text.decodeReplacing (out ++ err), some status⟩)) host
      ⟨(host.start ⟨argv, s.cwd, s.env, s.input⟩ w.files).2,
        w.journal ++ [.ran ⟨argv, s.cwd, s.env, s.input⟩]⟩ := rfl
  rw [steps]
  rcases (host.start ⟨argv, s.cwd, s.env, s.input⟩ w.files).1 with _ | n | ⟨status, out, err⟩
  · rfl
  · rfl
  · simp only [ending]
    split <;> rfl

/-- Bytes as a text, or the failure that they are none. -/
def textOf (bs : Bytes) : Except Failure String :=
  match Text.decode? bs with
  | some s => .ok s
  | none => .error .notText

theorem runOn_text (bs : Bytes) : (text bs).runOn host w = (textOf bs, w) := by
  unfold text textOf
  cases Text.decode? bs <;> rfl

/-- The call by which the compiler is run. -/
def Compiler.call (c : Compiler) (env : Env) (backends : String) (args : List String) : Call :=
  ⟨c.argv args, c.cwd, some (c.childEnv env backends), none⟩

/-- The compiler is run with its call, and what the tool says beside its end is dropped. -/
theorem runOn_compile_eq (c : Compiler) (backends : String) (args : List String) :
    (c.compile backends args).runOn host w =
      ((ending (c.argv args) (host.start (c.call host.env backends args) w.files).1).map fun _ => (),
        after host (c.call host.env backends args) w) := by
  have asked : (read : Session Host).runOn host w = (.ok host, w) := rfl
  rw [Compiler.compile, Session.runOn_bind_of_ok asked, Session.runOn_bind, runOn_run, Compiler.call]
  dsimp only
  cases ending (c.argv args) (host.start ⟨c.argv args, c.cwd, some (c.childEnv host.env backends), none⟩ w.files).1 <;> rfl

theorem runOn_compile {c : Compiler} {backends : String} {args : List String} {out err : Bytes}
    (ended : (host.start (c.call host.env backends args) w.files).1 = some (.ended 0 out err)) :
    (c.compile backends args).runOn host w = (.ok (), after host (c.call host.env backends args) w) := by
  rw [runOn_compile_eq, ended]
  rfl

/-- How a call fails: it cannot be made, or the tool has a fault, which tells the command line. -/
inductive FailsWith (call : Call) : Failure → Prop
  | unfit (unfit : call.isUnfit = true) : FailsWith call .outOfRange
  | tool (fault : ToolFault) (command : fault.command = call.argv) : FailsWith call (.tool fault)

/-- A call has a result when its tool ends with the status zero. -/
theorem ending_eq_ok_iff {argv : List String} {outcome : Option Outcome} {output : Bytes × Bytes} :
    ending argv outcome = .ok output ↔ outcome = some (.ended 0 output.1 output.2) := by
  rcases outcome with _ | n | ⟨status, out, err⟩
  · simp [ending]
  · simp [ending]
  · by_cases well : status = 0
    · simp [ending, well, Prod.ext_iff]
    · simp [ending, well]

theorem failsWith_of_ending {call : Call} {t : Files} {e : Failure}
    (failed : ending call.argv (host.start call t).1 = .error e) : FailsWith call e := by
  cases unfit : call.isUnfit with
  | true =>
    rw [Host.start_of_unfit unfit] at failed
    cases failed
    exact .unfit unfit
  | false =>
    rw [Host.start_of_fit unfit] at failed
    unfold ending at failed
    split at failed
    · next none => cases none
    · cases failed
      exact .tool _ rfl
    · split at failed
      · cases failed
      · cases failed
        exact .tool _ rfl

/-- The failure of a call, unless the tool ended well. -/
theorem ending_of_fails {call : Call} (fails : ¬ EndsWell host w call) :
    ∃ e, FailsWith call e ∧ ending call.argv (host.start call w.files).1 = .error e := by
  cases ended : ending call.argv (host.start call w.files).1 with
  | ok output => exact absurd ⟨_, _, ending_eq_ok_iff.1 ended⟩ fails
  | error e => exact ⟨e, failsWith_of_ending ended, rfl⟩

theorem runOn_compile_of_fails {c : Compiler} {backends : String} {args : List String}
    (fails : ¬ EndsWell host w (c.call host.env backends args)) :
    ∃ e, FailsWith (c.call host.env backends args) e ∧
      (c.compile backends args).runOn host w = (.error e, after host (c.call host.env backends args) w) := by
  obtain ⟨e, how, ended⟩ := ending_of_fails fails
  have ended : ending (c.argv args) _ = _ := ended
  refine ⟨e, how, ?_⟩
  rw [runOn_compile_eq, ended]
  rfl

/-- The call by which a formatter is run. -/
def formatCall (formatter : String) (source : String) : Call :=
  ⟨[formatter], none, none, some (Text.bytes source)⟩

theorem runOn_format {f : String} (named : f ≠ "") (source : String) :
    (format (some f) source).runOn host w =
      ((ending [f] (host.start (formatCall f source) w.files).1).bind fun out => textOf out.1,
        after host (formatCall f source) w) := by
  simp only [format, if_neg named, formatCall]
  rw [Session.runOn_bind, runOn_run]
  simp only [Setting.plain]
  cases ending [f] (host.start ⟨[f], none, none, some (Text.bytes source)⟩ w.files).1 with
  | error e => rfl
  | ok out => exact runOn_text out.1

/-- The calls by which a text is formatted; none without a formatter. -/
def formatCalls (formatter : Option String) (source : String) : List Call :=
  match formatter with
  | none => []
  | some f => if f = "" then [] else [formatCall f source]

theorem runOn_format_calls (formatter : Option String) (source : String) (w : World) :
    ∃ x, (format formatter source).runOn host w = (x, afterAll host w (formatCalls formatter source)) := by
  cases formatter with
  | none => exact ⟨.ok source, rfl⟩
  | some f =>
    by_cases named : f = ""
    · subst named
      exact ⟨.ok source, rfl⟩
    · rw [runOn_format named, formatCalls, if_neg named]
      exact ⟨_, rfl⟩

/-- On two hosts whose formatters answer alike the text comes out the same. -/
theorem runOn_format_both {host' : Host} {formatter : Option String} {source : String}
    (answers : ∀ f, formatter = some f → ∀ t t',
      (host.run (formatCall f source) t).1 = (host'.run (formatCall f source) t').1) (w w' : World) :
    ∃ x calls, (format formatter source).runOn host w = (x, afterAll host w calls) ∧
      (format formatter source).runOn host' w' = (x, afterAll host' w' calls) := by
  cases formatter with
  | none => exact ⟨.ok source, [], rfl, rfl⟩
  | some f =>
    by_cases named : f = ""
    · subst named
      exact ⟨.ok source, [], rfl, rfl⟩
    · refine ⟨_, [formatCall f source], runOn_format named source, ?_⟩
      rw [runOn_format named source, Host.start_fst_congr (answers f rfl w.files w'.files)]
      rfl

/-- The host answers a call alike in related worlds. -/
def Respects (host : Host) (R : World → World → Prop) (call : Call) : Prop :=
  ∀ w w', R w w' →
    (host.start call w.files).1 = (host.start call w'.files).1 ∧ R (after host call w) (after host call w')

theorem respects_of_keeps {I : World → Prop} {call : Call} (keeps : ∀ w, I w → I (after host call w)) :
    Respects host (fun w w' => w = w' ∧ I w) call := by
  rintro w _ ⟨rfl, holds⟩
  exact ⟨rfl, rfl, keeps w holds⟩

theorem alike_run {argv : List String} {s : Setting}
    (respects : Respects host R ⟨argv, s.cwd, s.env, s.input⟩) : (run argv s).Alike host R := by
  intro w w' related
  obtain ⟨same, after⟩ := respects w w' related
  rw [runOn_run, runOn_run]
  exact ⟨congrArg (ending argv) same, after⟩

theorem alike_compile {c : Compiler} {backends : String} {args : List String}
    (respects : Respects host R (c.call host.env backends args)) : (c.compile backends args).Alike host R := by
  have ran : Session.Alike host R (do
      let _ ← run (c.argv args) ⟨c.cwd, some (c.childEnv host.env backends), none⟩
      Pure.pure ()) := (alike_run respects).bind fun _ => .pure ()
  exact ran

theorem alike_text (bs : Bytes) : (text bs).Alike host R := by
  unfold text
  split
  · exact .pure _
  · exact .throw _

theorem alike_format {formatter : Option String} {source : String}
    (respects : ∀ f, formatter = some f → Respects host R (formatCall f source)) :
    (format formatter source).Alike host R := by
  unfold format
  split
  · exact .pure source
  · next f =>
    split
    · exact .pure source
    · exact (alike_run (respects f rfl)).bind fun out => alike_text out.1

end Tool
end Regen
