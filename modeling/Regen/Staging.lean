import Regen.Session

/-!
# Staging directories

Generated files go into a directory of their own inside the repository first. Its name is drawn
until it is free, and the directory is removed at the end, whether the work in it succeeded or not.
-/

namespace Regen.Staging

/-- The characters of a staging directory's name behind the head of the name. -/
def alphabet : List Char := "abcdefghijklmnopqrstuvwxyz0123456789_".toList

/-- The last `width` digits of `n` in the alphabet's base. -/
def letters : (width n : Nat) → List Char
  | 0, _ => []
  | width + 1, n =>
    letters width (n / alphabet.length) ++ [(alphabet[n % alphabet.length]?).getD 'a']

/-- The name that a drawn number stands for. -/
def candidate (n : Nat) : String := "tmp" ++ String.ofList (letters 8 n)

/-- Names are drawn at most this often. -/
def attempts : Nat := 238328

/-- What is told when none of the names drawn is free. -/
def noFreeName : Failure := .interrupted "[Errno 17] No usable temporary directory name found"

/-- Makes a directory of the first drawn name that is free, from attempt `n` on and out of `fuel`
    many. -/
def makeFrom (t : Files) (base : Place) (parent : Path) (draw : Nat → Nat) :
    (fuel n : Nat) → Except Failure (Path × Files)
  | 0, _ => .error noFreeName
  | fuel + 1, n =>
    let p := parent.append ⟨"", [candidate (draw n)]⟩
    match t.makeDirectory base p with
    | .ok t => .ok (p, t)
    | .error f =>
      if f.number = SystemFault.alreadyThere then makeFrom t base parent draw fuel (n + 1)
      else .error (.system f)

/-- Makes a staging directory inside `parent`. -/
def make (parent : Path) : Session Path := do
  Session.demand parent
  let host ← read
  let w ← get
  match makeFrom w.files host.cwd parent (host.draw w) attempts 0 with
  | .ok (p, t) =>
    set { w with files := t }
    return p
  | .error e => throw e

/-- Removes a staging directory and all that lies below it. -/
def remove (p : Path) : Session Unit := do
  let base := (← read).cwd
  modify fun w => { w with files := w.files.removeAll base p }

/-- Does work in a staging directory inside `parent`. -/
def within {α : Type} (parent : Path) (work : Path → Session α) : Session α := do
  let p ← make parent
  Session.ensuring (work p) (remove p)

end Regen.Staging
