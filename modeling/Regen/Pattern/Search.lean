import Regen.Pattern.Basic

/-!
# Searching for a pattern

A match is tried at each place of the text in turn. Where a pattern leaves a choice, the
alternatives are tried in the order in which they are preferred, each with all that follows it.
A repetition that has reached its least count ends with a round that reads nothing.
-/

namespace Regen.Pattern

/-- The text from a place on, of which a group matched so many characters. -/
structure Held where
  text : List Char
  count : Nat

/-- A place in the text and what the groups hold. The text in front is kept in reverse. -/
structure Cursor where
  before : List Char
  after : List Char
  held : List (Nat × Held)
  /-- How many characters stand in front. -/
  index : Nat
  index_eq : index = before.length

/-- The head of a text that stands behind `before`. -/
def Cursor.atHead (before text : List Char) : Cursor := ⟨before, text, [], before.length, rfl⟩

/-- What follows a node: the rest of the pattern, as a function of the place it starts at. -/
abbrev Follow := Cursor → Option Cursor

namespace Cursor

def isWordAt (ascii : Bool) (s : List Char) : Bool := s.head?.any (isWordChar ascii)

/-- Whether the cursor stands at a place. -/
def standsAt (u : Cursor) : Place → Bool
  | .start => u.before.isEmpty
  | .lineStart => u.before.isEmpty || u.before.head? == some '\n'
  | .stop => u.after.isEmpty
  | .lastStop => u.after.isEmpty || u.after == ['\n']
  | .lineStop => u.after.isEmpty || u.after.head? == some '\n'
  | .border negated ascii =>
    !(u.before.isEmpty && u.after.isEmpty) &&
      (isWordAt ascii u.before != isWordAt ascii u.after) != negated

/-- The cursor behind the next character, when it passes the test. -/
def step? (u : Cursor) (test : Char → Bool) : Option Cursor :=
  match u.after with
  | [] => none
  | c :: r =>
    if test c then some ⟨c :: u.before, r, u.held, u.index + 1, by simp [u.index_eq]⟩ else none

/-- The cursor behind the given text, when it stands next. -/
def read? (fold : Fold) (u : Cursor) (s : List Char) : Option Cursor :=
  s.foldlM (fun u c => u.step? fun d => fold.form d.toNat == fold.form c.toNat) u

/-- The cursor `n` characters further to the front. -/
def back? : Nat → Cursor → Option Cursor
  | 0, u => some u
  | n + 1, u =>
    match h : u.before with
    | [] => none
    | c :: r => back? n ⟨r, c :: u.after, u.held, u.index - 1, by simp [u.index_eq, h]⟩

/-- The text that a group holds. -/
def text? (u : Cursor) (group : Nat) : Option (List Char) :=
  (u.held.lookup group).map fun h => h.text.take h.count

/-- Notes that a group matched from `start` up to here. -/
def hold (u : Cursor) (group : Nat) (start : Cursor) : Cursor :=
  { u with held := (group, ⟨start.after, u.index - start.index⟩) :: u.held }

end Cursor

/-- Rounds of a repetition; `round` tries the body and then what follows it. A round beyond the
    least count is not tried where the one before it started, which is behind `last` characters. -/
def rounds (round : Follow → Cursor → Option Cursor) (greedy : Bool) (follow : Follow) :
    (fuel least : Nat) → (most last : Option Nat) → Cursor → Option Cursor
  | 0, _, _, _, u => follow u
  | fuel + 1, least + 1, most, last, u =>
    round (fun v => rounds round greedy follow fuel least (most.map (· - 1)) last v) u
  | fuel + 1, 0, most, last, u =>
    let here := some u.index
    if most = some 0 ∨ last = here then follow u
    else
      let again : Unit → Option Cursor := fun _ =>
        round (fun v => rounds round greedy follow fuel 0 (most.map (· - 1)) here v) u
      if greedy then again () <|> follow u else follow u <|> again ()

/-- The first way to match a node here and then all that follows it. -/
def run : Node → Follow → Cursor → Option Cursor
  | .empty, k, u => k u
  | .never, _, _ => none
  | .set negated fold items, k, u => u.step? (inSet negated fold items) >>= k
  | .any all, k, u => u.step? (fun c => all || c != '\n') >>= k
  | .place p, k, u => if u.standsAt p then k u else none
  | .seq a b, k, u => run a (run b k) u
  | .alt a b, k, u => run a k u <|> run b k u
  | .repeated least most greedy body, k, u =>
    rounds (run body) greedy k (least + u.after.length + 2) least most none u
  | .group index body, k, u => run body (fun v => k (v.hold index u)) u
  | .same index fold, k, u => (u.text? index).bind fun s => (u.read? fold s).bind k
  | .ahead negated body, k, u =>
    match run body some u with
    | some v => if negated then none else k { u with held := v.held }
    | none => if negated then k u else none
  | .behind negated width body, k, u =>
    match (u.back? width).bind (run body some) with
    | some v => if negated then none else k { u with held := v.held }
    | none => if negated then k u else none
  | .atomic body, k, u => (run body some u).bind k
  | .given index yes no, k, u => if (u.text? index).isSome then run yes k u else run no k u

theorem run_set (negated : Bool) (fold : Fold) (items : List Item) (k : Follow) (u : Cursor) :
    run (.set negated fold items) k u = u.step? (inSet negated fold items) >>= k := rfl

theorem run_any (all : Bool) (k : Follow) (u : Cursor) :
    run (.any all) k u = u.step? (fun c => all || c != '\n') >>= k := rfl

theorem run_place (p : Place) (k : Follow) (u : Cursor) :
    run (.place p) k u = if u.standsAt p then k u else none := rfl

theorem run_seq (a b : Node) (k : Follow) (u : Cursor) : run (.seq a b) k u = run a (run b k) u := rfl

/-- There is a round for each character that is left, and two rounds more than are required. -/
theorem run_rounds (least : Nat) (most : Option Nat) (greedy : Bool) (body : Node) (k : Follow) (u : Cursor) :
    run (.repeated least most greedy body) k u =
      rounds (run body) greedy k (least + u.after.length + 2) least most none u := rfl

/-- Tries the places of a text from the given one on. -/
def searchFrom (n : Node) (before : List Char) : List Char → Bool
  | [] => (run n some (.atHead before [])).isSome
  | c :: r => (run n some (.atHead before (c :: r))).isSome || searchFrom n (c :: before) r

/-- The pattern matches somewhere in the text. -/
def Node.occursIn (n : Node) (s : String) : Bool := searchFrom n [] s.toList

end Regen.Pattern
