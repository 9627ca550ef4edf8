import Regen.Pattern.Search

/-!
# What a search finds

Matching goes on where a node ends. One equation for each kind of node says what becomes of a text there: a character
is read or it is not (`run_char_cons`, `run_char_of_ne`), an optional node is tried before it is left out
(`run_optional`), the body of a line is read up to its line feed (`run_line`), and what reads one part after the
other is repeated as often as there are parts (`run_repeated`). `firstMatch?` gives the first match of a pattern, with
what stands in front of it and behind it; there is one just when the pattern occurs (`isSome_firstMatch?`).
-/

namespace Regen.Pattern

/-- The character itself. -/
def Node.char (c : Char) : Node := .set false .exact [.char c.toNat]

/-- The text, and behind it the node. -/
def Node.text (cs : List Char) (n : Node) : Node := cs.foldr (fun c n => .seq (.char c) n) n

variable {k : Follow} {n : Node} {c d : Char} {before after r : List Char}

theorem inSet_char : inSet false .exact [.char c.toNat] d = decide (d = c) := by
  have same : c.toNat = d.toNat ↔ d = c := Char.toNat_inj.trans eq_comm
  simp [inSet, Fold.alike, Fold.form, same]

theorem run_char_cons (k : Follow) (c : Char) (before r : List Char) :
    run (.char c) k (.atHead before (c :: r)) = k (.atHead (c :: before) r) := by
  have step : (Cursor.atHead before (c :: r)).step? (inSet false .exact [.char c.toNat]) =
      some (.atHead (c :: before) r) := by
    simp [Cursor.step?, Cursor.atHead, inSet_char]
  rw [Node.char, run_set, step]
  rfl

theorem run_char_of_ne (other : after.head? ≠ some c) : run (.char c) k (.atHead before after) = none := by
  have step : (Cursor.atHead before after).step? (inSet false .exact [.char c.toNat]) = none := by
    cases after with
    | nil => rfl
    | cons d r =>
      have differ : d ≠ c := by simpa using other
      simp [Cursor.step?, Cursor.atHead, inSet_char, differ]
  rw [Node.char, run_set, step]
  rfl

theorem run_text_append (cs : List Char) (before r : List Char) :
    run (.text cs n) k (.atHead before (cs ++ r)) = run n k (.atHead (cs.reverse ++ before) r) := by
  induction cs generalizing before with
  | nil => rfl
  | cons c cs ih =>
    have first : run (.text (c :: cs) n) k (.atHead before (c :: cs ++ r)) =
        run (.text cs n) k (.atHead (c :: before) (cs ++ r)) := run_char_cons ..
    rw [first, ih, List.reverse_cons, List.append_assoc, List.singleton_append]

theorem run_text_of_not_prefix {cs : List Char} (other : ¬ cs <+: after) :
    run (.text cs n) k (.atHead before after) = none := by
  induction cs generalizing before after with
  | nil => exact absurd (List.nil_prefix) other
  | cons c cs ih =>
    have first : run (.text (c :: cs) n) k (.atHead before after) =
        run (.char c) (run (.text cs n) k) (.atHead before after) := rfl
    rw [first]
    by_cases here : after.head? = some c
    · obtain ⟨r, rfl⟩ := List.head?_eq_some_iff.1 here
      rw [run_char_cons]
      exact ih fun below => other (List.cons_prefix_cons.2 ⟨rfl, below⟩)
    · exact run_char_of_ne here

/-- A round that may be tried is tried before what follows. -/
theorem rounds_none {round : Follow → Cursor → Option Cursor} {fuel : Nat} {last : Option Nat} {u : Cursor}
    (moved : last ≠ some u.index) : rounds round true k (fuel + 1) 0 none last u =
      (round (rounds round true k fuel 0 none (some u.index)) u <|> k u) := by
  have go : ¬ ((none : Option Nat) = some 0 ∨ last = some u.index) := by simp [moved]
  rw [rounds]
  simp only [if_neg go]
  rfl

/-- An optional node is tried first. -/
theorem run_optional (n : Node) (k : Follow) (u : Cursor) :
    run (.repeated 0 (some 1) true n) k u = (run n k u <|> k u) := by
  have last : rounds (run n) true k (u.after.length + 1) 0 (some 0) (some u.index) = k := by
    funext v
    simp [rounds]
  have first : run (.repeated 0 (some 1) true n) k u =
      (run n (rounds (run n) true k (u.after.length + 1) 0 (some 0) (some u.index)) u <|> k u) := by
    rw [run_rounds, Nat.zero_add, rounds]
    simp
  rw [first, last]

theorem run_any_cons (plain : c ≠ '\n') :
    run (.any false) k (.atHead before (c :: r)) = k (.atHead (c :: before) r) := by
  have step : (Cursor.atHead before (c :: r)).step? (fun c => false || c != '\n') = some (.atHead (c :: before) r) := by
    simp [Cursor.step?, Cursor.atHead, plain]
  rw [run_any, step]
  rfl

theorem run_any_of_stop (stop : ∀ c ∈ after.head?, c = '\n') : run (.any false) k (.atHead before after) = none := by
  have step : (Cursor.atHead before after).step? (fun c => false || c != '\n') = none := by
    cases after with
    | nil => rfl
    | cons c r => simp [Cursor.step?, Cursor.atHead, stop c rfl]
  rw [run_any, step]
  rfl

/-- However far a line has been read, its line feed stands at one place. -/
theorem rounds_line {body : List Char} (plain : '\n' ∉ body) {fuel : Nat} (enough : body.length < fuel)
    {last : Option Nat} (moved : ∀ i ∈ last, i < before.length) :
    rounds (run (.any false)) true (run (.char '\n') k) fuel 0 none last (.atHead before (body ++ '\n' :: r)) =
      k (.atHead ('\n' :: (body.reverse ++ before)) r) := by
  induction body generalizing before fuel last with
  | nil =>
    obtain ⟨fuel, rfl⟩ := Nat.exists_eq_add_one.2 enough
    rw [rounds_none (fun here => Nat.lt_irrefl _ (moved _ here)), List.nil_append,
      run_any_of_stop (by simp), run_char_cons]
    rfl
  | cons c body ih =>
    obtain ⟨fuel, rfl⟩ := Nat.exists_eq_add_one.2 (Nat.zero_lt_of_lt enough)
    have inner : c ≠ '\n' := fun same => plain (by simp [same])
    rw [rounds_none (fun here => Nat.lt_irrefl _ (moved _ here)), List.cons_append, run_any_cons inner,
      ih (fun mem => plain (by simp [mem])) (by simpa using enough) (by rintro _ ⟨⟩; simp [Cursor.atHead]),
      run_char_of_ne (by simpa using inner), List.reverse_cons, List.append_assoc, List.singleton_append]
    cases k (.atHead ('\n' :: (body.reverse ++ c :: before)) r) <;> rfl

theorem rounds_line_of_unended (plain : '\n' ∉ after) (fuel : Nat) {last : Option Nat}
    (moved : ∀ i ∈ last, i < before.length) :
    rounds (run (.any false)) true (run (.char '\n') k) fuel 0 none last (.atHead before after) = none := by
  have unfed : ∀ {before}, run (.char '\n') k (.atHead before after) = none := fun {before} =>
    run_char_of_ne fun feed => plain (List.mem_of_head? feed)
  induction after generalizing before fuel last with
  | nil =>
    cases fuel with
    | zero => exact unfed
    | succ fuel =>
      rw [rounds_none (fun here => Nat.lt_irrefl _ (moved _ here)), run_any_of_stop (by simp), unfed]
      rfl
  | cons c r ih =>
    cases fuel with
    | zero => exact unfed
    | succ fuel =>
      have inner : c ≠ '\n' := fun same => plain (by simp [same])
      have rest : '\n' ∉ r := fun mem => plain (by simp [mem])
      rw [rounds_none (fun here => Nat.lt_irrefl _ (moved _ here)), run_any_cons inner, unfed,
        ih rest fuel (by rintro _ ⟨⟩; simp [Cursor.atHead])
          fun {before} => run_char_of_ne fun feed => rest (List.mem_of_head? feed)]
      rfl

/-- The body of a line, up to the line feed that ends it. -/
theorem run_line {body : List Char} (plain : '\n' ∉ body) :
    run (.seq (.repeated 0 none true (.any false)) (.char '\n')) k (.atHead before (body ++ '\n' :: r)) =
      k (.atHead ('\n' :: (body.reverse ++ before)) r) := by
  rw [run_seq, run_rounds]
  exact rounds_line plain (by simp [Cursor.atHead]; omega) nofun

theorem run_line_of_unended (plain : '\n' ∉ after) :
    run (.seq (.repeated 0 none true (.any false)) (.char '\n')) k (.atHead before after) = none := by
  rw [run_seq, run_rounds]
  exact rounds_line_of_unended plain _ nofun

/-! ### Parts that are read one after the other -/

/-- The node reads the part in front of the rest, and there is no other way to match it there. -/
def Node.Takes (n : Node) (part rest : List Char) : Prop :=
  ∀ k before, run n k (.atHead before (part ++ rest)) = k (.atHead (part.reverse ++ before) rest)

/-- The node matches nowhere at the head of the text. -/
def Node.Stops (n : Node) (text : List Char) : Prop := ∀ k before, run n k (.atHead before text) = none

section

variable {parts : List (List Char)} {rest : List Char} (full : ∀ p ∈ parts, p ≠ [])
  (takes : ∀ p ∈ parts, ∀ r, n.Takes p r) (stops : n.Stops rest)

include full takes stops

theorem rounds_parts {fuel : Nat} (enough : parts.length < fuel) {last : Option Nat}
    (moved : ∀ i ∈ last, i < before.length) :
    rounds (run n) true some fuel 0 none last (.atHead before (parts.flatten ++ rest)) =
      some (.atHead (parts.flatten.reverse ++ before) rest) := by
  induction parts generalizing before fuel last with
  | nil =>
    obtain ⟨fuel, rfl⟩ := Nat.exists_eq_add_one.2 enough
    rw [rounds_none (fun here => Nat.lt_irrefl _ (moved _ here)), List.flatten_nil, List.nil_append, stops]
    rfl
  | cons p parts ih =>
    obtain ⟨fuel, rfl⟩ := Nat.exists_eq_add_one.2 (Nat.zero_lt_of_lt enough)
    obtain ⟨more, others⟩ := List.forall_mem_cons.1 full
    obtain ⟨first, onward⟩ := List.forall_mem_cons.1 takes
    have longer : ∀ i ∈ some before.length, i < (p.reverse ++ before).length := by
      rintro _ ⟨⟩
      have := List.length_pos_iff.2 more
      rw [List.length_append, List.length_reverse]
      omega
    have spare : parts.length < fuel := by simpa using enough
    have further := ih others onward spare longer
    rw [rounds_none (fun here => Nat.lt_irrefl _ (moved _ here)), List.flatten_cons, List.append_assoc, first]
    have index : (Cursor.atHead before (p ++ (parts.flatten ++ rest))).index = before.length := rfl
    rw [index, further, List.reverse_append, List.append_assoc]
    rfl

/-- A repetition reads all parts up to a place where its body does not match. -/
theorem run_repeated : run (.repeated 0 none true n) some (.atHead before (parts.flatten ++ rest)) =
    some (.atHead (parts.flatten.reverse ++ before) rest) := by
  have count : parts.length ≤ parts.flatten.length := by
    clear takes stops
    induction parts with
    | nil => simp
    | cons p parts ih =>
      obtain ⟨more, others⟩ := List.forall_mem_cons.1 full
      have := ih others
      have := List.length_pos_iff.2 more
      simp only [List.length_cons, List.flatten_cons, List.length_append]
      omega
  rw [run_rounds]
  refine rounds_parts full takes stops ?_ nofun
  simp only [Cursor.atHead, List.length_append]
  omega

end

/-! ### The first match -/

/-- A text around a match. -/
structure Match where
  before : List Char
  matched : List Char
  after : List Char

/-- The match of a pattern at a place of a text; the text in front is given in reverse. -/
def Node.matchAt? (n : Node) (before after : List Char) : Option Match :=
  (run n some (.atHead before after)).map fun u =>
    ⟨before.reverse, (u.before.take (u.before.length - before.length)).reverse, u.after⟩

/-- The first match from a place on. -/
def Node.matchFrom? (n : Node) (before : List Char) : List Char → Option Match
  | [] => n.matchAt? before []
  | c :: r => n.matchAt? before (c :: r) <|> matchFrom? n (c :: before) r

/-- The first match in a text. -/
def Node.firstMatch? (n : Node) (s : List Char) : Option Match := n.matchFrom? [] s

theorem Node.matchFrom?_of_some {m : Match} (here : n.matchAt? before after = some m) :
    n.matchFrom? before after = some m := by
  cases after with
  | nil => exact here
  | cons c r => rw [matchFrom?, here]; rfl

theorem Node.matchFrom?_cons_of_none (here : n.matchAt? before (c :: r) = none) :
    n.matchFrom? before (c :: r) = n.matchFrom? (c :: before) r := by
  rw [matchFrom?, here]
  rfl

theorem isSome_matchFrom? (n : Node) (before s : List Char) : (n.matchFrom? before s).isSome = searchFrom n before s := by
  induction s generalizing before with
  | nil => simp [Node.matchFrom?, Node.matchAt?, searchFrom]
  | cons c r ih => simp [Node.matchFrom?, Node.matchAt?, searchFrom, ih]

/-- There is a first match just when the pattern occurs. -/
theorem isSome_firstMatch? (n : Node) (s : String) : (n.firstMatch? s.toList).isSome = n.occursIn s :=
  isSome_matchFrom? n [] s.toList

end Regen.Pattern
