import Regen.Text.Integer

/-!
# Reading integers that were written

The decimal text of an integer is read back as it (`readInt_repr`), as long as it is not longer than a
number may be.
-/

namespace Regen.Text

theorem isDigit_iff {c : Char} : c.isDigit = true ↔ 48 ≤ c.toNat ∧ c.toNat ≤ 57 := by
  simp only [Char.isDigit, Bool.and_eq_true, decide_eq_true_eq, ge_iff_le, UInt32.le_iff_toNat_le]
  exact Iff.rfl

theorem ne_of_isDigit {c d : Char} (digit : c.isDigit = true) (other : d.isDigit = false) : c ≠ d := by
  rintro rfl
  rw [digit] at other
  cases other

theorem isPad_of_isDigit {c : Char} (digit : c.isDigit = true) : isPad c = false := by
  have space := ne_of_isDigit digit (d := ' ') rfl
  obtain ⟨low, high⟩ := isDigit_iff.1 digit
  simp [isPad, space, show ¬ c.toNat ≤ 13 by omega, show ¬ 0x80 ≤ c.toNat by omega]

theorem digitIn?_ten {c : Char} (digit : c.isDigit = true) : digitIn? 10 c = some (c.toNat - 48) := by
  obtain ⟨low, high⟩ := isDigit_iff.1 digit
  have small : c.toNat - 48 < 10 := by omega
  simp [digitIn?, decimalDigit?, digit, show c.toNat < 0x80 by omega, small]

theorem digitsFrom_ten {ds : List Char} (digits : ∀ c ∈ ds, c.isDigit = true) (v : Nat) :
    digitsFrom 10 v true ds = some (Nat.ofDigitChars 10 ds v) := by
  induction ds generalizing v with
  | nil => rfl
  | cons c ds ih =>
    have digit := digits c (by simp)
    rw [digitsFrom, if_neg (ne_of_isDigit digit rfl), digitIn?_ten digit, Nat.ofDigitChars_cons]
    simp only [ih fun d hd => digits d (by simp [hd]), Nat.mul_comm]
    rfl

theorem isDigit_of_mem_toDigits {n : Nat} {c : Char} (mem : c ∈ Nat.toDigits 10 n) : c.isDigit = true :=
  Nat.isDigit_of_mem_toDigits (by decide) (by decide) mem

theorem digits?_toDigits {n : Nat} (short : (Nat.toDigits 10 n).length ≤ maxDigits) :
    digits? 10 (Nat.toDigits 10 n) = some n := by
  have within := Nat.le_trans (List.length_filter_le (· ≠ '_') (Nat.toDigits 10 n)) short
  rw [digits?, if_neg (by omega)]
  have value : Nat.ofDigitChars 10 (Nat.toDigits 10 n) 0 = n := Nat.ofDigitChars_ten_toDigits
  cases text : Nat.toDigits 10 n with
  | nil => exact absurd text Nat.toDigits_ne_nil
  | cons c ds =>
    have digit : c.isDigit = true := isDigit_of_mem_toDigits (n := n) (by simp [text])
    have rest : ∀ d ∈ ds, d.isDigit = true := fun d hd =>
      isDigit_of_mem_toDigits (n := n) (by simp [text, hd])
    rw [text, Nat.ofDigitChars_cons] at value
    rw [digitsFrom, if_neg (ne_of_isDigit digit rfl), digitIn?_ten digit]
    simp only [digitsFrom_ten rest]
    rw [← value]
    simp

/-- Only zero is written with a zero in front. -/
theorem head?_toDigits {n : Nat} (positive : n ≠ 0) : (Nat.toDigits 10 n).head? ≠ some '0' := by
  induction n using Nat.strongRecOn with
  | ind n ih =>
    by_cases small : n < 10
    · rw [Nat.toDigits_of_lt_base small]
      have : ∀ m < 10, m ≠ 0 → Nat.digitChar m ≠ '0' := by decide
      simpa using this n small positive
    · have quotient := ih (n / 10) (by omega) (by omega)
      rw [Nat.toDigits_of_base_le (by decide) (by omega), List.head?_append]
      cases digits : Nat.toDigits 10 (n / 10) with
      | nil => exact absurd digits Nat.toDigits_ne_nil
      | cons c ds =>
        rw [digits] at quotient
        simpa using quotient

theorem toDigits_ne_zero_cons (n : Nat) (c : Char) (r : List Char) :
    Nat.toDigits 10 n ≠ '0' :: c :: r := by
  intro text
  rcases Nat.eq_zero_or_pos n with rfl | positive
  · cases text
  · exact head?_toDigits (Nat.ne_of_gt positive) (by rw [text]; rfl)

theorem magnitude?_toDigits {n : Nat} (short : (Nat.toDigits 10 n).length ≤ maxDigits) :
    magnitude? none (Nat.toDigits 10 n) = some n := by
  have plain : ((digits? 10 (Nat.toDigits 10 n)).filter fun m =>
      (Nat.toDigits 10 n).head? ≠ some '0' || m = 0) = some n := by
    rw [digits?_toDigits short, Option.filter_some, if_pos]
    by_cases zero : n = 0
    · simp [zero]
    · simp [head?_toDigits zero]
  have front := toDigits_ne_zero_cons n
  unfold magnitude?
  simp only
  exact plain

theorem trimPads_eq_self {s : List Char} (front : ∀ c ∈ s.head?, isPad c = false)
    (back : ∀ c ∈ s.getLast?, isPad c = false) : trimPads s = s := by
  have keep : ∀ t : List Char, (∀ c ∈ t.head?, isPad c = false) → t.dropWhile isPad = t := by
    intro t first
    cases t with
    | nil => rfl
    | cons c r => simp [first c rfl]
  rw [trimPads, keep s front, keep s.reverse (by simpa using back), List.reverse_reverse]

theorem trimPads_toDigits (n : Nat) : trimPads (Nat.toDigits 10 n) = Nat.toDigits 10 n :=
  trimPads_eq_self
    (fun _ first => isPad_of_isDigit (isDigit_of_mem_toDigits (List.mem_of_mem_head? first)))
    (fun _ last => isPad_of_isDigit (isDigit_of_mem_toDigits (List.mem_of_mem_getLast? last)))

theorem readInt_toDigits {n : Nat} (short : (Nat.toDigits 10 n).length ≤ maxDigits) :
    readInt none (Nat.toDigits 10 n) = some (n : Int) := by
  have front : ∀ c r, Nat.toDigits 10 n = c :: r → c.isDigit = true := fun c r text =>
    isDigit_of_mem_toDigits (n := n) (by simp [text])
  rw [readInt, trimPads_toDigits]
  split
  · next text => cases front _ _ text
  · next text => cases front _ _ text
  · rw [magnitude?_toDigits short]
    rfl

/-- The digits of an integer behind its sign. -/
theorem toList_repr (n : Int) :
    n.repr.toList = if 0 ≤ n then Nat.toDigits 10 n.natAbs else '-' :: Nat.toDigits 10 n.natAbs := by
  rw [Int.repr_eq_if]
  split
  · next positive => rw [Nat.toList_repr, show n.toNat = n.natAbs by omega]
  · next negative =>
    rw [String.toList_append, Nat.toList_repr, show (-n).toNat = n.natAbs by omega]
    rfl

theorem readInt_repr {n : Int} (short : (Nat.toDigits 10 n.natAbs).length ≤ maxDigits) :
    readInt none n.repr.toList = some n := by
  rw [toList_repr]
  split
  · rw [readInt_toDigits short, Int.natAbs_of_nonneg ‹_›]
  · have whole : trimPads ('-' :: Nat.toDigits 10 n.natAbs) = '-' :: Nat.toDigits 10 n.natAbs := by
      refine trimPads_eq_self (fun c first => ?_) fun c last => ?_
      · cases first
        decide
      · rw [List.getLast?_cons_of_ne_nil Nat.toDigits_ne_nil] at last
        exact isPad_of_isDigit (isDigit_of_mem_toDigits (List.mem_of_mem_getLast? last))
    have value : -(n.natAbs : Int) = n := by omega
    rw [readInt, whole]
    simp only [magnitude?_toDigits short]
    exact congrArg some value

end Regen.Text
