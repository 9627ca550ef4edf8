import Regen.Proofs.Text.Utf8
import Regen.Span.Printer

/-!
# Quoted texts of the annotation notation

What stands between the quotes of a written text resolves to the bytes of that text
(`unescape?_escaped`). The forms of a character (`Escaped`) go through the three rounds one after the
other: the first two keep them, the last resolves them.
-/

namespace Regen.Span

/-- The forms in which a character stands between double quotes. -/
inductive Escaped : Char → List Char → Prop
  | letter {c l : Char} : letterByte? l = some c.toNat → c.toNat < 0x80 → l.toNat < 0x80 →
      Escaped c ['\\', l]
  | octal {c : Char} : c.toNat < 0x80 → Escaped c ('\\' :: octal c.toNat)
  | plain {c : Char} : c ≠ '\\' → c ≠ '"' → c ≠ '\n' → Escaped c [c]

theorem escaped_escapedChar (c : Char) : Escaped c (escapedChar c) := by
  rw [escapedChar]
  split
  · next tab => exact .letter (by rw [tab]; decide) (by rw [tab]; decide) (by decide)
  split
  · next feed => exact .letter (by rw [feed]; decide) (by rw [feed]; decide) (by decide)
  split
  · next feed => exact .letter (by rw [feed]; decide) (by rw [feed]; decide) (by decide)
  split
  · next marked =>
    have mark : c = '"' ∨ c = '\\' ∨ c = Char.ofNat 39 :=
      marked.imp_right (Or.imp_right fun code => by rw [← code, Char.ofNat_toNat])
    rcases mark with rfl | rfl | rfl <;> exact .letter (by decide) (by decide) (by decide)
  split
  · exact .octal (by omega)
  · next feed _ marked _ =>
    exact .plain (fun mark => marked (.inr (.inl mark))) (fun mark => marked (.inl mark)) feed

/-! ### Digits in base eight -/

/-- A digit in base eight is kept by every round and resolved by none on its own. -/
structure OctalDigit (c : Char) : Prop where
  octal : isOctal c = true
  ascii : c.toNat < 0x80
  letter : letterByte? c = none
  kept : c ≠ '\\' ∧ c ≠ '"' ∧ c ≠ '\n' ∧ c ≠ 'x' ∧ c ≠ 'u' ∧ c ≠ 'U'

theorem octalDigit {d : Nat} (small : d < 8) : OctalDigit (Char.ofNat (48 + d)) := by
  have all : ∀ d < 8, isOctal (Char.ofNat (48 + d)) = true ∧ (Char.ofNat (48 + d)).toNat < 0x80 ∧
      letterByte? (Char.ofNat (48 + d)) = none := by decide
  have kept : ∀ d < 8, Char.ofNat (48 + d) ≠ '\\' ∧ Char.ofNat (48 + d) ≠ '"' ∧
      Char.ofNat (48 + d) ≠ '\n' ∧ Char.ofNat (48 + d) ≠ 'x' ∧ Char.ofNat (48 + d) ≠ 'u' ∧
      Char.ofNat (48 + d) ≠ 'U' := by decide
  obtain ⟨octal, ascii, letter⟩ := all d small
  exact ⟨octal, ascii, letter, kept d small⟩

theorem toNat_octalDigit {d : Nat} (small : d < 8) : (Char.ofNat (48 + d)).toNat - 48 = d := by
  have all : ∀ d < 8, (Char.ofNat (48 + d)).toNat - 48 = d := by decide
  exact all d small

/-! ### The first round -/

theorem widenHex_plain {c : Char} (mark : c ≠ '\\') (r : List Char) :
    widenHex false (c :: r) = c :: widenHex false r := by
  simp [widenHex]

theorem widenHex_escape {c : Char} (hex : c ≠ 'x') (r : List Char) :
    widenHex false ('\\' :: c :: r) = '\\' :: c :: widenHex false r := by
  by_cases mark : c = '\\'
  · rw [mark]
    rfl
  · simp [widenHex, hex]

theorem widenHex_escaped {c : Char} {w : List Char} (form : Escaped c w) (r : List Char) :
    widenHex false (w ++ r) = w ++ widenHex false r := by
  cases form with
  | letter letter =>
    refine widenHex_escape ?_ r
    rintro rfl
    cases letter
  | octal =>
    have digit := fun d : Nat => (octalDigit (Nat.mod_lt d (show 0 < 8 by decide))).kept
    simp only [octal, List.map_cons, List.map_nil, List.cons_append, List.nil_append]
    rw [widenHex_escape (digit _).2.2.2.1, widenHex_plain (digit _).1, widenHex_plain (digit _).1]
  | plain mark => exact widenHex_plain mark r

theorem widenHex_flatMap (s : List Char) :
    widenHex false (s.flatMap escapedChar) = s.flatMap escapedChar := by
  induction s with
  | nil => rfl
  | cons c s ih => rw [List.flatMap_cons, widenHex_escaped (escaped_escapedChar c), ih]

/-! ### The second round -/

/-- A reader with fuel gives `out` for a text whenever the fuel is not less than its length. -/
def Gives {α : Type} (reader : Nat → List Char → Option α) (s : List Char) (out : α) : Prop :=
  ∀ fuel, s.length ≤ fuel → reader fuel s = some out

theorem codePoints_nil : Gives codePoints [] [] := by
  intro fuel _
  cases fuel <;> rfl

theorem codePoints_plain {c : Char} (mark : c ≠ '\\') {r out : List Char} (rest : Gives codePoints r out) :
    Gives codePoints (c :: r) (c :: out) := by
  rintro (_ | fuel) enough
  · simp at enough
  · simp [codePoints, mark, rest fuel (by simpa using enough)]

theorem codePoints_escape {c : Char} (four : c ≠ 'u') (eight : c ≠ 'U') (small : c.toNat < 0x100)
    {r out : List Char} (rest : Gives codePoints r out) :
    Gives codePoints ('\\' :: c :: r) ('\\' :: c :: out) := by
  rintro (_ | fuel) enough
  · simp at enough
  · simp only [List.length_cons] at enough
    simp [codePoints, small, rest fuel (by omega)]

theorem codePoints_escaped {c : Char} {w : List Char} (form : Escaped c w) {r out : List Char}
    (rest : Gives codePoints r out) : Gives codePoints (w ++ r) (w ++ out) := by
  cases form with
  | letter letter _ ascii =>
    refine codePoints_escape ?_ ?_ (by omega) rest <;> rintro rfl <;> cases letter
  | octal =>
    have digit := fun d : Nat => octalDigit (Nat.mod_lt d (show 0 < 8 by decide))
    have first := (digit (c.toNat / 64)).kept
    exact codePoints_escape first.2.2.2.2.1 first.2.2.2.2.2
      (Nat.lt_trans (digit _).ascii (by decide))
      (codePoints_plain (digit _).kept.1 (codePoints_plain (digit _).kept.1 rest))
  | plain mark => exact codePoints_plain mark rest

theorem codePoints_flatMap (s : List Char) :
    Gives codePoints (s.flatMap escapedChar) (s.flatMap escapedChar) := by
  induction s with
  | nil => exact codePoints_nil
  | cons c s ih => exact codePoints_escaped (escaped_escapedChar c) ih

/-! ### The third round -/

/-- One character for each byte. -/
def latin (bs : Bytes) : List Char := bs.map fun b => Char.ofNat b.toNat

theorem latin_append (bs cs : Bytes) : latin (bs ++ cs) = latin bs ++ latin cs := List.map_append

theorem encode_ascii {c : Char} (ascii : c.toNat < 0x80) :
    String.utf8EncodeChar c = [UInt8.ofNat c.toNat] := by
  rw [Text.encodeChar_eq, if_pos (by omega)]

theorem latin_encode_ascii {w : List Char} (ascii : ∀ c ∈ w, c.toNat < 0x80) :
    latin (Text.encode w) = w := by
  induction w with
  | nil => rfl
  | cons c w ih =>
    have here := ascii c (by simp)
    have head : Char.ofNat (UInt8.ofNat c.toNat).toNat = c := by
      rw [Text.toNat_ofNat (by omega), Char.ofNat_toNat]
    rw [Text.encode, List.flatMap_cons, encode_ascii here, latin_append]
    exact List.cons_eq_cons.2 ⟨head, ih fun d hd => ascii d (by simp [hd])⟩

theorem toNat_latin (b : UInt8) : (Char.ofNat b.toNat).toNat = b.toNat := by
  have bound := b.toNat_lt
  have valid : b.toNat.isValidChar := .inl (by omega)
  rw [Char.ofNat, dif_pos valid]
  rfl

theorem byteEscapes_nil : Gives byteEscapes [] [] := by
  intro fuel _
  cases fuel <;> rfl

theorem byteEscapes_plain {c : Char} (mark : c ≠ '\\') {r : List Char} {out : Bytes}
    (rest : Gives byteEscapes r out) : Gives byteEscapes (c :: r) (UInt8.ofNat c.toNat :: out) := by
  rintro (_ | fuel) enough
  · simp at enough
  · simp [byteEscapes, mark, rest fuel (by simpa using enough)]

theorem byteEscapes_letter {l : Char} {n : Nat} (letter : letterByte? l = some n) {r : List Char}
    {out : Bytes} (rest : Gives byteEscapes r out) :
    Gives byteEscapes ('\\' :: l :: r) (UInt8.ofNat n :: out) := by
  rintro (_ | fuel) enough
  · simp at enough
  · simp only [List.length_cons] at enough
    simp [byteEscapes, letter, rest fuel (by omega)]

theorem byteEscapes_octal {n : Nat} (small : n < 0x100) {r : List Char} {out : Bytes}
    (rest : Gives byteEscapes r out) :
    Gives byteEscapes ('\\' :: octal n ++ r) (UInt8.ofNat n :: out) := by
  have digit := fun d : Nat => octalDigit (Nat.mod_lt d (show 0 < 8 by decide))
  have value := fun d : Nat => toNat_octalDigit (Nat.mod_lt d (show 0 < 8 by decide))
  have whole : ((n / 64 % 8) * 8 + n / 8 % 8) * 8 + n % 8 = n := by omega
  rintro (_ | fuel) enough
  · simp at enough
  · simp only [octal, List.map_cons, List.map_nil, List.cons_append, List.nil_append,
      List.length_cons] at enough ⊢
    simp [byteEscapes, (digit _).letter, (digit _).octal, value, whole, byte?, small,
      rest fuel (by omega)]

/-- No byte of a character other than the backslash is the byte of a backslash. -/
theorem backslash_not_mem {c : Char} (mark : c ≠ '\\') {b : UInt8} (mem : b ∈ String.utf8EncodeChar c) :
    b.toNat ≠ 92 := by
  by_cases ascii : c.toNat < 0x80
  · have code : c.toNat ≠ 92 := fun code => mark (by rw [← Char.ofNat_toNat c, code])
    rw [encode_ascii ascii, List.mem_singleton] at mem
    rw [mem, Text.toNat_ofNat (by omega)]
    exact code
  · have := Text.high_of_mem_encodeChar (by omega) mem
    omega

theorem latin_plain {c : Char} (mark : c ≠ '\\') {r : List Char} {out : Bytes}
    (rest : Gives byteEscapes r out) :
    Gives byteEscapes (latin (String.utf8EncodeChar c) ++ r) (String.utf8EncodeChar c ++ out) := by
  have kept : ∀ b ∈ String.utf8EncodeChar c, Char.ofNat b.toNat ≠ '\\' := by
    intro b mem same
    refine backslash_not_mem mark (b := b) mem ?_
    rw [← toNat_latin, same]
    rfl
  generalize String.utf8EncodeChar c = bs at kept
  induction bs with
  | nil => exact rest
  | cons b bs ih =>
    have first := byteEscapes_plain (kept b (by simp)) (ih fun d hd => kept d (by simp [hd]))
    rw [toNat_latin, UInt8.ofNat_toNat] at first
    exact first

theorem byteEscapes_escaped {c : Char} {w : List Char} (form : Escaped c w) {r : List Char} {out : Bytes}
    (rest : Gives byteEscapes r out) :
    Gives byteEscapes (latin (Text.encode w) ++ r) (String.utf8EncodeChar c ++ out) := by
  cases form with
  | letter letter ascii small =>
    rw [latin_encode_ascii (by simpa using small), encode_ascii ascii]
    exact byteEscapes_letter letter rest
  | octal ascii =>
    have digit := fun d : Nat => (octalDigit (Nat.mod_lt d (show 0 < 8 by decide))).ascii
    rw [latin_encode_ascii (by simp [octal, digit]), encode_ascii ascii]
    exact byteEscapes_octal (by omega) rest
  | plain mark =>
    rw [Text.encode, List.flatMap_cons, List.flatMap_nil, List.append_nil]
    exact latin_plain mark rest

theorem byteEscapes_flatMap (s : List Char) :
    Gives byteEscapes (latin (Text.encode (s.flatMap escapedChar))) (Text.encode s) := by
  induction s with
  | nil => exact byteEscapes_nil
  | cons c s ih =>
    rw [List.flatMap_cons, Text.encode_append, latin_append]
    exact byteEscapes_escaped (escaped_escapedChar c) ih

/-- A written text resolves to its bytes. -/
theorem unescape?_escaped (s : List Char) : unescape? (s.flatMap escapedChar) = some (Text.encode s) := by
  simp only [unescape?, widenHex_flatMap, Option.bind_eq_bind]
  rw [codePoints_flatMap s _ (Nat.le_refl _), Option.bind_some]
  exact byteEscapes_flatMap s _ (Nat.le_refl _)

end Regen.Span
