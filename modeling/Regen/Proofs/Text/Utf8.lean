import Regen.Text.Utf8

/-!
# Reading the bytes of a text

The bytes of a text are read as its characters (`pieces_encode`), whatever stands behind them, so every
text is read back from its bytes (`decode?_bytes`). The cases are the four lengths of a character.
-/

namespace Regen.Text

theorem toNat_ofNat {n : Nat} (bound : n < 256) : (UInt8.ofNat n).toNat = n := by
  rw [UInt8.toNat_ofNat']
  omega

theorem isTail_ofNat {n : Nat} (low : 0x80 ≤ n) (high : n ≤ 0xBF) : isTail (UInt8.ofNat n) = true := by
  simp [isTail, UInt8.le_iff_toNat_le, toNat_ofNat (show n < 256 by omega), low, high]

/-- The second byte behind a first one of two to four bytes, and their count without the first. -/
theorem lead_ofNat {n : Nat} (low : 0xC2 ≤ n) (high : n ≤ 0xF4) :
    lead (UInt8.ofNat n) =
      some (if n = 0xE0 then 0xA0 else if n = 0xF0 then 0x90 else 0x80,
        if n = 0xED then 0x9F else if n = 0xF4 then 0x8F else 0xBF,
        if n ≤ 0xDF then 1 else if n ≤ 0xEF then 2 else 3) := by
  have value := toNat_ofNat (show n < 256 by omega)
  simp only [lead, UInt8.le_iff_toNat_le, ← UInt8.toNat_inj, value, UInt8.reduceToNat, Bool.and_eq_true,
    decide_eq_true_eq]
  grind

/-- A byte with the mark of a tail and six bits. -/
def tail (n : Nat) : UInt8 := UInt8.ofNat (0x80 + n % 64)

theorem toNat_tail (n : Nat) : (tail n).toNat = 0x80 + n % 64 := toNat_ofNat (by omega)

theorem isTail_tail (n : Nat) : isTail (tail n) = true := isTail_ofNat (by omega) (by omega)

theorem encodeChar_eq (c : Char) :
    String.utf8EncodeChar c =
      if c.toNat ≤ 0x7F then [UInt8.ofNat c.toNat]
      else if c.toNat ≤ 0x7FF then [UInt8.ofNat (0xC0 + c.toNat / 64), tail c.toNat]
      else if c.toNat ≤ 0xFFFF then
        [UInt8.ofNat (0xE0 + c.toNat / 4096), tail (c.toNat / 64), tail c.toNat]
      else [UInt8.ofNat (0xF0 + c.toNat / 262144), tail (c.toNat / 4096), tail (c.toNat / 64),
        tail c.toNat] := by
  have bound : c.toNat < 0x110000 := c.valid.elim (fun h => Nat.lt_trans h (by decide)) (·.2)
  simp only [String.utf8EncodeChar, tail]
  rw [show c.val.toNat = c.toNat from rfl]
  split
  · rfl
  split
  · rw [Nat.add_comm _ 0xc0, Nat.add_comm _ 0x80, Nat.mod_eq_of_lt (show c.toNat / 64 < 0x20 by omega)]
  split
  · rw [Nat.add_comm _ 0xe0, Nat.add_comm _ 0x80, Nat.add_comm _ 0x80,
      Nat.mod_eq_of_lt (show c.toNat / 4096 < 0x10 by omega)]
  · rw [Nat.add_comm _ 0xf0, Nat.add_comm _ 0x80, Nat.add_comm _ 0x80, Nat.add_comm _ 0x80,
      Nat.mod_eq_of_lt (show c.toNat / 262144 < 8 by omega)]

theorem high_of_mem_encodeChar {c : Char} (large : 0x80 ≤ c.toNat) {b : UInt8}
    (mem : b ∈ String.utf8EncodeChar c) : 0x80 ≤ b.toNat := by
  have bound : c.toNat < 0x110000 := c.valid.elim (fun h => Nat.lt_trans h (by decide)) (·.2)
  have high : ∀ n, 0x80 ≤ n → n < 256 → 0x80 ≤ (UInt8.ofNat n).toNat := fun n low small => by
    rwa [toNat_ofNat small]
  have tails : ∀ n, 0x80 ≤ (tail n).toNat := fun n => by simp [toNat_tail]
  rw [encodeChar_eq, if_neg (by omega)] at mem
  split at mem
  · rcases List.mem_cons.1 mem with rfl | mem
    · exact high _ (by omega) (by omega)
    · grind
  split at mem
  · rcases List.mem_cons.1 mem with rfl | mem
    · exact high _ (by omega) (by omega)
    · grind
  · rcases List.mem_cons.1 mem with rfl | mem
    · exact high _ (by omega) (by omega)
    · grind

theorem piece_of_tails {b t lo hi : UInt8} {n : Nat} (ts r : Bytes) (large : ¬ b < 0x80)
    (first : lead b = some (lo, hi, n)) (low : lo ≤ t) (high : t ≤ hi)
    (tails : ∀ x ∈ ts, isTail x = true) (count : ts.length + 1 = n) :
    piece b (t :: ts ++ r) = .char (assemble (leadBits n b) (t :: ts)) := by
  have all : ((ts ++ r).take (n - 1)).takeWhile isTail = ts := by
    rw [show n - 1 = ts.length by omega, List.take_left]
    have whole : (ts ++ []).takeWhile isTail = ts ++ [].takeWhile isTail :=
      List.takeWhile_append_of_pos tails
    simpa using whole
  simp [piece, large, first, low, high, all, count]

theorem large_ofNat {n : Nat} (low : 0x80 ≤ n) (high : n ≤ 0xFF) : ¬ UInt8.ofNat n < 0x80 := by
  rw [UInt8.lt_iff_toNat_lt, toNat_ofNat (by omega)]
  simpa using low

theorem piece_one {v : Nat} (high : v ≤ 0x7F) (r : Bytes) :
    piece (UInt8.ofNat v) r = .char (Char.ofNat v) := by
  have value := toNat_ofNat (show v < 256 by omega)
  have small : UInt8.ofNat v < 0x80 := by
    rw [UInt8.lt_iff_toNat_lt, value]
    simpa using by omega
  rw [piece, if_pos small, value]

theorem piece_two {v : Nat} (low : 0x80 ≤ v) (high : v ≤ 0x7FF) (r : Bytes) :
    piece (UInt8.ofNat (0xC0 + v / 64)) (tail v :: r) = .char (Char.ofNat v) := by
  obtain ⟨q, hq⟩ : ∃ q, q = 0xC0 + v / 64 := ⟨_, rfl⟩
  rw [← hq]
  have first := lead_ofNat (n := q) (by omega) (by omega)
  rw [if_neg (by omega), if_neg (by omega), if_neg (by omega), if_neg (by omega), if_pos (by omega)]
    at first
  have read := piece_of_tails [] r (large_ofNat (by omega) (by omega)) first (t := tail v)
    (by simp [UInt8.le_iff_toNat_le, toNat_tail])
    (by simp only [UInt8.le_iff_toNat_le, toNat_tail, UInt8.reduceToNat]; omega) (by simp) rfl
  have whole : q % 32 * 64 + (0x80 + v % 64) % 64 = v := by omega
  rw [List.singleton_append] at read
  simp only [read, assemble, leadBits, toNat_ofNat (show q < 256 by omega), toNat_tail, List.foldl_cons,
    List.foldl_nil, if_true, whole]

/-- The bounds of the second byte leave out what has a shorter form, and the surrogates. -/
theorem piece_three {v : Nat} (low : 0x800 ≤ v) (high : v ≤ 0xFFFF) (scalar : v < 0xD800 ∨ 0xDFFF < v)
    (r : Bytes) :
    piece (UInt8.ofNat (0xE0 + v / 4096)) (tail (v / 64) :: tail v :: r) = .char (Char.ofNat v) := by
  obtain ⟨q, hq⟩ : ∃ q, q = 0xE0 + v / 4096 := ⟨_, rfl⟩
  rw [← hq]
  have first := lead_ofNat (n := q) (by omega) (by omega)
  rw [if_neg (show ¬ q = 0xF0 by omega), if_neg (show ¬ q = 0xF4 by omega),
    if_neg (show ¬ q ≤ 0xDF by omega), if_pos (show q ≤ 0xEF by omega)] at first
  have read := piece_of_tails [tail v] r (large_ofNat (by omega) (by omega)) first
    (t := tail (v / 64))
    (by rw [UInt8.le_iff_toNat_le, toNat_tail]; split <;> simp only [UInt8.reduceToNat] <;> omega)
    (by rw [UInt8.le_iff_toNat_le, toNat_tail]; split <;> simp only [UInt8.reduceToNat] <;> omega)
    (by simp [isTail_tail]) rfl
  have whole : (q % 16 * 64 + (0x80 + v / 64 % 64) % 64) * 64 + (0x80 + v % 64) % 64 = v := by omega
  rw [List.cons_append, List.singleton_append] at read
  simp only [read, assemble, leadBits, toNat_ofNat (show q < 256 by omega), toNat_tail, List.foldl_cons,
    List.foldl_nil, Nat.reduceEqDiff, if_false, if_true, whole]

theorem piece_four {v : Nat} (low : 0x10000 ≤ v) (high : v < 0x110000) (r : Bytes) :
    piece (UInt8.ofNat (0xF0 + v / 262144)) (tail (v / 4096) :: tail (v / 64) :: tail v :: r) =
      .char (Char.ofNat v) := by
  obtain ⟨q, hq⟩ : ∃ q, q = 0xF0 + v / 262144 := ⟨_, rfl⟩
  rw [← hq]
  have first := lead_ofNat (n := q) (by omega) (by omega)
  rw [if_neg (show ¬ q = 0xE0 by omega), if_neg (show ¬ q = 0xED by omega),
    if_neg (show ¬ q ≤ 0xDF by omega), if_neg (show ¬ q ≤ 0xEF by omega)] at first
  have read := piece_of_tails [tail (v / 64), tail v] r (large_ofNat (by omega) (by omega))
    first (t := tail (v / 4096))
    (by rw [UInt8.le_iff_toNat_le, toNat_tail]; split <;> simp only [UInt8.reduceToNat] <;> omega)
    (by rw [UInt8.le_iff_toNat_le, toNat_tail]; split <;> simp only [UInt8.reduceToNat] <;> omega)
    (by simp [isTail_tail]) rfl
  have whole : ((q % 8 * 64 + (0x80 + v / 4096 % 64) % 64) * 64 + (0x80 + v / 64 % 64) % 64) * 64 +
    (0x80 + v % 64) % 64 = v := by omega
  simp only [List.cons_append, List.nil_append] at read
  simp only [read, assemble, leadBits, toNat_ofNat (show q < 256 by omega), toNat_tail, List.foldl_cons,
    List.foldl_nil, Nat.reduceEqDiff, if_false, whole]

/-- The bytes of a character are read as it, whatever stands behind them. -/
theorem piece_encodeChar {c : Char} {b : UInt8} {ts : Bytes} (bytes : String.utf8EncodeChar c = b :: ts)
    (r : Bytes) : piece b (ts ++ r) = .char c := by
  have valid : c.toNat < 0xD800 ∨ 0xDFFF < c.toNat ∧ c.toNat < 0x110000 := c.valid
  rw [← Char.ofNat_toNat c]
  rw [encodeChar_eq] at bytes
  split at bytes
  · cases bytes
    exact piece_one (by omega) r
  split at bytes
  · cases bytes
    exact piece_two (by omega) (by omega) r
  split at bytes
  · cases bytes
    exact piece_three (by omega) (by omega) (by omega) r
  · cases bytes
    exact piece_four (by omega) (by omega) r

theorem piecesWithin_encode (s : List Char) {fuel : Nat} (enough : (encode s).length ≤ fuel) :
    piecesWithin fuel (encode s) = s.map .char := by
  induction s generalizing fuel with
  | nil => cases fuel <;> rfl
  | cons c s ih =>
    have size := String.length_utf8EncodeChar c
    cases bytes : String.utf8EncodeChar c with
    | nil =>
      have := c.utf8Size_pos
      rw [bytes, List.length_nil] at size
      omega
    | cons b ts =>
      have split : encode (c :: s) = b :: (ts ++ encode s) := by rw [encode, List.flatMap_cons, bytes]; rfl
      rw [bytes, List.length_cons] at size
      rw [split, List.length_cons, List.length_append] at enough
      cases fuel with
      | zero => omega
      | succ fuel =>
        have rest : (ts ++ encode s).drop (c.utf8Size - 1) = encode s := by
          rw [← size, Nat.add_sub_cancel, List.drop_left]
        rw [split, piecesWithin, piece_encodeChar bytes, Piece.size, rest, ih (by omega), List.map_cons]

theorem pieces_encode (s : List Char) : pieces (encode s) = s.map .char :=
  piecesWithin_encode s (Nat.le_refl _)

theorem mapM_char? (s : List Char) : (s.map Piece.char).mapM Piece.char? = some s := by
  induction s with
  | nil => rfl
  | cons c s ih =>
    rw [List.map_cons, List.mapM_cons, ih]
    rfl

/-- Every text is read back from its bytes. -/
theorem decode?_bytes (s : String) : decode? (bytes s) = some s := by
  rw [decode?, decodeChars?, bytes, pieces_encode, mapM_char?, Option.map_some, String.ofList_toList]

/-- A text has no stray bytes to escape. -/
theorem decodeEscaping_bytes (s : String) : decodeEscaping (bytes s) = s.toList := by
  rw [decodeEscaping, bytes, pieces_encode, List.flatMap_map]
  exact List.flatMap_singleton' s.toList

end Regen.Text
