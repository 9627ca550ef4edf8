import Mathlib.Data.List.Forall2
import Regen.Proofs.Message.Suits
import Regen.Span.Basic
import Regen.Text.Utf8

/-!
# Annotations of a file that loses bytes

When a run of bytes is cut out of a file, an annotation whose ends do not lie inside the run goes on
covering the bytes it covered, less those of the run (`aligned_after`). Offsets that are fields of an
annotation never leave their range on the way (`shift_eq_after`).
-/

namespace Regen

namespace Span

/-- The offsets are numbers that their fields can hold. -/
structure Fits (a : Span) : Prop where
  begins : ∀ n ∈ a.beginAt, Shape.Kind.int32.holds n = true
  ends : ∀ n ∈ a.endAt, Shape.Kind.int32.holds n = true

theorem fits_ofMessage {m : Message} (suits : m.Suits .span) : (ofMessage m).Fits where
  begins n hn := suits.holds_of_mem_numbers (n := 3) rfl n (List.mem_of_mem_head? hn)
  ends n hn := suits.holds_of_mem_numbers (n := 4) rfl n (List.mem_of_mem_head? hn)

/-- An offset after `length` bytes at `start` are gone. -/
def offsetAfter (start length : Nat) (offset : Option Int) : Option Int :=
  if (start + length : Int) ≤ offset.getD 0 then some (offset.getD 0 - length) else offset

def after (start length : Nat) (a : Span) : Span :=
  { a with beginAt := offsetAfter start length a.beginAt, endAt := offsetAfter start length a.endAt }

theorem holds_int32_iff {n : Int} :
    Shape.Kind.int32.holds n = true ↔ -0x80000000 ≤ n ∧ n < 0x80000000 := by
  rw [Shape.Kind.holds, show Int.pow 2 31 = 0x80000000 from rfl]
  simp

theorem holds_offsetAfter (start length : Nat) {offset : Option Int}
    (fits : ∀ n ∈ offset, Shape.Kind.int32.holds n = true) :
    ∀ n ∈ offsetAfter start length offset, Shape.Kind.int32.holds n = true := by
  intro n hn
  unfold offsetAfter at hn
  split at hn
  · cases offset with
    | none => simp_all [holds_int32_iff]; omega
    | some m =>
      have range := holds_int32_iff.1 (fits m rfl)
      simp only [Option.getD_some, Option.mem_def, Option.some.injEq] at *
      rw [holds_int32_iff]
      omega
  · exact fits n hn

/-- The range of an offset is never left. -/
theorem moved_eq_offsetAfter {start length : Nat} {offset : Option Int}
    (fits : ∀ n ∈ offset, Shape.Kind.int32.holds n = true) :
    moved start length offset = .ok (offsetAfter start length offset) := by
  have range := holds_offsetAfter start length fits
  unfold offsetAfter at range
  unfold moved offsetAfter
  by_cases behind : (start + length : Int) ≤ offset.getD 0
  · simp only [if_pos behind] at range ⊢
    rw [if_pos (range _ rfl)]
  · simp only [if_neg behind]

theorem shift_eq_after {start length : Nat} {a : Span} (fits : a.Fits) :
    a.shift start length = .ok (a.after start length) := by
  unfold shift
  rw [moved_eq_offsetAfter fits.begins, moved_eq_offsetAfter fits.ends]
  rfl

/-- The offset `new` is `old` when `length` bytes have come in at `start`. What is behind the place moves
on and what is in front of it stays; an offset at the place itself may do either. -/
inductive OffsetOpened (start length : Nat) : (old new : Option Int) → Prop
  | kept {offset : Option Int} : offset.getD 0 ≤ start → OffsetOpened start length offset offset
  | moved {n : Int} : start ≤ n → OffsetOpened start length (some n) (some (n + length))

/-- The annotation `b` is `a` when `length` bytes have come in at `start`. -/
structure Opened (start length : Nat) (a b : Span) : Prop where
  begins : OffsetOpened start length a.beginAt b.beginAt
  ends : OffsetOpened start length a.endAt b.endAt
  others : b = { a with beginAt := b.beginAt, endAt := b.endAt }

/-- Bytes that come in and go again leave the offsets as they were. -/
theorem OffsetOpened.after {start length : Nat} (pos : 0 < length) {old new : Option Int}
    (opened : OffsetOpened start length old new) : offsetAfter start length new = old := by
  unfold offsetAfter
  cases opened with
  | kept front => rw [if_neg (by omega)]
  | moved behind =>
    simp only [Option.getD_some]
    rw [if_pos (by omega), Int.add_sub_cancel]

theorem Opened.after {start length : Nat} (pos : 0 < length) {a b : Span}
    (opened : Opened start length a b) : b.after start length = a := by
  rw [Span.after, opened.begins.after pos, opened.ends.after pos, opened.others]

theorem map_after {start length : Nat} (pos : 0 < length) {as bs : List Span}
    (opened : List.Forall₂ (Opened start length) as bs) : bs.map (Span.after start length) = as := by
  induction opened with
  | nil => rfl
  | cons first _ ih => rw [List.map_cons, first.after pos, ih]

/-- What ties an annotation of the bytes `old` to one of the bytes `new` that are left when the
`length` bytes at `start` are gone. -/
structure Aligned (old new : Bytes) (start length : Nat) (a b : Span) : Prop where
  path : b.path = a.path
  sourceFile : b.sourceFile = a.sourceFile
  semantic : b.semantic = a.semantic
  covers : ∀ lo hi : Nat, a.beginAt.getD 0 = lo → a.endAt.getD 0 = hi →
    lo ≤ hi → hi ≤ old.length →
    ¬ (start < lo ∧ lo < start + length) → ¬ (start < hi ∧ hi < start + length) →
    ∃ lo' hi' : Nat, b.beginAt.getD 0 = lo' ∧ b.endAt.getD 0 = hi' ∧
      lo' ≤ hi' ∧ hi' ≤ new.length ∧
      new.extract lo' hi' = old.extract lo (min hi start) ++ old.extract (max lo (start + length)) hi

/-- The place of an offset in the bytes that are left. -/
def placeAfter (start length n : Nat) : Nat := if start + length ≤ n then n - length else n

theorem getD_offsetAfter {start length n : Nat} {offset : Option Int} (value : offset.getD 0 = n) :
    (offsetAfter start length offset).getD 0 = placeAfter start length n := by
  unfold offsetAfter placeAfter
  rw [value]
  by_cases behind : start + length ≤ n
  · rw [if_pos (by omega), if_pos behind]
    simp only [Option.getD_some]
    omega
  · rw [if_neg (by omega), if_neg behind, value]

/-- What lies between two places outside the run, when the run is gone: all in front of it, all
behind it, or what is around it. -/
theorem extract_placeAfter {α : Type} {old : List α} {start length lo hi : Nat}
    (inside : start + length ≤ old.length) (ordered : lo ≤ hi) (bound : hi ≤ old.length)
    (clearLo : ¬ (start < lo ∧ lo < start + length))
    (clearHi : ¬ (start < hi ∧ hi < start + length)) :
    (old.take start ++ old.drop (start + length)).extract (placeAfter start length lo)
        (placeAfter start length hi) =
      old.extract lo (min hi start) ++ old.extract (max lo (start + length)) hi := by
  have kept : (old.take start).length = start := by rw [List.length_take]; omega
  simp only [List.extract_eq_take_drop]
  rcases Nat.lt_or_ge hi (start + length) with front | reach
  · -- all in front of the run
    have eLo : placeAfter start length lo = lo := if_neg (by omega)
    have eHi : placeAfter start length hi = hi := if_neg (by omega)
    rw [eLo, eHi, Nat.min_eq_left (by omega), show hi - max lo (start + length) = 0 by omega,
      List.drop_append_of_le_length (by omega), List.take_append_of_le_length (by simp; omega),
      List.drop_take, List.take_take, Nat.min_eq_left (by omega)]
    simp
  have eHi : placeAfter start length hi = hi - length := if_pos reach
  rcases Nat.lt_or_ge lo (start + length) with around | behind
  · have eLo : placeAfter start length lo = lo := if_neg (by omega)
    rw [eLo, eHi, Nat.min_eq_right (by omega), Nat.max_eq_right (by omega),
      List.drop_append_of_le_length (by omega), List.take_append, List.drop_take, List.take_take,
      List.length_take, List.length_drop, Nat.min_eq_right (by omega), Nat.min_eq_left (by omega)]
    congr 2
    omega
  · have eLo : placeAfter start length lo = lo - length := if_pos behind
    rw [eLo, eHi, Nat.min_eq_right (by omega), Nat.max_eq_left behind, List.drop_append,
      List.drop_eq_nil_of_le (by omega), kept, List.drop_drop, show start - lo = 0 by omega,
      show start + length + (lo - length - start) = lo by omega,
      show hi - length - (lo - length) = hi - lo by omega]
    simp

theorem placeAfter_mono {start length m n : Nat} (ordered : m ≤ n)
    (clear : ¬ (start < m ∧ m < start + length)) : placeAfter start length m ≤ placeAfter start length n := by
  unfold placeAfter
  split <;> split <;> omega

theorem aligned_after {old : Bytes} {start length : Nat} (inside : start + length ≤ old.length)
    (pos : 0 < length) (a : Span) :
    Aligned old (old.take start ++ old.drop (start + length)) start length a (a.after start length) where
  path := rfl
  sourceFile := rfl
  semantic := rfl
  covers := by
    intro lo hi begins ends ordered bound clearLo clearHi
    refine ⟨placeAfter start length lo, placeAfter start length hi, getD_offsetAfter begins,
      getD_offsetAfter ends, placeAfter_mono ordered clearLo, ?_,
      extract_placeAfter inside ordered bound clearLo clearHi⟩
    simp only [List.length_append, List.length_take, List.length_drop]
    unfold placeAfter
    split <;> omega

end Span

namespace CodeInfo

def Fits (info : CodeInfo) : Prop := ∀ a ∈ info.spans, a.Fits

theorem fits_ofMessage {m : Message} (suits : m.Suits .codeInfo) : (ofMessage m).Fits := by
  intro a mem
  obtain ⟨c, inner, rfl⟩ := List.mem_map.1 mem
  exact Span.fits_ofMessage (suits.of_mem_nested rfl rfl c inner)

def after (start length : Nat) (info : CodeInfo) : CodeInfo :=
  { info with spans := info.spans.map (Span.after start length) }

theorem mapM_ok {α β ε : Type} {f : α → Except ε β} {g : α → β} {as : List α}
    (each : ∀ a ∈ as, f a = .ok (g a)) : as.mapM f = .ok (as.map g) := by
  induction as with
  | nil => rfl
  | cons a as ih =>
    rw [List.mapM_cons, each a (by simp), ih fun b hb => each b (by simp [hb])]
    rfl

theorem shift_eq_after {start length : Nat} {info : CodeInfo} (fits : info.Fits) :
    info.shift start length = .ok (info.after start length) := by
  unfold shift
  rw [mapM_ok fun a ha => Span.shift_eq_after (fits a ha)]
  rfl

/-- The annotations `new` are `old` when `length` bytes have come in at `start`. -/
structure Opened (start length : Nat) (old new : CodeInfo) : Prop where
  spans : List.Forall₂ (Span.Opened start length) old.spans new.spans
  unknown : new.unknown = old.unknown

theorem Opened.after {start length : Nat} (pos : 0 < length) {old new : CodeInfo}
    (opened : Opened start length old new) : new.after start length = old := by
  rw [CodeInfo.after, Span.map_after pos opened.spans, opened.unknown]

/-- The annotations of two versions of a file correspond one by one. -/
def Aligned (old new : Bytes) (start length : Nat) (info info' : CodeInfo) : Prop :=
  List.Forall₂ (Span.Aligned old new start length) info.spans info'.spans

end CodeInfo
end Regen
