import Regen.Message.Decode

/-!
# What decoded messages hold

The fields of a decoded message are those of its shape, and each holds what its kind can hold
(`suits_of_decode?`): integers in the range of their field, choices out of their list, and nested messages
for which the same is true.
-/

namespace Regen

namespace Wire

theorem number_lt_of_readFlat {kind : Nat} {bs r : Bytes} {p : Payload}
    (read : readFlat kind bs = some (p, r)) {n : Nat} (number : p = .varint n) : n < Nat.pow 2 64 := by
  subst number
  unfold readFlat at read
  split at read
  · obtain ⟨⟨m, rest⟩, -, e⟩ := Option.map_eq_some_iff.1 read
    cases e
    exact Nat.mod_lt m (by decide)
  · obtain ⟨_, -, e⟩ := Option.map_eq_some_iff.1 read
    cases e
  · obtain ⟨_, -, more⟩ := Option.bind_eq_some_iff.1 read
    obtain ⟨_, -, e⟩ := Option.map_eq_some_iff.1 more
    cases e
  · obtain ⟨_, -, e⟩ := Option.map_eq_some_iff.1 read
    cases e
  · cases read

theorem number_lt_of_readRecord {depth : Nat} {bs rest : Bytes} {r : Record}
    (read : readRecord depth bs = some (r, rest)) {n : Nat} (number : r.payload = .varint n) :
    n < Nat.pow 2 64 := by
  unfold readRecord at read
  obtain ⟨⟨field, kind, behind⟩, -, read⟩ := Option.bind_eq_some_iff.1 read
  dsimp only at read
  split at read
  · split at read
    · cases read
    · obtain ⟨⟨payload, rest⟩, group, e⟩ := Option.bind_eq_some_iff.1 read
      obtain ⟨_, -, e'⟩ := Option.map_eq_some_iff.1 group
      cases e
      cases e'
      cases number
  · obtain ⟨⟨payload, rest⟩, flat, e⟩ := Option.bind_eq_some_iff.1 read
    cases e
    exact number_lt_of_readFlat flat number

theorem number_lt_of_mem_recordsWithin {depth fuel : Nat} {bs : Bytes} {rs : List Record}
    (read : recordsWithin depth fuel bs = some rs) :
    ∀ r ∈ rs, ∀ n, r.payload = .varint n → n < Nat.pow 2 64 := by
  induction fuel generalizing bs rs with
  | zero =>
    cases bs with
    | nil => cases read; simp
    | cons b bs => cases read
  | succ fuel ih =>
    cases bs with
    | nil => cases read; simp
    | cons b bs =>
      obtain ⟨⟨first, rest⟩, firstRead, read⟩ := Option.bind_eq_some_iff.1 read
      obtain ⟨others, othersRead, e⟩ := Option.bind_eq_some_iff.1 read
      cases e
      intro r mem n number
      rcases List.mem_cons.1 mem with rfl | mem
      · exact number_lt_of_readRecord firstRead number
      · exact ih othersRead r mem n number

theorem number_lt_of_mem_packedWithin {fuel : Nat} {bs : Bytes} {ns : List Nat}
    (read : packedWithin fuel bs = some ns) : ∀ n ∈ ns, n < Nat.pow 2 64 := by
  induction fuel generalizing bs ns with
  | zero =>
    cases bs with
    | nil => cases read; simp
    | cons b bs => cases read
  | succ fuel ih =>
    cases bs with
    | nil => cases read; simp
    | cons b bs =>
      obtain ⟨⟨first, rest⟩, -, read⟩ := Option.bind_eq_some_iff.1 read
      obtain ⟨others, othersRead, e⟩ := Option.bind_eq_some_iff.1 read
      cases e
      intro n mem
      rcases List.mem_cons.1 mem with rfl | mem
      · exact Nat.mod_lt first (by decide)
      · exact ih othersRead n mem

end Wire

namespace Shape

/-- What is read from the wire fits its field. -/
theorem Kind.holds_ofWire {k : Kind} {n : Nat} {i : Int} (small : n < Nat.pow 2 64)
    (read : k.ofWire n = some i) : k.holds i = true := by
  have low : -Int.pow 2 31 ≤ Wire.signed32 n ∧ Wire.signed32 n < Int.pow 2 31 :=
    ⟨Int.le_bmod (by decide), Int.bmod_lt (by decide)⟩
  have all : -Int.pow 2 63 ≤ Wire.signed64 n ∧ Wire.signed64 n < Int.pow 2 63 :=
    ⟨Int.le_bmod (by decide), Int.bmod_lt (by decide)⟩
  cases k with
  | int32 =>
    simp only [Kind.ofWire, Option.some.injEq] at read
    subst read
    simpa [Kind.holds] using low
  | int64 =>
    simp only [Kind.ofWire, Option.some.injEq] at read
    subst read
    simpa [Kind.holds] using all
  | uint64 =>
    simp only [Kind.ofWire, Option.some.injEq] at read
    subst read
    have bound : (n : Int) < Int.pow 2 64 := Int.ofNat_lt.2 small
    simpa [Kind.holds] using bound
  | bool =>
    simp only [Kind.ofWire, Option.some.injEq] at read
    subst read
    split <;> rfl
  | choice values =>
    simp only [Kind.ofWire] at read
    split at read
    · next listed =>
      rw [Option.some.injEq] at read
      subst read
      exact listed
    · cases read
  | _ => cases read

theorem slot?_number {s : Shape} {n : Nat} {slot : Slot} (known : s.slot? n = some slot) :
    slot.number = n := by
  simpa using List.find?_some known

end Shape

mutual

/-- A value that a field of the kind can hold. -/
inductive Value.Suits : Shape.Kind → Value → Prop
  | number {k : Shape.Kind} {n : Int} : k.holds n = true → Value.Suits k (.number n)
  | numbers {k : Shape.Kind} {ns : List Int} : (∀ n ∈ ns, k.holds n = true) → Value.Suits k (.numbers ns)
  | fixed (bs : Bytes) : Value.Suits .double (.fixed bs)
  | text (s : String) : Value.Suits .text (.text s)
  | noText (bs : Bytes) : Value.Suits .text (.octets bs)
  | octets (bs : Bytes) : Value.Suits .octets (.octets bs)
  | nested {s : Shape} {m : Message} : Message.Suits s m → Value.Suits (.nested s) (.nested m)

/-- A message of the shape. -/
inductive Message.Suits : Shape → Message → Prop
  | mk {s : Shape} {fields : List (Nat × Value)} {unknown : Bytes} :
      (∀ f ∈ fields, (s.slot? f.1).isSome) →
      (∀ f ∈ fields, ∀ slot, s.slot? f.1 = some slot → Value.Suits slot.kind f.2) →
      Message.Suits s (.mk fields unknown)

end

theorem Value.suits_ofHanded (h : Handed) : Suits .text (.ofHanded h) := by
  cases h with
  | text s => exact .text s
  | octets bs => exact .noText bs

namespace Message

variable {s : Shape} {m m' : Message} {n : Nat} {slot : Shape.Slot} {v : Value}

theorem suits_iff :
    m.Suits s ↔ ∀ f ∈ m.fields, ∃ slot, s.slot? f.1 = some slot ∧ Value.Suits slot.kind f.2 := by
  obtain ⟨fields, unknown⟩ := m
  constructor
  · rintro ⟨known, each⟩ f mem
    obtain ⟨slot, found⟩ := Option.isSome_iff_exists.1 (known f mem)
    exact ⟨slot, found, each f mem slot found⟩
  · intro each
    refine .mk ?_ ?_
    · intro f mem
      obtain ⟨slot, found, -⟩ := each f mem
      simp [found]
    · intro f mem slot found
      obtain ⟨slot', found', suits⟩ := each f mem
      rw [found] at found'
      cases found'
      exact suits

theorem suits_empty : Suits s empty := suits_iff.2 (by simp [empty, fields])

theorem Suits.keep (suits : m.Suits s) (bs : Bytes) : (m.keep bs).Suits s := by
  rw [suits_iff] at suits ⊢
  exact suits

theorem Suits.add (suits : m.Suits s) (known : s.slot? n = some slot) (value : Value.Suits slot.kind v) :
    (m.add n v).Suits s := by
  rw [suits_iff] at suits ⊢
  intro f mem
  rcases List.mem_append.1 mem with before | mem
  · exact suits f (List.takeWhile_subset _ before)
  · rcases List.mem_cons.1 mem with rfl | behind
    · exact ⟨slot, known, value⟩
    · exact suits f (List.dropWhile_subset _ behind)

theorem Suits.put (suits : m.Suits s) (known : s.slot? n = some slot) (value : Value.Suits slot.kind v) :
    (m.put n v).Suits s := by
  refine Suits.add ?_ known value
  rw [suits_iff] at suits ⊢
  exact fun f mem => suits f (List.mem_filter.1 mem).1

theorem Suits.place (suits : m.Suits s) (known : s.slot? n = some slot) (value : Value.Suits slot.kind v)
    (repeated : Bool) : ((if repeated then m.add n else m.put n) v).Suits s := by
  split
  · exact suits.add known value
  · exact suits.put known value

theorem Suits.of_mem_values (suits : m.Suits s) (known : s.slot? n = some slot) (mem : v ∈ m.values n) :
    Value.Suits slot.kind v := by
  obtain ⟨⟨number, w⟩, here, e⟩ := List.mem_filterMap.1 mem
  simp only [Option.ite_none_right_eq_some, Option.some.injEq] at e
  obtain ⟨rfl, rfl⟩ := e
  obtain ⟨slot', found, value⟩ := suits_iff.1 suits _ here
  rw [known] at found
  cases found
  exact value

theorem Suits.holds_of_mem_numbers (suits : m.Suits s) (known : s.slot? n = some slot) :
    ∀ i ∈ m.numbers n, slot.kind.holds i = true := by
  intro i mem
  obtain ⟨v, here, mem⟩ := List.mem_flatMap.1 mem
  have value := suits.of_mem_values known here
  generalize slot.kind = k at value ⊢
  cases value with
  | number holds =>
    cases List.mem_singleton.1 mem
    exact holds
  | numbers all => exact all i mem
  | _ => cases mem

theorem Suits.of_mem_nested {inner : Shape} (suits : m.Suits s) (known : s.slot? n = some slot)
    (kind : slot.kind = .nested inner) : ∀ c ∈ m.nested n, c.Suits inner := by
  intro c mem
  obtain ⟨v, here, e⟩ := List.mem_filterMap.1 mem
  have value := suits.of_mem_values known here
  rw [kind] at value
  cases value <;> cases e
  assumption

/-- What a nested message is read into. -/
theorem Suits.standing {inner : Shape} (suits : m.Suits s) (known : s.slot? n = some slot)
    (kind : slot.kind = .nested inner) (repeated : Bool) :
    (if repeated then empty else (m.nested? n).getD empty).Suits inner := by
  split
  · exact suits_empty
  · cases first : m.nested? n with
    | none => exact suits_empty
    | some c => exact suits.of_mem_nested known kind c (List.mem_of_mem_head? first)

/-! ### Decoding -/

theorem Suits.takeNumber (suits : m.Suits s) (known : s.slot? n = some slot) (packed : Bool) {k : Nat}
    (small : k < Nat.pow 2 64) : (m.takeNumber packed slot k).Suits s := by
  have known' : s.slot? slot.number = some slot := by rw [Shape.slot?_number known, known]
  unfold Message.takeNumber
  cases read : slot.kind.ofWire k with
  | none => exact suits.keep _
  | some i =>
    have holds := Shape.Kind.holds_ofWire small read
    simp only
    split
    · refine suits.put known' (.numbers fun j mem => ?_)
      rcases List.mem_append.1 mem with before | last
      · exact suits.holds_of_mem_numbers known' j before
      · cases List.mem_singleton.1 last
        exact holds
    · split
      · exact suits.add known' (.number holds)
      · exact suits.put known' (.number holds)

theorem Suits.foldl_takeNumber (suits : m.Suits s) (known : s.slot? n = some slot) (packed : Bool)
    {ns : List Nat} (small : ∀ k ∈ ns, k < Nat.pow 2 64) :
    (ns.foldl (Message.takeNumber packed slot) m).Suits s := by
  induction ns generalizing m with
  | nil => exact suits
  | cons k ns ih =>
    exact ih (suits.takeNumber known packed (small k (by simp))) fun j mem => small j (by simp [mem])

/-- Reads of nested messages keep messages to their shapes. -/
def KeepsShape (inner : Shape → Message → Bytes → Option Message) : Prop :=
  ∀ s m bs m', inner s m bs = some m' → Suits s m → Suits s m'

theorem Suits.takeRecord {inner : Shape → Message → Bytes → Option Message} (keeps : KeepsShape inner)
    (suits : m.Suits s) {r : Wire.Record} (small : ∀ k, r.payload = .varint k → k < Nat.pow 2 64)
    (taken : m.takeRecord inner s r = some m') : m'.Suits s := by
  unfold Message.takeRecord at taken
  cases found : s.slot? r.number with
  | none =>
    rw [found] at taken
    cases taken
    exact suits.keep _
  | some slot =>
    have known : s.slot? slot.number = some slot := by rw [Shape.slot?_number found, found]
    have place : ∀ {v}, Value.Suits slot.kind v → _ := fun value => suits.place known value slot.repeated
    rw [found] at taken
    dsimp only at taken
    split at taken
    · next kind _ =>
      cases taken
      exact place (kind ▸ Value.suits_ofHanded _)
    · next kind _ =>
      cases taken
      exact place (kind ▸ .octets _)
    · next kind _ =>
      cases taken
      exact place (kind ▸ .fixed _)
    · next shape bs kind _ =>
      obtain ⟨new, read, e⟩ := Option.bind_eq_some_iff.1 taken
      cases e
      have new := keeps _ _ _ _ read (suits.standing known kind slot.repeated)
      exact place (kind ▸ .nested new)
    · next k payload =>
      split at taken
      · cases taken
        exact suits.takeNumber known _ (small k payload)
      · cases taken
        exact suits.keep _
    · split at taken
      · obtain ⟨ns, read, e⟩ := Option.bind_eq_some_iff.1 taken
        cases e
        exact suits.foldl_takeNumber known _ (Wire.number_lt_of_mem_packedWithin read)
      · cases taken
        exact suits.keep _
    · cases taken
      exact suits.keep _

theorem Suits.foldlM_takeRecord {inner : Shape → Message → Bytes → Option Message} (keeps : KeepsShape inner)
    {rs : List Wire.Record} (small : ∀ r ∈ rs, ∀ k, r.payload = .varint k → k < Nat.pow 2 64)
    (suits : m.Suits s) (taken : rs.foldlM (Message.takeRecord inner s) m = some m') : m'.Suits s := by
  induction rs generalizing m with
  | nil =>
    cases taken
    exact suits
  | cons r rs ih =>
    obtain ⟨next, first, others⟩ := Option.bind_eq_some_iff.1 taken
    exact ih (fun r mem => small r (by simp [mem])) (suits.takeRecord keeps (small r (by simp)) first) others

theorem keepsShape_absorb (depth : Nat) : KeepsShape (absorb depth) := by
  induction depth with
  | zero =>
    intro s m bs m' absorbed suits
    obtain ⟨rs, read, taken⟩ := Option.bind_eq_some_iff.1 absorbed
    have deep : KeepsShape fun _ _ _ => none := by
      intro s m bs m' read
      cases read
    exact suits.foldlM_takeRecord deep (Wire.number_lt_of_mem_recordsWithin read) taken
  | succ depth ih =>
    intro s m bs m' absorbed suits
    obtain ⟨rs, read, taken⟩ := Option.bind_eq_some_iff.1 absorbed
    exact suits.foldlM_takeRecord ih (Wire.number_lt_of_mem_recordsWithin read) taken

/-- Bytes decode to messages of the shape by which they are read. -/
theorem suits_of_decode? {bs : Bytes} (decoded : decode? s bs = some m) : m.Suits s :=
  keepsShape_absorb maxDepth s empty bs m decoded suits_empty

end Message
end Regen
