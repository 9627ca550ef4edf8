import Regen.Files.Walk

/-!
# Trees of files and directories

A sound tree has no links, and whatever stands in it stands in a directory. Writing a file, or making a
directory where nothing stands, keeps a tree sound (`Sound.put`).
-/

namespace Regen

namespace Assoc

variable {κ α : Type} [DecidableEq κ]

theorem mem_put {t : List (κ × α)} {k : κ} {v : α} {e : κ × α} (mem : e ∈ put t k v) :
    e = (k, v) ∨ e ∈ t := by
  induction t with
  | nil => exact .inl (by simpa [put] using mem)
  | cons d t ih =>
    by_cases here : d.1 = k
    · rw [put, if_pos here] at mem
      rcases List.mem_cons.1 mem with first | later
      · exact .inl (here ▸ first)
      · exact .inr (by simp [later])
    · rw [put, if_neg here] at mem
      rcases List.mem_cons.1 mem with first | later
      · exact .inr (by simp [first])
      · exact (ih later).imp_right fun old => by simp [old]

theorem keys_put (t : List (κ × α)) (k : κ) (v : α) :
    (put t k v).map (·.1) = if k ∈ t.map (·.1) then t.map (·.1) else t.map (·.1) ++ [k] := by
  induction t with
  | nil => rfl
  | cons d t ih =>
    by_cases here : d.1 = k
    · simp [put, here]
    · have other : ¬ k = d.1 := fun same => here same.symm
      by_cases later : k ∈ t.map (·.1) <;> simp_all [put]

theorem nodup_keys_put {t : List (κ × α)} (distinct : (t.map (·.1)).Nodup) (k : κ) (v : α) :
    ((put t k v).map (·.1)).Nodup := by
  rw [keys_put]
  split
  · exact distinct
  · next fresh =>
    rw [List.nodup_append]
    refine ⟨distinct, by simp, ?_⟩
    intro a ha b hb same
    rw [List.mem_singleton.1 hb] at same
    exact fresh (same ▸ ha)

theorem filterMap_put {β : Type} {f : κ × α → Option β} {k : κ} (nothing : ∀ v, f (k, v) = none)
    (t : List (κ × α)) (v : α) : (put t k v).filterMap f = t.filterMap f := by
  induction t with
  | nil => simp [put, nothing]
  | cons d t ih =>
    obtain ⟨k', v'⟩ := d
    rw [put]
    split
    · next here =>
      subst here
      simp [nothing]
    · rw [List.filterMap_cons, List.filterMap_cons, ih]

/-- Writing the value that is there changes nothing. -/
theorem put_of_get? {t : List (κ × α)} {k : κ} {v : α} (there : get? t k = some v) : put t k v = t := by
  induction t with
  | nil => cases there
  | cons d t ih =>
    obtain ⟨k', v'⟩ := d
    by_cases here : k' = k
    · simp_all [put, get?]
    · have rest : get? t k = some v := by simpa [get?, here] using there
      rw [put, if_neg here, ih rest]

theorem mem_of_get? {t : List (κ × α)} {k : κ} {v : α} (there : get? t k = some v) : (k, v) ∈ t := by
  obtain ⟨e, found, rfl⟩ := Option.map_eq_some_iff.1 there
  have key : e.1 = k := by simpa using List.find?_some found
  exact key ▸ List.mem_of_find?_eq_some found

theorem get?_of_mem {t : List (κ × α)} (distinct : (t.map (·.1)).Nodup) {e : κ × α} (mem : e ∈ t) :
    get? t e.1 = some e.2 := by
  induction t with
  | nil => cases mem
  | cons d t ih =>
    rw [List.map_cons, List.nodup_cons] at distinct
    rcases List.mem_cons.1 mem with rfl | mem
    · simp [get?]
    · have other : d.1 ≠ e.1 := fun same => distinct.1 (same ▸ List.mem_map_of_mem mem)
      have rest := ih distinct.2 mem
      simpa [get?, other] using rest

end Assoc

theorem Entry.file_ne_link {content : Bytes} {x : Bool} (target : String) :
    Entry.file content x ≠ .link target := by simp

theorem Entry.directory_ne_link (target : String) : Entry.directory ≠ .link target := by simp

namespace Files

/-- A name that a file can have. -/
structure IsName (name : String) : Prop where
  dot : name ≠ "."
  dots : name ≠ ".."
  nul : '\x00' ∉ name.toList

instance (name : String) : Decidable (IsName name) :=
  decidable_of_iff (name ≠ "." ∧ name ≠ ".." ∧ '\x00' ∉ name.toList)
    ⟨fun ⟨dot, dots, nul⟩ => ⟨dot, dots, nul⟩, fun h => ⟨h.dot, h.dots, h.nul⟩⟩

/-- A tree of files and directories, with the directory of each of them in it. -/
structure Sound (t : Files) : Prop where
  distinct : (t.entries.map (·.1)).Nodup
  unlinked : ∀ e ∈ t.entries, ∀ target, e.2 ≠ .link target
  rooted : ∀ e ∈ t.entries, e.1 ≠ []
  named : ∀ e ∈ t.entries, ∀ name ∈ e.1, IsName name
  closed : ∀ e ∈ t.entries, t.get? e.1.dropLast = some .directory

instance (e : Entry) : Decidable (∀ target, e ≠ .link target) :=
  match e with
  | .file .. => isTrue Entry.file_ne_link
  | .directory => isTrue Entry.directory_ne_link
  | .link target => isFalse fun plain => plain target rfl

instance (t : Files) : Decidable t.Sound :=
  decidable_of_iff ((t.entries.map (·.1)).Nodup ∧ (∀ e ∈ t.entries, ∀ target, e.2 ≠ .link target) ∧
      (∀ e ∈ t.entries, e.1 ≠ []) ∧ (∀ e ∈ t.entries, ∀ name ∈ e.1, IsName name) ∧
      ∀ e ∈ t.entries, t.get? e.1.dropLast = some .directory)
    ⟨fun ⟨distinct, unlinked, rooted, named, closed⟩ => ⟨distinct, unlinked, rooted, named, closed⟩,
      fun h => ⟨h.distinct, h.unlinked, h.rooted, h.named, h.closed⟩⟩

variable {t : Files}

theorem get?_put {p : Place} (inner : p ≠ []) (e : Entry) (q : Place) :
    (t.put p e).get? q = if q = p then some e else t.get? q := by
  unfold get? put
  by_cases root : q = []
  · rw [if_pos root, if_pos root, if_neg]
    rintro rfl
    exact inner root
  · rw [if_neg root, if_neg root, Assoc.get?_put]

/-- What stands in a tree stays when something is put where nothing stood. -/
theorem get?_put_of_free {p q : Place} (free : t.get? p = none) {e : Entry} (there : t.get? q = some e)
    (e' : Entry) :
    (t.put p e').get? q = some e := by
  have inner : p ≠ [] := by
    rintro rfl
    cases free
  rw [get?_put inner, if_neg, there]
  rintro rfl
  rw [free] at there
  cases there

theorem put_of_get? {p : Place} (inner : p ≠ []) {e : Entry} (there : t.get? p = some e) : t.put p e = t := by
  rw [get?, if_neg inner] at there
  rw [put, Assoc.put_of_get? there]

theorem mem_of_get? {p : Place} (inner : p ≠ []) {e : Entry} (there : t.get? p = some e) :
    (p, e) ∈ t.entries := by
  rw [get?, if_neg inner] at there
  exact Assoc.mem_of_get? there

namespace Sound

theorem get?_of_mem (sound : t.Sound) {e : Place × Entry} (mem : e ∈ t.entries) : t.get? e.1 = some e.2 := by
  rw [get?, if_neg (sound.rooted e mem)]
  exact Assoc.get?_of_mem sound.distinct mem

theorem not_link (sound : t.Sound) (p : Place) (target : String) : t.get? p ≠ some (.link target) := by
  intro link
  by_cases root : p = []
  · rw [get?, if_pos root] at link
    cases link
  · exact sound.unlinked _ (mem_of_get? root link) target rfl

theorem isName (sound : t.Sound) {p : Place} {e : Entry} (there : t.get? p = some e) :
    ∀ name ∈ p, IsName name := by
  by_cases root : p = []
  · simp [root]
  · exact sound.named _ (mem_of_get? root there)

/-- Where all stands that stands in a sound tree, and perhaps more, there are no fewer entries. -/
theorem length_le (sound : t.Sound) {u : Files} (stands : ∀ p, t.get? p ≠ none → u.get? p ≠ none) :
    t.entries.length ≤ u.entries.length := by
  have keys : t.entries.map (·.1) ⊆ u.entries.map (·.1) := by
    intro p key
    obtain ⟨e, mem, rfl⟩ := List.mem_map.1 key
    have there := stands e.1 (by simp [sound.get?_of_mem mem])
    obtain ⟨e', there⟩ := Option.ne_none_iff_exists'.1 there
    exact List.mem_map.2 ⟨_, mem_of_get? (sound.rooted e mem) there, rfl⟩
  simpa using sound.distinct.length_le_of_subset keys

/-- What is put where no directory stands keeps a tree sound. -/
theorem put (sound : t.Sound) {p : Place} {e : Entry} (inner : p ≠ []) (names : ∀ name ∈ p, IsName name)
    (parent : t.get? p.dropLast = some .directory) (leaf : t.get? p ≠ some .directory)
    (plain : ∀ target, e ≠ .link target) : (t.put p e).Sound where
  distinct := Assoc.nodup_keys_put sound.distinct p e
  unlinked := by
    intro d mem target
    rcases Assoc.mem_put mem with rfl | mem
    · exact plain target
    · exact sound.unlinked d mem target
  rooted := by
    intro d mem
    rcases Assoc.mem_put mem with rfl | mem
    · exact inner
    · exact sound.rooted d mem
  named := by
    intro d mem
    rcases Assoc.mem_put mem with rfl | mem
    · exact names
    · exact sound.named d mem
  closed := by
    intro d mem
    rw [get?_put inner]
    rcases Assoc.mem_put mem with rfl | mem
    · rw [if_neg ?_, parent]
      intro same
      exact leaf (same ▸ parent)
    · have above := sound.closed d mem
      rw [if_neg ?_, above]
      intro same
      exact leaf (same ▸ above)

end Sound

end Files
end Regen
