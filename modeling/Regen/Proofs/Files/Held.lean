import Regen.Proofs.Sync.Copy

/-!
# Work inside one directory

A directory has been opened for work (`Opened`), and the work changes nothing but what is inside it (`Held`).
Writing a file behind it is such work, whether it fails or not (`worked_writeFile`). When the directory is taken
away in the end, all is as it was before it was made (`Held.get?_cut`).
-/

namespace Regen

namespace Assoc

variable {κ α : Type} [DecidableEq κ]

theorem get?_filter (keep : κ → Bool) (t : List (κ × α)) (k : κ) :
    get? (t.filter fun e => keep e.1) k = if keep k then get? t k else none := by
  rw [get?, List.find?_filter]
  by_cases stays : keep k
  · have same : (fun e : κ × α => decide (keep e.1 = true ∧ decide (e.1 = k) = true)) =
        fun e => decide (e.1 = k) := by
      funext e
      by_cases here : e.1 = k <;> simp [here, stays]
    rw [if_pos stays, same, get?]
  · rw [if_neg stays, Option.map_eq_none_iff, List.find?_eq_none]
    intro e _
    by_cases here : e.1 = k <;> simp [here, stays]

end Assoc

namespace Files

variable {t u v : Files} {base p D S : Place} {staging : Path} {ns : List String}

theorem get?_cut (inner : S ≠ []) (p : Place) : (t.cut S).get? p = if S <+: p then none else t.get? p := by
  unfold get? cut
  by_cases root : p = []
  · subst root
    rw [if_pos rfl, if_neg, if_pos rfl]
    simp [inner]
  · rw [if_neg root, if_neg root, Assoc.get?_filter fun q => !S.isPrefixOf q]
    by_cases below : S <+: p
    · simp [below, List.isPrefixOf_iff_prefix.2 below]
    · have outside : S.isPrefixOf p = false := Bool.eq_false_iff.2 fun h => below (List.isPrefixOf_iff_prefix.1 h)
      simp [below, outside]

/-- Everywhere but inside a place two trees have the same. -/
def SameOff (S : Place) (t u : Files) : Prop := ∀ p, (S <+: p → p = S) → u.get? p = t.get? p

/-- A directory inside which nothing stands, with the paths that lead to it and to the directory around it. -/
structure Opened (t : Files) (base : Place) (staging : Path) (S : Place) : Prop where
  anchor : Anchor t base staging.root staging.parts S
  stop : t.locate base false staging = .ok S
  parent : t.isDirectory base staging.parent = true
  around : ∀ p, p <+: S → t.get? p = some .directory
  empty : ∀ p, S <+: p → p ≠ S → t.get? p = none
  inner : S ≠ []

/-- A name that is not followed at the end of a path leads to a place in the directory before it, whatever
stands there. -/
theorem Anchor.locate_last {root : String} {lead : List String} {name : String} (anchor : Anchor t base root lead D)
    (inner : IsInner name) : t.locate base false ⟨root, lead ++ [name]⟩ =
      if Fits ⟨root, lead ++ [name]⟩ [name] then .ok (D ++ [name]) else .error SystemFault.nameTooLong := by
  have ends : ∀ jump, t.walkFrom false jump D [name] =
      if maxNameBytes < name.utf8ByteSize then .error SystemFault.nameTooLong else .ok (D ++ [name]) := by
    intro jump
    rw [walkFrom, if_neg inner.dot, if_neg inner.dots]
    refine if_congr Iff.rfl rfl ?_
    dsimp only
    cases t.get? (D ++ [name]) with
    | none => rfl
    | some e => cases e <;> rfl
  obtain ⟨left, walks⟩ := anchor.walks false (List.cons_ne_nil name [])
  have through : t.walkThrough false left D [name] =
      if maxNameBytes < name.utf8ByteSize then .error SystemFault.nameTooLong else .ok (D ++ [name]) := by
    cases left <;> exact ends _
  rw [walks, through]
  by_cases short : (Path.toString ⟨root, lead ++ [name]⟩).utf8ByteSize < pathBytesLimit
  · rw [if_neg (by omega)]
    by_cases long : maxNameBytes < name.utf8ByteSize <;> simp [Fits, short, long]
  · rw [if_pos (by omega), if_neg fun fits => short fits.1]

/-- A directory is made at the end of a path unless something stands there. -/
theorem Anchor.makeDirectory_last {root : String} {lead : List String} {name : String}
    (anchor : Anchor t base root lead D) (inner : IsInner name) :
    t.makeDirectory base ⟨root, lead ++ [name]⟩ =
      if Fits ⟨root, lead ++ [name]⟩ [name] then
        match t.get? (D ++ [name]) with
        | none => .ok (t.put (D ++ [name]) .directory)
        | some _ => .error ⟨SystemFault.alreadyThere, (Path.toString ⟨root, lead ++ [name]⟩)⟩
      else .error ⟨SystemFault.nameTooLong, (Path.toString ⟨root, lead ++ [name]⟩)⟩ := by
  unfold Files.makeDirectory
  rw [anchor.locate_last inner]
  split
  · simp only [bind, Except.bind]
    cases t.get? (D ++ [name]) <;> rfl
  · rfl

theorem Anchor.makeDirectory_last_eq_ok {root : String} {lead : List String} {name : String}
    (anchor : Anchor t base root lead D) (inner : IsInner name)
    (made : t.makeDirectory base ⟨root, lead ++ [name]⟩ = .ok u) : Fits ⟨root, lead ++ [name]⟩ [name] ∧
      t.get? (D ++ [name]) = none ∧ u = t.put (D ++ [name]) .directory := by
  rw [anchor.makeDirectory_last inner] at made
  split at made
  · next fits =>
    cases free : t.get? (D ++ [name]) with
    | none =>
      rw [free] at made
      cases made
      exact ⟨fits, rfl, rfl⟩
    | some e =>
      rw [free] at made
      cases made
  · cases made

/-- A directory that has just been made in another one is open for work. -/
theorem Opened.of_put {root : String} {lead : List String} {name : String} (closed : t.Closed)
    (anchor : Anchor t base root lead D) (inner : IsInner name) (fits : Fits ⟨root, lead ++ [name]⟩ [name])
    (free : t.get? (D ++ [name]) = none) :
    Opened (t.put (D ++ [name]) .directory) base ⟨root, lead ++ [name]⟩ (D ++ [name]) := by
  have bound : D ++ [name] ≠ [] := ne_nil_of_none free
  have there : (t.put (D ++ [name]) .directory).get? (D ++ [name]) = some .directory := by
    rw [get?_put bound, if_pos rfl]
  have kept : ∀ p e, t.get? p = some e → (t.put (D ++ [name]) .directory).get? p = some e :=
    fun p e here => get?_put_of_free free here _
  have ways := Ways.of_kept kept
  have follows : ∀ follow, (t.put (D ++ [name]) .directory).locate base follow ⟨root, lead ++ [name]⟩ =
      .ok (D ++ [name]) := by
    have found : t.locate base false ⟨root, lead ++ [name]⟩ = .ok (D ++ [name]) := by
      rw [anchor.locate_last inner, if_pos fits]
    exact fun follow => locate_kept ways (by simp [there]) (by simp) found
  refine ⟨⟨follows true, there⟩, follows false, ?_, ?_, ?_, bound⟩
  · rw [Path.parent_append (List.cons_ne_nil name []), List.dropLast_singleton, List.append_nil]
    exact isDirectory_iff.2 ⟨D, (anchor.kept ways).found, (anchor.kept ways).directory⟩
  · intro p above
    by_cases whole : p = D ++ [name]
    · rw [whole, there]
    · refine kept p _ ?_
      obtain ⟨rest, split⟩ := (List.prefix_concat_iff.1 above).resolve_left whole
      by_cases last : rest = []
      · rw [show p = D by simpa [last] using split]
        exact anchor.directory
      · exact closed.directory last (split ▸ anchor.directory)
  · intro p below inside
    rw [get?_put bound, if_neg inside]
    cases there : t.get? p with
    | none => rfl
    | some e => exact absurd below (closed.outside free there)

/-- A tree in which work has been done inside a directory of `t` and nowhere else. No link is inside. -/
structure Held (t : Files) (S : Place) (u : Files) : Prop where
  off : SameOff S t u
  clear : Clear u S

theorem Opened.clear (opened : Opened t base staging S) : Clear t S := by
  intro p target below link
  by_cases here : p = S
  · rw [here, opened.anchor.directory] at link
    cases link
  · rw [opened.empty p below here] at link
    cases link

theorem Opened.held (opened : Opened t base staging S) : Held t S t := ⟨fun _ _ => rfl, opened.clear⟩

/-- Where a file stands in the one tree one stands in the other, with the same content or not. -/
def FilesStay (t u : Files) : Prop := ∀ p content x, t.get? p = some (.file content x) →
  ∃ content' x', u.get? p = some (.file content' x')

theorem FilesStay.refl (t : Files) : FilesStay t t := fun _ content x there => ⟨content, x, there⟩

theorem FilesStay.of_paved {goal : Place} (paved : Paved goal t u) : FilesStay t u :=
  fun _ content x there => ⟨content, x, paved.kept there⟩

theorem FilesStay.of_wrote {goal : Place} {content : Bytes} (wrote : Wrote t u goal content) : FilesStay t u := by
  intro p content' x there
  by_cases here : p = goal
  · obtain ⟨x', holds⟩ := wrote.holds
    exact ⟨content, x', here ▸ holds⟩
  · exact ⟨content', x, wrote.kept here there⟩

namespace Held

variable (opened : Opened t base staging S) (held : Held t S u)

include opened held

theorem kept {e : Entry} (there : t.get? p = some e) : u.get? p = some e := by
  rw [held.off, there]
  intro below
  by_contra inside
  rw [opened.empty p below inside] at there
  cases there

theorem ways : Ways t u := .of_kept fun _ _ => held.kept opened

theorem anchor : Anchor u base staging.root staging.parts S := opened.anchor.kept (held.ways opened)

theorem stop : u.locate base false staging = .ok S := by
  have directory := (held.anchor opened).directory
  exact locate_kept (held.ways opened) (by simp [directory]) id opened.stop

theorem parent : u.isDirectory base staging.parent = true := isDirectory_kept (held.ways opened) opened.parent

/-- What is new on the way to a place inside the directory is inside it. -/
theorem fresh_off (off : S <+: p → p = S) (fresh : u.get? p = none) (rest : Place) : ¬ p <+: S ++ rest := by
  intro way
  -- Such a place is on the way to the directory, and all of that stands since it was opened.
  have above : p <+: S := by
    rcases List.prefix_or_prefix_of_prefix way (List.prefix_append S rest) with above | below
    · exact above
    · exact off below ▸ List.prefix_refl S
  have there := held.kept opened (opened.around p above)
  rw [fresh] at there
  cases there

theorem paved {rest : Place} (paved : Paved (S ++ rest) u v) : Held t S v where
  off := by
    intro p off
    rw [← held.off p off]
    cases before : u.get? p with
    | some e => rw [paved.kept before]
    | none =>
      cases after : v.get? p with
      | none => rfl
      | some e => exact absurd (paved.made before after).2 (held.fresh_off opened off before rest)
  clear := paved.clear held.clear

theorem wrote {rest : Place} (more : rest ≠ []) {content : Bytes} (wrote : Wrote u v (S ++ rest) content) :
    Held t S v where
  off := by
    intro p off
    rw [← held.off p off]
    have other : p ≠ S ++ rest := by
      rintro rfl
      exact more (by simpa using off (List.prefix_append S rest))
    cases before : u.get? p with
    | some e => rw [wrote.kept other before]
    | none =>
      cases after : v.get? p with
      | none => rfl
      | some e =>
        have way := ((wrote.made before after).resolve_left other).2.trans (List.dropLast_prefix _)
        exact absurd way (held.fresh_off opened off before rest)
  clear := by
    intro p target below link
    cases before : u.get? p with
    | none =>
      rcases wrote.made before link with rfl | ⟨directory, -⟩
      · obtain ⟨x, file⟩ := wrote.holds
        rw [file] at link
        cases link
      · cases directory
    | some e =>
      by_cases goal : p = S ++ rest
      · obtain ⟨x, file⟩ := wrote.holds
        rw [goal, file] at link
        cases link
      · rw [wrote.kept goal before] at link
        cases link
        exact held.clear p target below before

/-- Outside of it all is as before the directory was made. -/
theorem outside {t₀ : Files} (made : t = t₀.put S .directory) (outside : ¬ S <+: p) : u.get? p = t₀.get? p := by
  rw [held.off p fun below => absurd below outside, made, get?_put opened.inner, if_neg]
  rintro rfl
  exact outside (List.prefix_refl _)

/-- When the directory is taken away, all is as in a tree to which only the directory was added. -/
theorem get?_cut {t₀ : Files} (free : t₀.get? S = none) (closed : t₀.Closed)
    (made : t = t₀.put S .directory) (p : Place) : (u.cut S).get? p = t₀.get? p := by
  rw [Files.get?_cut opened.inner]
  split
  · next below =>
    cases there : t₀.get? p with
    | none => rfl
    | some e => exact absurd below (closed.outside free there)
  · next outside => exact held.outside opened made outside

end Held

end Files

namespace Session

open Files

variable {host : Host} {w : World} {t : Files} {S : Place} {staging : Path} {ns : List String}

/-- A file cannot be written where a directory is open for work. -/
theorem runOn_writeFile_directory (parent : w.files.isDirectory host.cwd staging.parent = true)
    (anchor : Anchor w.files host.cwd staging.root staging.parts S) (content : Bytes) :
    (writeFile staging content).runOn host w =
      (.error (if staging.parent.hasNul || staging.hasNul then .outOfRange
        else .system ⟨SystemFault.isDirectory, staging.toString⟩), w) := by
  rw [writeFile]
  cases plain : staging.parent.hasNul with
  | true =>
    have fails : (makeDirectories staging.parent).runOn host w = (.error .outOfRange, w) := by
      rw [makeDirectories, runOn_bind_of_error (runOn_demand_of_nul plain)]
    rw [runOn_bind_of_error fails, Bool.true_or, if_pos rfl]
  | false =>
    have made : (makeDirectories staging.parent).runOn host w = (.ok (), w) := by
      rw [runOn_makeDirectories plain, makeDirectories_of_isDirectory parent]
      rfl
    rw [runOn_bind_of_ok made, Bool.false_or]
    cases plain : staging.hasNul with
    | true => rw [runOn_bind_of_error (runOn_demand_of_nul plain), if_pos rfl]
    | false =>
      have found : w.files.locate host.cwd true staging = .ok S := anchor.found
      rw [runOn_bind_of_ok (runOn_demand_of_plain plain), runOn_alter, Files.write, found]
      simp only [bind, Except.bind, writeAt, anchor.directory]
      rfl

/-- From one world to another, work was done inside a directory of `t` alone, and no file was taken away. -/
structure Worked (t : Files) (S : Place) (w v : World) : Prop where
  held : Held t S v.files
  sound : w.files.Sound → v.files.Sound
  files : FilesStay w.files v.files
  journal : v.journal = w.journal

/-- Writing a file behind a directory open for work changes nothing else, whether it fails or not. -/
theorem worked_writeFile (opened : Opened t host.cwd staging S) (held : Held t S w.files)
    (inner : ∀ n ∈ ns, IsInner n) (content : Bytes) :
    Worked t S w ((writeFile ⟨staging.root, staging.parts ++ ns⟩ content).runOn host w).2 := by
  have anchor := held.anchor opened
  generalize run : (writeFile ⟨staging.root, staging.parts ++ ns⟩ content).runOn host w = r
  by_cases more : ns = []
  · subst more
    rw [List.append_nil] at run
    cases run.symm.trans (runOn_writeFile_directory (held.parent opened) anchor content)
    exact ⟨held, id, .refl _, rfl⟩
  · rcases runOn_writeFile_cases anchor held.clear inner more content with
      ⟨e, u, fails, paved, sound⟩ | ⟨v, done, wrote, sound, -⟩
    · cases run.symm.trans fails
      rw [List.dropLast_append_of_ne_nil more] at paved
      exact ⟨held.paved opened paved, sound, .of_paved paved, rfl⟩
    · cases run.symm.trans done
      exact ⟨held.wrote opened more wrote, sound, .of_wrote wrote, rfl⟩

theorem worked_copyFile (opened : Opened t host.cwd staging S) (held : Held t S w.files) (source : Path)
    (inner : ∀ n ∈ ns, IsInner n) :
    Worked t S w ((copyFile source ⟨staging.root, staging.parts ++ ns⟩).runOn host w).2 := by
  have unchanged : ((readFile source).runOn host w).2 = w := runOn_readFile_snd source w
  rw [copyFile, runOn_bind]
  generalize (readFile source).runOn host w = read at unchanged ⊢
  obtain ⟨e | content, w'⟩ := read
  · subst unchanged
    exact ⟨held, id, .refl _, rfl⟩
  · subst unchanged
    exact worked_writeFile opened held inner content

end Session

end Regen
