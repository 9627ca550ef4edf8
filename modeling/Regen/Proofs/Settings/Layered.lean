import Regen.Proofs.Corresponding
import Regen.Proofs.Overrides
import Regen.Proofs.Settings

/-!
# Overrides of the command line

An item of the command line gives a path an import path, cut at its first `=` (`Gives`), or it is malformed. The first malformed
item ends a batch run before anything was done. Without one the items are layered over the table of the
configuration, where the last item for a path decides (`Layered`), and the run goes on as it would have gone on without
them (`ofOptions_layers`). Batches of items may be layered one after the other (`withOverrides_append`).
-/

namespace Regen

/-! ### Tables written over tables -/

namespace Assoc

variable {κ α : Type} [DecidableEq κ]

/-- Of two values for a key the second one stays. -/
theorem put_put (t : List (κ × α)) (k : κ) (v v' : α) : put (put t k v) k v' = put t k v' := by
  induction t with
  | nil => simp [put]
  | cons e t ih =>
    by_cases here : e.1 = k
    · simp [put, here]
    · simp [put, here, ih]

/-- A key that has its place does not mind what is written in between. -/
theorem put_comm {t : List (κ × α)} {k k' : κ} (there : k ∈ t.map (·.1)) (other : k' ≠ k) (v v' : α) :
    put (put t k' v') k v = put (put t k v) k' v' := by
  induction t with
  | nil => cases there
  | cons e t ih =>
    by_cases here : e.1 = k
    · have apart : ¬ k = k' := Ne.symm other
      simp [put, here, apart]
    · have later : k ∈ t.map (·.1) := (List.mem_cons.1 there).resolve_left (Ne.symm here)
      by_cases first : e.1 = k'
      · simp [put, first, other]
      · simp [put, here, first, ih later]

theorem put_putAll {t extra : List (κ × α)} {k : κ} (there : k ∈ t.map (·.1)) (fresh : k ∉ extra.map (·.1)) (v : α) :
    put (putAll t extra) k v = putAll (put t k v) extra := by
  induction extra generalizing t with
  | nil => rfl
  | cons e extra ih =>
    rw [List.map_cons, List.mem_cons, not_or] at fresh
    have still : k ∈ (put t e.1 e.2).map (·.1) := by
      rw [keys_put]
      split <;> simp [there]
    show put (putAll (put t e.1 e.2) extra) k v = putAll (put (put t k v) e.1 e.2) extra
    rw [ih still fresh.2, put_comm there (Ne.symm fresh.1)]

/-- A value is written into a table before or after the table is written over another one. -/
theorem putAll_put {u : List (κ × α)} (distinct : (u.map (·.1)).Nodup) (t : List (κ × α)) (k : κ) (v : α) :
    putAll t (put u k v) = put (putAll t u) k v := by
  induction u generalizing t with
  | nil => rfl
  | cons e u ih =>
    obtain ⟨fresh, distinct⟩ := List.nodup_cons.1 distinct
    by_cases here : e.1 = k
    · subst here
      have there : e.1 ∈ (put t e.1 e.2).map (·.1) := by
        rw [keys_put]
        split
        · assumption
        · simp
      show putAll t (put (e :: u) e.1 v) = put (putAll (put t e.1 e.2) u) e.1 v
      rw [put_putAll there fresh, put_put, put, if_pos rfl]
      rfl
    · rw [put, if_neg here]
      exact ih distinct (put t e.1 e.2)

theorem putAll_putAll {u : List (κ × α)} (distinct : (u.map (·.1)).Nodup) (t extra : List (κ × α)) :
    putAll t (putAll u extra) = putAll (putAll t u) extra := by
  induction extra generalizing u with
  | nil => rfl
  | cons e extra ih =>
    have first : putAll t (putAll (put u e.1 e.2) extra) = putAll (putAll t (put u e.1 e.2)) extra :=
      ih (nodup_keys_put distinct e.1 e.2)
    rw [putAll_put distinct] at first
    exact first

end Assoc

namespace Overrides

/-! ### Items -/

/-- What an item gives a path: the two are its sides around the first `=`, without the blanks around them. -/
inductive Gives : String → String → String → Prop
  | sides {before after : String} (first : '=' ∉ before.toList) (path : Text.trim before ≠ "")
      (importPath : Text.trim after ≠ "") : Gives (before ++ "=" ++ after) (Text.trim before) (Text.trim after)

/-- An item that cannot be read. -/
inductive Malformed : String → Prop
  | undivided {item : String} (none : '=' ∉ item.toList) : Malformed item
  | noPath {before after : String} (first : '=' ∉ before.toList) (blank : Text.trim before = "") :
      Malformed (before ++ "=" ++ after)
  | noImport {before after : String} (first : '=' ∉ before.toList) (blank : Text.trim after = "") :
      Malformed (before ++ "=" ++ after)

variable {item path importPath before after : String}

theorem decide_ne_of_not_mem {cs : List Char} {c : Char} (none : c ∉ cs) : ∀ d ∈ cs, decide (d ≠ c) = true := by
  intro d mem
  rw [decide_eq_true_iff]
  rintro rfl
  exact none mem

theorem parseItem_of_undivided (none : '=' ∉ item.toList) : parseItem item = .error (.config (.badOverride item)) := by
  have rest : item.toList.dropWhile (· ≠ '=') = [] := List.dropWhile_eq_nil_iff.2 (decide_ne_of_not_mem none)
  unfold parseItem
  simp only [rest]
  exact if_pos (.inr (by decide))

theorem parseItem_sides (first : '=' ∉ before.toList) (after : String) : parseItem (before ++ "=" ++ after) =
    if Text.trim before = "" ∨ Text.trim after = "" then .error (.config (.badOverride (before ++ "=" ++ after)))
    else .ok (Text.trim before, Text.trim after) := by
  have all := decide_ne_of_not_mem first
  have stop : ∀ c ∈ ('=' :: after.toList).head?, decide (c ≠ '=') = false := by simp
  have chars : (before ++ "=" ++ after).toList = before.toList ++ '=' :: after.toList := by simp
  unfold parseItem
  simp only [chars, Text.takeWhile_append_head all stop, Text.dropWhile_append_head all stop, List.drop_succ_cons,
    List.drop_zero, String.ofList_toList]

theorem parseItem_of_gives (gives : Gives item path importPath) : parseItem item = .ok (path, importPath) := by
  obtain ⟨first, path, importPath⟩ := gives
  rw [parseItem_sides first, if_neg (not_or.2 ⟨path, importPath⟩)]

theorem parseItem_of_malformed (malformed : Malformed item) :
    parseItem item = .error (.config (.badOverride item)) := by
  cases malformed with
  | undivided none => exact parseItem_of_undivided none
  | noPath first blank => rw [parseItem_sides first, if_pos (.inl blank)]
  | noImport first blank => rw [parseItem_sides first, if_pos (.inr blank)]

theorem malformed_or_gives (item : String) : Malformed item ∨ ∃ path importPath, Gives item path importPath := by
  by_cases divided : '=' ∈ item.toList
  · obtain ⟨before, after, chars, first⟩ := List.eq_append_cons_of_mem divided
    have whole : item = String.ofList before ++ "=" ++ String.ofList after := by
      rw [← String.toList_inj, chars]
      simp
    have plain : '=' ∉ (String.ofList before).toList := by simpa using first
    rw [whole]
    by_cases path : Text.trim (String.ofList before) = ""
    · exact .inl (.noPath plain path)
    · by_cases importPath : Text.trim (String.ofList after) = ""
      · exact .inl (.noImport plain importPath)
      · exact .inr ⟨_, _, .sides plain path importPath⟩
  · exact .inl (.undivided divided)

theorem parseItem_eq_ok_iff : parseItem item = .ok (path, importPath) ↔ Gives item path importPath := by
  constructor
  · intro parsed
    rcases malformed_or_gives item with malformed | ⟨path', importPath', gives⟩
    · rw [parseItem_of_malformed malformed] at parsed
      cases parsed
    · rw [parseItem_of_gives gives] at parsed
      cases parsed
      exact gives
  · exact parseItem_of_gives

theorem malformed_iff : Malformed item ↔ parseItem item = .error (.config (.badOverride item)) := by
  constructor
  · exact parseItem_of_malformed
  · intro parsed
    refine (malformed_or_gives item).resolve_right ?_
    rintro ⟨path, importPath, gives⟩
    rw [parseItem_of_gives gives] at parsed
    cases parsed

theorem Gives.not_malformed (gives : Gives item path importPath) : ¬ Malformed item := by
  intro malformed
  have parsed := parseItem_of_gives gives
  rw [parseItem_of_malformed malformed] at parsed
  cases parsed

/-- An item gives one path one import path. -/
theorem Gives.unique {path' importPath' : String} (gives : Gives item path importPath)
    (also : Gives item path' importPath') : path = path' ∧ importPath = importPath' := by
  have parsed := parseItem_of_gives gives
  rw [parseItem_of_gives also] at parsed
  cases parsed
  exact ⟨rfl, rfl⟩

/-! ### Items one after the other -/

/-- Items and what they give. -/
abbrev Given (items : List String) (es : List (String × String)) : Prop :=
  List.Forall₂ (fun item e => Gives item e.1 e.2) items es

variable {items : List String} {es : List (String × String)}

theorem parseItems_eq (items : List String) : parseItems items = (items.mapM parseItem).map (Assoc.putAll []) := by
  unfold parseItems
  generalize ([] : List (String × String)) = t
  induction items generalizing t with
  | nil => rfl
  | cons item items ih =>
    rw [List.foldlM_cons, List.mapM_cons]
    cases parseItem item with
    | error e => rfl
    | ok e =>
      show items.foldlM _ (Assoc.put t e.1 e.2) = _
      rw [ih]
      cases items.mapM parseItem <;> rfl

theorem exists_given (fine : ∀ item ∈ items, ¬ Malformed item) : ∃ es, Given items es := by
  induction items with
  | nil => exact ⟨[], .nil⟩
  | cons item items ih =>
    obtain ⟨path, importPath, gives⟩ := (malformed_or_gives item).resolve_left (fine item (by simp))
    obtain ⟨es, given⟩ := ih fun i mem => fine i (by simp [mem])
    exact ⟨(path, importPath) :: es, .cons gives given⟩

theorem Given.mapM (given : Given items es) : items.mapM parseItem = .ok es := by
  induction given with
  | nil => rfl
  | cons gives _ ih =>
    rw [List.mapM_cons, parseItem_of_gives gives, ih]
    rfl

theorem Given.fine (given : Given items es) : ∀ item ∈ items, ¬ Malformed item := by
  intro item mem
  obtain ⟨e, -, gives⟩ := (mem_of_forall₂ given).1 item mem
  exact gives.not_malformed

/-- The paths to which items give something are those of what they give. -/
theorem Given.mem_paths (given : Given items es) (mem : item ∈ items) (gives : Gives item path importPath) :
    path ∈ es.map (·.1) := by
  obtain ⟨e, listed, also⟩ := (mem_of_forall₂ given).1 item mem
  rw [(gives.unique also).1]
  exact List.mem_map_of_mem listed

/-- The first malformed item is the failure of all items. -/
theorem mapM_of_malformed {earlier : List String} (fine : ∀ i ∈ earlier, ¬ Malformed i) (malformed : Malformed item)
    (later : List String) : (earlier ++ item :: later).mapM parseItem = .error (.config (.badOverride item)) := by
  obtain ⟨es, given⟩ := exists_given fine
  rw [mapM_append_ok, Given.mapM given, List.mapM_cons, parseItem_of_malformed malformed]
  rfl

/-- The last of the items for a path. -/
inductive LastGives : List String → String → String → Prop
  | here {item path importPath : String} {later : List String} (gives : Gives item path importPath)
      (last : ∀ i ∈ later, ∀ v, ¬ Gives i path v) : LastGives (item :: later) path importPath
  | later {item path importPath : String} {later : List String} (gives : LastGives later path importPath) :
      LastGives (item :: later) path importPath

/-- A table in which items are layered over another table. -/
structure Layered (items : List String) (t u : Overrides) : Prop where
  last : ∀ path importPath, LastGives items path importPath → u.get? path = some importPath
  kept : ∀ path, (∀ item ∈ items, ∀ v, ¬ Gives item path v) → u.get? path = t.get? path
  paths : ∀ path, path ∈ u.entries.map (·.1) ↔
    path ∈ t.entries.map (·.1) ∨ ∃ item ∈ items, ∃ importPath, Gives item path importPath

theorem layered_nil (t : Overrides) : Layered [] t t where
  last _ _ last := by cases last
  kept _ _ := rfl
  paths := by simp

/-- An item in front is layered first. -/
theorem Layered.cons {t u : Overrides} (gives : Gives item path importPath)
    (layered : Layered items ⟨Assoc.put t.entries path importPath⟩ u) : Layered (item :: items) t u where
  last path' importPath' last := by
    cases last with
    | here gives' none =>
      obtain ⟨rfl, rfl⟩ := gives.unique gives'
      rw [layered.kept path none, get?, Assoc.get?_put, if_pos rfl]
    | later last => exact layered.last path' importPath' last
  kept path' none := by
    have other : path' ≠ path := by
      rintro rfl
      exact none item (by simp) importPath gives
    rw [layered.kept path' fun i mem => none i (by simp [mem]), get?, Assoc.get?_put, if_neg other]
    rfl
  paths path' := by
    have before : path' ∈ (Assoc.put t.entries path importPath).map (·.1) ↔
        path' ∈ t.entries.map (·.1) ∨ path' = path := by
      rw [Assoc.keys_put]
      split
      · next there =>
        constructor
        · exact .inl
        · rintro (mem | rfl)
          · exact mem
          · exact there
      · simp
    have here : (∃ v, Gives item path' v) ↔ path' = path := by
      constructor
      · rintro ⟨v, also⟩
        exact (also.unique gives).1
      · rintro rfl
        exact ⟨importPath, gives⟩
    rw [layered.paths path', before, List.exists_mem_cons_iff, here, or_assoc]

theorem Given.layered (given : Given items es) (t : Overrides) : Layered items t (t.merged es) := by
  induction given generalizing t with
  | nil => exact layered_nil t
  | cons gives _ ih => exact .cons gives (ih _)

end Overrides

namespace Settings

open Overrides

/-! ### Layering -/

/-- The items are layered in the order in which they stand. -/
theorem withOverrides_eq (config : Config) (items : List String) :
    withOverrides config items =
      (items.mapM parseItem).map fun es => { config with overrides := config.overrides.merged es } := by
  unfold withOverrides
  rw [parseItems_eq]
  cases items.mapM parseItem with
  | error e => rfl
  | ok es =>
    have same : config.overrides.merged (Assoc.putAll [] es) = config.overrides.merged es := by
      unfold merged
      have whole : Assoc.putAll config.overrides.entries (Assoc.putAll [] es) = Assoc.putAll config.overrides.entries es :=
        Assoc.putAll_putAll (u := []) List.nodup_nil ..
      rw [whole]
    show Except.ok { config with overrides := config.overrides.merged (Assoc.putAll [] es) } = _
    rw [same]
    rfl

/-- Two batches of items are layered one after the other. -/
theorem withOverrides_append (config : Config) (items items' : List String) :
    withOverrides config (items ++ items') =
      (withOverrides config items).bind fun config => withOverrides config items' := by
  rw [withOverrides_eq, withOverrides_eq, mapM_append_ok]
  cases items.mapM parseItem with
  | error e => rfl
  | ok es =>
    show _ = withOverrides { config with overrides := config.overrides.merged es } items'
    rw [withOverrides_eq]
    cases items'.mapM parseItem with
    | error e => rfl
    | ok es' =>
      have both : config.overrides.merged (es ++ es') = (config.overrides.merged es).merged es' := by
        simp only [merged, Assoc.putAll, List.foldl_append]
      show Except.ok { config with overrides := config.overrides.merged (es ++ es') } = _
      rw [both]
      rfl

/-! ### The rest of a batch run's settings -/

/-- The settings with another table of overrides. -/
def withTable (s : Settings) (t : Overrides) : Settings := { s with config := { s.config with overrides := t } }

/-- The settings of a batch run once its configuration is there. -/
def ofConfig (o : Options) (protoRoot : String) (config : Config) : Session Settings := do
  let root ← Session.resolve (← orElse o.repoRoot Tool.repositoryRoot)
  let modulePath ← orElse (told o.modulePath) (Tool.modulePath root)
  let protoRoot ← Session.resolve (Path.ofString protoRoot)
  let executable ← orElse (told o.pluginExecutable) (do defaultExecutable (← read).program)
  let configPath ← o.configPath.mapM Session.resolve
  return ⟨.batch, if o.execute then .apply else .diff, root, modulePath, some protoRoot, executable, [], configPath,
    config⟩

/-- The table of overrides has no part in anything else. -/
theorem ofConfig_withTable (o : Options) (protoRoot : String) (config : Config) (t : Overrides) :
    ofConfig o protoRoot { config with overrides := t } = (·.withTable t) <$> ofConfig o protoRoot config := by
  simp only [ofConfig, map_bind, map_pure, withTable]

variable {host : Host} {w : World} {o : Options} {root : String} {loaded : Config}

/-- Loading changes nothing. -/
theorem runOn_load_of_ok {path : Option Path} (load : ((Config.load path).runOn host w).1 = .ok loaded) :
    (Config.load path).runOn host w = (.ok loaded, w) := by
  cases path with
  | none => exact Prod.ext load rfl
  | some p =>
    have run : (Config.ofFile p).runOn host w = (.ok loaded, ((Config.ofFile p).runOn host w).2) := Prod.ext load rfl
    obtain ⟨-, -, -, still⟩ := Config.runOn_ofFile_eq_ok_iff.1 run
    rw [still] at run
    exact run

/-- Once the configuration is loaded the items are read, and nothing else is done before. -/
theorem runOn_ofOptions_of_loaded (rooted : told o.protoRoot = some root)
    (load : ((Config.load o.configPath).runOn host w).1 = .ok loaded) :
    (ofOptions o).runOn host w = match withOverrides loaded o.overrides with
      | .error e => (.error e, w)
      | .ok config => (ofConfig o root config).runOn host w := by
  rw [ofOptions_eq, rooted]
  show Session.runOn (do
    let config ← Config.load o.configPath
    let config ← Session.ofExcept (withOverrides config o.overrides)
    ofConfig o root config) host w = _
  rw [Session.runOn_bind_of_ok (runOn_load_of_ok load), Session.runOn_bind, Session.runOn_ofExcept]
  cases withOverrides loaded o.overrides <;> rfl

/-- The first malformed item ends a batch run with its failure before anything was done. Without one the items are
layered over the table of the configuration; nothing else of the configuration changes, and the run ends as it ends
without items but for that table. Two batches of items are layered one after the other. -/
theorem ofOptions_layers (rooted : told o.protoRoot = some root)
    (load : ((Config.load o.configPath).runOn host w).1 = .ok loaded) :
    (∀ earlier item later, o.overrides = earlier ++ item :: later → (∀ i ∈ earlier, ¬ Malformed i) →
      Malformed item → (ofOptions o).runOn host w = (.error (.config (.badOverride item)), w)) ∧
    ((∀ item ∈ o.overrides, ¬ Malformed item) → ∃ t, Layered o.overrides loaded.overrides t ∧
      (∀ s w', (ofOptions o).runOn host w = (.ok s, w') → s.config = { loaded with overrides := t }) ∧
      (ofOptions o).runOn host w = (((ofOptions { o with overrides := [] }).runOn host w).1.map (·.withTable t),
        ((ofOptions { o with overrides := [] }).runOn host w).2)) ∧
    ∀ config items items', withOverrides config (items ++ items') =
      (withOverrides config items).bind fun config => withOverrides config items' := by
  have run := runOn_ofOptions_of_loaded rooted load
  refine ⟨fun earlier item later whole fine malformed => ?_, fun fine => ?_, withOverrides_append⟩
  · have first : withOverrides loaded o.overrides = .error (.config (.badOverride item)) := by
      rw [withOverrides_eq, whole, mapM_of_malformed fine malformed]
      rfl
    rw [run, first]
  · obtain ⟨es, given⟩ := exists_given fine
    have layers : withOverrides loaded o.overrides =
        .ok { loaded with overrides := loaded.overrides.merged es } := by
      rw [withOverrides_eq, Given.mapM given]
      rfl
    refine ⟨loaded.overrides.merged es, Given.layered given _, fun s w' returns => ?_, ?_⟩
    · obtain ⟨loaded', v, v', again, layered, -⟩ := runOn_ofOptions returns
      rw [runOn_load_of_ok load] at again
      cases again
      rw [layers] at layered
      exact (Except.ok.inj layered).symm
    · have without : (ofOptions { o with overrides := [] }).runOn host w = (ofConfig o root loaded).runOn host w :=
        runOn_ofOptions_of_loaded (o := { o with overrides := [] }) rooted load
      rw [run, layers, without, ← Session.runOn_map, ← ofConfig_withTable]

namespace Sample

/-- The first path comes twice, and the second one has an import path in the packaged table. -/
def items : List String :=
  [" user.proto = example.com/old ", "google/protobuf/any.proto=example.com/any;any=pb", "user.proto=example.com/user"]

theorem given_items : Given items [("user.proto", "example.com/old"),
    ("google/protobuf/any.proto", "example.com/any;any=pb"), ("user.proto", "example.com/user")] := by
  refine .cons ?_ (.cons ?_ (.cons ?_ .nil)) <;> exact parseItem_eq_ok_iff.1 (by decide +kernel)

/-- The options of a run with overrides and the packaged tables. -/
def overriding (items : List String) : Options := { options none with overrides := items }

theorem rooted (items : List String) : told (overriding items).protoRoot = some "/protos" := rfl

theorem packaged (items : List String) :
    ((Config.load (overriding items).configPath).runOn host world).1 = .ok .packaged := rfl

end Sample

/-- The last import path of a path stands, and so does one with a `=` in it, over that of the packaged table. With an
item behind them that has no import path there is nothing but its failure. -/
theorem ofOptions_layers_sample :
    (∃ t, t.get? "user.proto" = some "example.com/user" ∧
      t.get? "google/protobuf/any.proto" = some "example.com/any;any=pb" ∧
      t.get? "google/protobuf/empty.proto" = some "google.golang.org/protobuf/types/known/emptypb" ∧
      (ofOptions (Sample.overriding Sample.items)).runOn Sample.host Sample.world =
        (.ok ((Sample.settings none .packaged).withTable t), Sample.world)) ∧
    (ofOptions (Sample.overriding (Sample.items ++ ["user.proto= "]))).runOn Sample.host Sample.world =
      (.error (.config (.badOverride "user.proto= ")), Sample.world) := by
  have given := Sample.given_items
  obtain ⟨-, fine, -⟩ := ofOptions_layers (Sample.rooted Sample.items) (Sample.packaged Sample.items)
  obtain ⟨first, -, -⟩ := ofOptions_layers (Sample.rooted (Sample.items ++ ["user.proto= "])) (Sample.packaged _)
  constructor
  · obtain ⟨t, layered, -, run⟩ := fine given.fine
    have user : Gives "user.proto=example.com/user" "user.proto" "example.com/user" :=
      parseItem_eq_ok_iff.1 (by decide +kernel)
    have any : Gives "google/protobuf/any.proto=example.com/any;any=pb" "google/protobuf/any.proto"
        "example.com/any;any=pb" := parseItem_eq_ok_iff.1 (by decide +kernel)
    refine ⟨t, layered.last _ _ (.later (.later (.here user (by simp)))), layered.last _ _ (.later (.here any ?_)), ?_, ?_⟩
    · intro i mem v other
      obtain rfl := List.mem_singleton.1 mem
      exact absurd (user.unique other).1 (by decide)
    · have none : ∀ item ∈ Sample.items, ∀ v, ¬ Gives item "google/protobuf/empty.proto" v := by
        intro item mem v other
        exact absurd (given.mem_paths mem other) (by decide)
      rw [layered.kept _ none]
      decide
    · have without : (ofOptions { Sample.overriding Sample.items with overrides := [] }).runOn Sample.host Sample.world =
          (.ok (Sample.settings none .packaged), Sample.world) := Sample.run_packaged
      rw [run, without]
      rfl
  · exact first Sample.items "user.proto= " [] rfl given.fine (malformed_iff.2 (by decide +kernel))

end Settings
end Regen
