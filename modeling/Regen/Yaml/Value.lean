import Regen.Yaml.Node

/-!
# From nodes to documents

Each node gets its value once, by its kind. Collections are looked at one level after the other:
the parts of all collections of a level get their values before any part of a deeper one. In a
mapping, later entries replace earlier ones with the same key, and a merge key brings in the
entries of other mappings, which count as standing in front of the mapping's own. The document of
a node is its value down to a fixed depth, since a node may be a part of itself.
-/

namespace Regen.Yaml

/-- The value of a node; its parts are the values of other nodes. -/
inductive Value where
  | plain (d : Document)
  | list (items : List Ref)
  | pairs (items : List (Ref × Ref))
  | set (keys : List Document)
  | table (entries : List (Document × Ref))
  deriving Inhabited

def Node.kind : Node → Kind
  | .scalar k _ => k
  | .codes _ => .text
  | .sequence k _ => k
  | .mapping k _ => k

/-- How many entries a mapping has. -/
def Node.size : Node → Nat
  | .mapping _ es => es.size
  | _ => 0

/-- The nodes, the values that are known, and the collections whose parts have none yet, the
    latest first. -/
structure Valuation where
  nodes : Graph
  values : Array (Option Value)
  waiting : List Ref

abbrev Valuing := StateT Valuation (Except Fault)

namespace Valuing

def node (r : Ref) : Valuing Node := return (← get).nodes.getD r default

def setNode (r : Ref) (n : Node) : Valuing Unit :=
  modify fun v => { v with nodes := v.nodes.setIfInBounds r n }

def setValue (r : Ref) (x : Value) : Valuing Unit :=
  modify fun v => { v with values := v.values.setIfInBounds r (some x) }

/-- The text of a scalar, or of the scalar that a mapping has as its value. -/
def wording : Nat → Ref → Valuing Document
  | 0, _ => throw (.value .tooDeep)
  | fuel + 1, r => do
    match ← node r with
    | .scalar _ s => return .text s
    | .codes cs => return .codes cs
    | .mapping _ es =>
      let nodes := (← get).nodes
      match es.find? fun e => (nodes.getD e.1 default).kind = .value with
      | some (_, v) => wording fuel v
      | none => throw .wrongKind
    | .sequence _ _ => throw .wrongKind

def entriesOf (r : Ref) : Valuing (Array (Ref × Ref)) := do
  match ← node r with
  | .mapping _ es => return es
  | _ => throw .badMerge

/-- Replaces the merge keys of a mapping from entry `index` on by the entries that they bring in;
    `merged` are those of the merge keys in front. A lone `=` as a key is a text. -/
def flatten : Nat → Ref → (index : Nat) → (merged : Array (Ref × Ref)) → Valuing Unit
  | 0, _, _, _ => throw (.value .tooDeep)
  | fuel + 1, r, index, merged => do
    let n ← node r
    let es ← entriesOf r
    match es[index]? with
    | none => if !merged.isEmpty then setNode r (.mapping n.kind (merged ++ es))
    | some (k, v) =>
      match ← node k with
      | .scalar .merge _ =>
        setNode r (.mapping n.kind (es.eraseIdxIfInBounds index))
        let more ← match ← node v with
          | .mapping _ _ => do
            flatten fuel v 0 #[]
            entriesOf v
          | .sequence _ parts => do
            let sources ← parts.mapM fun p => do
              let _ ← entriesOf p
              flatten fuel p 0 #[]
              entriesOf p
            pure (sources.reverse.foldl (· ++ ·) #[])
          | .scalar _ _ | .codes _ => throw .badMerge
        flatten fuel r index (merged ++ more)
      | .scalar .value s =>
        setNode k (.scalar .text s)
        flatten fuel r (index + 1) merged
      | _ => flatten fuel r (index + 1) merged

/-- The value of a node. That of a collection is empty as long as the collection waits. -/
def value (r : Ref) : Valuing Value := do
  match (← get).values.getD r none with
  | some v => return v
  | none =>
    let n ← node r
    let wording := wording ((← get).nodes.size + 1) r
    let asText : Valuing String := do
      match ← wording with
      | .text s => return s
      | d => return d.keyText
    let empty (v : Value) : Valuing Value := do
      modify fun s => { s with waiting := r :: s.waiting }
      return v
    let v ← match n.kind with
      | .null => do
        let _ ← asText
        pure (.plain .null)
      | .bool => .plain <$> ofExcept (Scalar.truth (← asText))
      | .int => .plain <$> ofExcept (Scalar.int (← asText))
      | .float => .plain <$> ofExcept (Scalar.float r (← asText))
      | .time => do
        let s ← asText
        if n matches .mapping _ _ then throw (.value .timeInMapping)
        .plain <$> ofExcept (Scalar.time s)
      | .binary => .plain <$> ofExcept (Scalar.binary (← asText))
      | .text => .plain <$> wording
      | .sequence => empty (.list [])
      | .orderedMap | .pairs => empty (.pairs [])
      | .set => empty (.set [])
      | .mapping => empty (.table [])
      | .merge | .value | .unknown => throw .unknownTag
    setValue r v
    return v
where
  ofExcept {α : Type} : Except Fault α → Valuing α
    | .ok a => pure a
    | .error f => throw f

/-- The value of a key; collections are no keys. -/
def key (r : Ref) : Valuing Document := do
  match ← value r with
  | .plain d => return d
  | _ => throw .badKey

/-- The entries of a mapping with the values of its keys. -/
def table (r : Ref) : Valuing (List (Document × Ref)) := do
  match ← node r with
  | .mapping _ es =>
    let nodes := (← get).nodes
    let isMerge (e : Ref × Ref) : Bool := (nodes.getD e.1 default).kind = .merge
    let count := if es.any isMerge then nodes.foldl (fun k n => k + n.size) es.size else es.size
    flatten ((count + 2) * (count + 2)) r 0 #[]
    (← entriesOf r).toList.foldlM (fun t (k, v) => do
      let d ← key k
      let _ ← value v
      return putRef d v t) []
  | _ => throw .wrongKind
where
  putRef (k : Document) (v : Ref) : List (Document × Ref) → List (Document × Ref)
    | [] => [(k, v)]
    | (k', v') :: t => if Document.sameKey k' k then (k', v) :: t else (k', v') :: putRef k v t

/-- Gives the parts of a waiting collection their values. -/
def fill (r : Ref) : Valuing Unit := do
  let items : Valuing (List Ref) := do
    match ← node r with
    | .sequence _ rs => return rs
    | _ => throw .wrongKind
  match (← node r).kind with
  | .sequence =>
    let rs ← items
    for p in rs do
      let _ ← value p
    setValue r (.list rs)
  | .orderedMap | .pairs =>
    let ps ← (← items).mapM fun p => do
      match ← node p with
      | .mapping _ #[(k, v)] => do
        let _ ← value k
        let _ ← value v
        return (k, v)
      | _ => throw .wrongKind
    setValue r (.pairs ps)
  | .set => setValue r (.set ((← table r).map (·.1)))
  | _ => setValue r (.table (← table r))

/-- Fills the waiting collections, those that come to wait meanwhile after them. -/
def fillAll : Nat → Valuing Unit
  | 0 => return ()
  | fuel + 1 => do
    let level := (← get).waiting.reverse
    if !level.isEmpty then
      modify fun s => { s with waiting := [] }
      for r in level do fill r
      fillAll fuel

/-- Gives all nodes that belong to the document of a node their values. -/
def valueAll (r : Ref) : Valuing Unit := do
  let _ ← value r
  fillAll ((← get).nodes.size + 1)

end Valuing

/-! ### Documents -/

/-- A document is known down to this depth, which is more than a configuration has. -/
def knownDepth : Nat := 6

namespace Value

/-- The document of a value, given those of its parts. -/
def document (part : Ref → Document) : Value → Document
  | plain d => d
  | list rs => .list (rs.map part)
  | pairs ps => .list (ps.map fun (k, v) => .pair (part k) (part v))
  | set ks => .set ks
  | table es => .table (es.map fun (k, r) => (k, part r))

/-- The value without its parts. -/
def bare : Value → Document
  | plain d => d
  | list _ | pairs _ => .list []
  | set _ => .set []
  | table _ => .table []

/-- The documents of all values, down to a depth. -/
def documents (values : Array (Option Value)) : Nat → Array Document
  | 0 => values.map fun v => v.elim .null bare
  | depth + 1 =>
    let below := documents values depth
    values.map fun v => v.elim .null (document fun r => below.getD r .null)

end Value

end Regen.Yaml

/-- The document that a text holds; a text without one holds nothing. -/
def Regen.Yaml.document (text : String) : Except Fault Document := do
  match ← read text with
  | none => return .null
  | some (nodes, r) =>
    let (_, v) ← (Valuing.valueAll r).run ⟨nodes, Array.replicate nodes.size none, []⟩
    return (Value.documents v.values knownDepth).getD r .null
