import ClientGen.Value.Inspect
import ClientGen.Yaml.Node

/-!
# From nodes to objects

A mapping takes over the entries of the mappings that its `<<` keys name.  They come in front of its
own entries, those of a list of mappings in reverse, and the `<<` entries go.  Merging changes the
graph: what a mapping has taken over stays with it wherever it is used, and a mapping that is met
again while it is being merged is merged as far as that has come (`Graph.merge`).

Every node of a document stands for one object, whose kind its tag decides, and an object refers to
others by the numbers of their nodes.  Scalars are read where they are met.  A collection starts out
empty and is filled later, in the order in which collections are met, so of two faults the one
nearer to the root counts, and among equally near ones the first in the text.  A mapping is merged
right before it is filled.  Main definition: `Store.ofGraph`.
-/

namespace ClientGen.Yaml

/-! ### Merging of mappings -/

namespace Graph

/-- The number of `<<` entries in a graph. -/
def mergeCount (g : Graph) : Nat :=
  g.foldl (fun count node =>
    match node.content with
    | .mapping entries => count + (entries.filter fun entry => g.tag entry.1 = .merge).length
    | _ => count) 0

/-- The value under the first `<<` key of some entries, and the other entries. -/
def splitMerge? (g : Graph) : List (Nat × Nat) → Option (Nat × List (Nat × Nat))
  | [] => none
  | (key, value) :: rest =>
    if g.tag key = .merge then some (value, rest)
    else (g.splitMerge? rest).map fun (source, others) => (source, (key, value) :: others)

/-- The graph in which the `=` keys of some entries are plain texts. -/
def plainKeys (g : Graph) (entries : List (Nat × Nat)) : Graph :=
  entries.foldl (fun g entry => if g.tag entry.1 = .value then g.setTag entry.1 .str else g) g

/-- Puts the entries taken over in front of those of a mapping without `<<` keys. -/
def finishMerge (g : Graph) (n : Nat) (taken : List (Nat × Nat)) : Graph :=
  let own := g.entries n
  (g.plainKeys own).setContent n (.mapping (taken ++ own))

/-- The graph in which a mapping has taken over what its `<<` keys name, `taken` being the entries
that it has taken over before.  Every step takes a `<<` entry out of the graph, so `fuel` steps are
enough where it has no more of them. -/
def merge (fuel : Nat) (g : Graph) (n : Nat) (taken : List (Nat × Nat)) : Except Fault Graph :=
  match fuel with
  | 0 => .ok (g.finishMerge n taken)
  | fuel + 1 =>
    match g.splitMerge? (g.entries n) with
    | none => .ok (g.finishMerge n taken)
    | some (source, others) => do
      -- The entry is out of the graph before its source is merged, which may be this mapping.
      let g := g.setContent n (.mapping others)
      match g.content source with
      | .scalar _ => throw .malformed
      | .mapping _ =>
        let g ← merge fuel g source []
        merge fuel g n (taken ++ g.entries source)
      | .sequence items =>
        let (g, groups) ← items.foldlM
          (fun ((g, groups) : Graph × List (List (Nat × Nat))) item => do
            match g.content item with
            | .mapping _ =>
              let g ← merge fuel g item []
              -- The first mapping comes last, since of equal keys the last one counts.
              return (g, g.entries item :: groups)
            | _ => throw .malformed)
          (g, [])
        merge fuel g n (taken ++ groups.flatten)

end Graph

/-! ### Objects -/

/-- An object; the parts of collections are given by number. -/
inductive Object where
  /-- A scalar; `isWord` for the one object that the word `.nan` stands for. -/
  | leaf (value : Value) (isWord : Bool)
  | list (items : List Nat)
  | pairs (entries : List (Nat × Nat))
  | table (entries : List (Nat × Nat))
  | set (keys : List Nat)

/-- The nodes, the objects that they stand for as far as they are known, and the nodes whose objects
have been met and are filled in this order. -/
structure Store where
  graph : Graph
  objects : Array (Option Object)
  queue : Array Nat := #[]

namespace Store

/-- The object of a node, if it is known. -/
def object? (s : Store) (n : Nat) : Option Object :=
  (s.objects[n]?).join

/-- Lets a node stand for an object. -/
def put (s : Store) (n : Nat) (object : Object) : Store :=
  { s with objects := s.objects.setIfInBounds n (some object) }

/-- The text of a node that stands for a scalar: its own, or that under the `=` key of a mapping. -/
def scalarText (g : Graph) (fuel : Nat) (n : Nat) : Except Fault String :=
  match fuel with
  | 0 => .error .recursion
  | fuel + 1 =>
    match g.content n with
    | .scalar text => .ok text
    | .sequence _ => .error .malformed
    | .mapping entries =>
      match entries.find? fun entry => g.tag entry.1 = .value with
      | some (_, value) => scalarText g fuel value
      | none => .error .malformed

/-- Meets a node that stands for a scalar. -/
def meetScalar (s : Store) (n : Nat) (tag : Tag) : Except Fault Store := do
  let text ← scalarText s.graph (s.graph.size + 1) n
  match tag, s.graph.content n with
  -- The text of a date is looked at as it stands, never under an `=` key.
  | .timestamp, .mapping _ => throw .notText
  | _, _ => return s.put n (.leaf (← scalarValue tag text) (tag = .float && isNaNWord text))

/-- Meets a node that stands for a collection, which is empty so far. -/
def meetCollection (s : Store) (n : Nat) (empty : Object) : Store :=
  { s.put n empty with queue := s.queue.push n }

/-- Meets a node; one that was met before stands for the same object. -/
def meet (s : Store) (n : Nat) : Except Fault Store :=
  if (s.object? n).isSome then .ok s
  else match s.graph.tag n with
    | .seq => .ok (s.meetCollection n (.list []))
    | .omap | .pairs => .ok (s.meetCollection n (.pairs []))
    | .map => .ok (s.meetCollection n (.table []))
    | .set => .ok (s.meetCollection n (.set []))
    | .merge | .value | .unknown => .error .malformed
    | tag => s.meetScalar n tag

/-- Whether two nodes stand for the same key. -/
def sameKey (s : Store) (a b : Nat) : Bool :=
  a == b || (match s.object? a, s.object? b with
    | some (.leaf value isWord), some (.leaf other isOtherWord) =>
      (isWord && isOtherWord) || value.sameKey other
    | _, _ => false)

/-- Whether the object of a node may be a key. -/
def isKey (s : Store) (n : Nat) : Bool :=
  match s.object? n with
  | some (.leaf _ _) => true
  | _ => false

/-- Stores a value under a key: in place when the same key is present, else at the end. -/
def putEntry (s : Store) (key value : Nat) : List (Nat × Nat) → List (Nat × Nat)
  | [] => [(key, value)]
  | (other, old) :: rest =>
    if s.sameKey key other then (other, value) :: rest
    else (other, old) :: s.putEntry key value rest

/-- Meets the keys and values of a mapping. -/
def meetEntries (s : Store) (known : List (Nat × Nat)) :
    List (Nat × Nat) → Except Fault (Store × List (Nat × Nat))
  | [] => .ok (s, known)
  | (key, value) :: rest => do
    let s ← s.meet key
    if !s.isKey key then throw .malformed
    let s ← s.meet value
    s.meetEntries (s.putEntry key value known) rest

/-- Meets the items of a list of mappings that have one entry each. -/
def meetPairs (s : Store) : List Nat → Except Fault (Store × List (Nat × Nat))
  | [] => .ok (s, [])
  | item :: rest =>
    match s.graph.content item with
    | .mapping [(key, value)] => do
      let s ← (← s.meet key).meet value
      let (s, pairs) ← s.meetPairs rest
      return (s, (key, value) :: pairs)
    | _ => .error .malformed

/-- Fills the collection of a node, merging with no more than `fuel` steps. -/
def fill (fuel : Nat) (s : Store) (n : Nat) : Except Fault Store :=
  match s.graph.tag n, s.graph.content n with
  | .seq, .sequence items => do
    let s ← items.foldlM (fun s item => s.meet item) s
    return s.put n (.list items)
  | .omap, .sequence items | .pairs, .sequence items => do
    let (s, pairs) ← s.meetPairs items
    return s.put n (.pairs pairs)
  | .map, .mapping _ => do
    let graph ← s.graph.merge fuel n []
    let (s, entries) ← { s with graph }.meetEntries [] (graph.entries n)
    return s.put n (.table entries)
  | .set, .mapping _ => do
    let graph ← s.graph.merge fuel n []
    let (s, entries) ← { s with graph }.meetEntries [] (graph.entries n)
    return s.put n (.set (entries.map (·.1)))
  | _, _ => .error .malformed

/-- Fills the collections from a place in the queue on. -/
def fillFrom (fuel : Nat) (s : Store) (place : Nat) : Nat → Except Fault Store
  | 0 => .ok s
  | left + 1 =>
    match s.queue[place]? with
    | none => .ok s
    | some n => do (← s.fill fuel n).fillFrom fuel (place + 1) left

/-- The objects of a graph, as far as they can be met from its root; every node waits in the queue
at most once. -/
def ofGraph (g : Graph) (root : Nat) : Except Fault Store := do
  let s : Store := { graph := g, objects := Array.replicate g.size none }
  (← s.meet root).fillFrom (g.mergeCount + 2) 0 (g.size + 1)

end Store

end ClientGen.Yaml
