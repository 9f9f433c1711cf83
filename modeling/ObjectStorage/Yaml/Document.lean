import ObjectStorage.Yaml.Node
import ObjectStorage.Yaml.TokenStream

/-! The value of a document. Nodes are checked level by level from the root, so that of two nodes at
fault the one nearer to the root is found first; then their values are put together. -/

namespace ObjectStorage.Yaml

/-- A graph whose nodes are being checked. -/
structure Checker where
  nodes : Array Node
  /-- The values of the scalars that were reached. -/
  scalars : Array (Option Value)
  /-- The collections that were reached. -/
  reached : Array Bool
  /-- The same in the order in which they were reached. -/
  order : Array Nat := #[]
  /-- No less than the number of entries under which mappings are merged. -/
  mergeBound : Nat := 0

namespace Checker

abbrev Check := StateT Checker (Except Error)

def malformed {α : Type} : Check α := throw .malformed

def nodeAt (n : Nat) : Check Node := do
  pure ((← get).nodes.getD n (.scalar .unknown []))

def Node.tag : Node → Tag
  | .scalar tag _ => tag
  | .sequence tag _ => tag
  | .mapping tag _ => tag

/-- Whether a tag stands for a value that holds others. -/
def isCollection (tag : Tag) : Bool :=
  tag == .sequence || tag == .mapping || tag == .set || tag == .orderedMap || tag == .pairs

/-- The text of a node that is tagged as a scalar: a mapping may name a node that stands for it. -/
def scalarText (fuel : Nat) (n : Nat) : Check (List Text.CodePoint) := do
  match fuel with
  | 0 => throw .endless
  | fuel + 1 =>
    match ← nodeAt n with
    | .scalar _ text => pure text
    | .sequence .. => malformed
    | .mapping _ entries =>
      let nodes := (← get).nodes
      let isValue (entry : Nat × Nat) : Bool :=
        (nodes[entry.1]?).any fun key => Node.tag key == .value
      match entries.find? isValue with
      | some (_, v) => scalarText fuel v
      | none => malformed

/-- Checks a scalar, or puts a collection in the order of those whose children are to be checked. -/
def visit (n : Nat) : Check Unit := do
  let s ← get
  if (s.scalars.getD n none).isSome || s.reached.getD n false then pure ()
  else
    let tag := Node.tag (← nodeAt n)
    if isCollection tag then
      modify fun s => { s with
        reached := s.reached.setIfInBounds n true
        order := s.order.push n }
    else
      if tag = .merge ∨ tag = .value ∨ tag = .unknown then malformed
      let text ← scalarText (s.nodes.size + 1) n
      match tag, ← nodeAt n with
      | .timestamp, .mapping .. => throw .timestampOfCollection
      | _, _ => pure ()
      let value ← liftM (Scalar.value tag text)
      modify fun s => { s with scalars := s.scalars.setIfInBounds n (some value) }

/-- Gives a mapping other entries. -/
def setEntries (n : Nat) (entries : List (Nat × Nat)) : Check Unit := do
  let tag := Node.tag (← nodeAt n)
  modify fun s => { s with nodes := s.nodes.setIfInBounds n (.mapping tag entries) }

/-- The entries of a mapping. -/
def entriesOf (n : Nat) : Check (List (Nat × Nat)) := do
  match ← nodeAt n with
  | .mapping _ entries => pure entries
  | _ => malformed

/-- Gives a node another tag. -/
def retag (n : Nat) (tag : Tag) : Check Unit := do
  let node := match ← nodeAt n with
    | .scalar _ text => Node.scalar tag text
    | .sequence _ items => .sequence tag items
    | .mapping _ entries => .mapping tag entries
  modify fun s => { s with nodes := s.nodes.setIfInBounds n node }

/-- The entries that a node gives to a mapping that merges it: a mapping gives its own, and a
sequence of mappings those of all of them, the first one last. `complete` merges into a mapping what
it merges itself. -/
def mergedEntries (complete : Nat → Check Unit) (n : Nat) : Check (List (Nat × Nat)) := do
  match ← nodeAt n with
  | .mapping .. =>
    complete n
    entriesOf n
  | .sequence _ items =>
    let groups ← items.mapM fun item => do
      match ← nodeAt item with
      | .mapping .. =>
        complete item
        entriesOf item
      | _ => malformed
    pure groups.reverse.flatten
  | .scalar .. => malformed

/-- Goes through the entries of a mapping that stand from an index on; `merged` are those of other
mappings so far, which in the end come first. An equals sign as a key is just text. Where mappings
are merged, `goOn` takes over: the mapping may have got other entries by then, as it may merge
itself. -/
def mergeEntries (goOn : (n index : Nat) → List (Nat × Nat) → Check Unit) (n : Nat)
    (merged : List (Nat × Nat)) (index : Nat) : List (Nat × Nat) → Check Unit
  | [] => do if !merged.isEmpty then setEntries n (merged ++ (← entriesOf n))
  | (key, v) :: rest => do
    match Node.tag (← nodeAt key) with
    | .merge =>
      setEntries n ((← entriesOf n).eraseIdx index)
      goOn n index (merged ++ (← mergedEntries (goOn · 0 []) v))
    | .value =>
      retag key .text
      mergeEntries goOn n merged (index + 1) rest
    | _ => mergeEntries goOn n merged (index + 1) rest

/-- Gives a mapping the entries of those that it merges, in front of its own, from an index on. Each
merging takes one entry out of the document. -/
def merge : (bound : Nat) → (n index : Nat) → (merged : List (Nat × Nat)) → Check Unit
  | 0, _, _, _ => malformed
  | bound + 1, n, index, merged => do
    mergeEntries (merge bound) n merged index ((← entriesOf n).drop index)

/-- Visits the entries of a mapping, whose keys are scalars. -/
def visitEntries (entries : List (Nat × Nat)) : Check Unit :=
  entries.forM fun (key, v) => do
    visit key
    if isCollection (Node.tag (← nodeAt key)) then malformed
    visit v

/-- Visits the children of a collection, which must be of the form that its tag asks for. -/
def visitChildren (n : Nat) : Check Unit := do
  let node ← nodeAt n
  match Node.tag node, node with
  | .sequence, .sequence _ items => items.forM visit
  | .mapping, .mapping .. | .set, .mapping .. =>
    merge ((← get).mergeBound + 1) n 0 []
    visitEntries (← entriesOf n)
  | .orderedMap, .sequence _ items | .pairs, .sequence _ items =>
    items.forM fun item => do
      match ← nodeAt item with
      | .mapping _ [(key, v)] =>
        visit key
        visit v
      | _ => malformed
  | _, _ => malformed

/-- Checks collections in the order in which they were reached, from an index on. -/
def visitFrom (fuel index : Nat) : Check Unit := do
  match fuel, (← get).order[index]? with
  | fuel + 1, some n =>
    visitChildren n
    visitFrom fuel (index + 1)
  | _, _ => pure ()

/-- Checks everything that a root leads to. -/
def checkFrom (root : Nat) : Check Unit := do
  visit root
  visitFrom (← get).nodes.size 0

end Checker

/-- Adds an entry to a dictionary; an entry under the same key is replaced where it stands. -/
def insertEntry (entries : List (Value × Value)) (key v : Value) : List (Value × Value) :=
  if entries.any fun e => e.1.sameKey key then
    entries.map fun e => if e.1.sameKey key then (e.1, v) else e
  else entries ++ [(key, v)]

/-- The value of a node of a checked graph; values that are known already are kept in the state. A
collection that stands inside itself is empty there. -/
def valueOf (c : Checker) : (depth : Nat) → (n : Nat) → StateM (Array (Option Value)) Value
  | 0, _ => pure .null
  | depth + 1, n => do
    if let some (some v) := (← get)[n]? then pure v
    else
      modify fun known => known.setIfInBounds n (some (.list []))
      let children (ns : List Nat) : StateM (Array (Option Value)) (List Value) :=
        ns.mapM (valueOf c depth)
      let v ← match c.nodes.getD n (.scalar .null []) with
        | .scalar .. => pure .null
        | .sequence tag items =>
          if tag = .sequence then Value.list <$> children items
          else
            let pairs := items.map fun item =>
              match c.nodes.getD item (.scalar .null []) with
              | .mapping _ [(key, v)] => [key, v]
              | _ => []
            Value.list <$> pairs.mapM fun pair => Value.list <$> children pair
        | .mapping tag entries => do
          let keys ← children (entries.map (·.1))
          let values ← children (entries.map (·.2))
          let dict := (keys.zip values).foldl (fun d e => insertEntry d e.1 e.2) []
          pure (if tag = .set then .set (dict.map (·.1)) else .dict dict)
      modify fun known => known.setIfInBounds n (some v)
      pure v

/-- The value of a graph; without a root it is null. -/
def Graph.value (g : Graph) : Except Error Value :=
  match g.root? with
  | none => .ok .null
  | some root => do
    let size := g.nodes.size
    let start : Checker := {
      nodes := g.nodes
      scalars := Array.replicate size none
      reached := Array.replicate size false
      mergeBound := g.nodes.foldl (fun bound node => bound + node.size) 0 }
    let (_, checked) ← Checker.checkFrom root |>.run start
    pure ((valueOf checked (size + 1) root).run checked.scalars).1

/-- The value of a text that is one document at most. -/
def load (source : Source) : Except Error Value := do
  (← Graph.ofSource source).value

end ObjectStorage.Yaml
