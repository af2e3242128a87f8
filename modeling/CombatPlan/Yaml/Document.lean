import CombatPlan.Datum.Memory
import CombatPlan.Yaml.Node
import CombatPlan.Yaml.Scalar

/-!
# Documents

The data that a document describes, each node of it at an address. The value of a node is worked out once. That of a
list or a map comes in two steps: first it is there without its parts, and they follow when its turn comes, in the
order in which such nodes were come across. So of two faults the one that is nested less deeply is found first. A map
may merge the fields of others into its own.

Tags, directives and escapes for halves of surrogate pairs are not covered.
-/

namespace CombatPlan.Yaml

structure Valuation where
  nodes : Array Node
  cells : Array (Option Cell)
  /-- The lists and maps whose parts have yet to follow. -/
  waiting : List NodeId := []

abbrev Evaluate := StateT Valuation (Except DocumentFault)

namespace Valuation

def malformed {α : Type} : Evaluate α :=
  throw .malformed

def node (id : NodeId) : Evaluate Node := do
  return (← get).nodes.getD id default

def setNode (id : NodeId) (node : Node) : Evaluate Unit :=
  modify fun v => { v with nodes := v.nodes.setIfInBounds id node }

def setCell (id : NodeId) (cell : Cell) : Evaluate Unit :=
  modify fun v => { v with cells := v.cells.setIfInBounds id (some cell) }

def await (id : NodeId) (cell : Cell) : Evaluate Unit := do
  setCell id cell
  modify fun v => { v with waiting := v.waiting ++ [id] }

def visit (id : NodeId) : Evaluate Cell := do
  match ((← get).cells.getD id none), ← node id with
  | some cell, _ => return cell
  | none, .text plain s =>
    let cell := Cell.scalar (← if plain then resolve s else pure (.text s))
    setCell id cell
    return cell
  | none, .list _ =>
    await id (.list [])
    return .list []
  | none, .map _ =>
    await id (.record [])
    return .record []

def fieldsOf (id : NodeId) : Evaluate (List (NodeId × NodeId)) := do
  match ← node id with
  | .map fields => return fields
  | _ => malformed

mutual

/-- Takes the fields that are merged into a map in front of its own. The sign for a default value is no more than a
text once it was seen as a key. -/
def flatten : (fuel : Nat) → NodeId → Evaluate Unit
  | 0, _ => malformed
  | fuel + 1, id => do
    let inherited ← inherit fuel id 0 []
    setNode id (.map (inherited ++ (← fieldsOf id)))

/-- The fields merged into a map by its keys from `index` on, behind those found before. -/
def inherit : (fuel : Nat) → NodeId → (index : Nat) → List (NodeId × NodeId) → Evaluate (List (NodeId × NodeId))
  | 0, _, _, _ => malformed
  | fuel + 1, id, index, found => do
    let fields ← fieldsOf id
    match fields[index]? with
    | none => return found
    | some (k, v) =>
      match ← node k with
      | .text true "<<" =>
        setNode id (.map (fields.eraseIdx index))
        let these ←
          match ← node v with
          | .map _ =>
            flatten fuel v
            fieldsOf v
          | .list items => inheritAll fuel items
          | _ => malformed
        inherit fuel id index (found ++ these)
      | .text true "=" =>
        setNode k (.text false "=")
        inherit fuel id (index + 1) found
      | _ => inherit fuel id (index + 1) found

/-- The fields of several maps, those of the last map first. -/
def inheritAll : (fuel : Nat) → List NodeId → Evaluate (List (NodeId × NodeId))
  | _, [] => return []
  | 0, _ => malformed
  | fuel + 1, id :: ids => do
    let _ ← fieldsOf id
    flatten fuel id
    let fields ← fieldsOf id
    return (← inheritAll fuel ids) ++ fields

end

/-- The fields of a record. Keys are scalars; of a key given twice the later value stands in the earlier place. -/
def record (fields : List (NodeId × NodeId)) : Evaluate (List (Scalar × NodeId)) :=
  fields.foldlM (fun r (k, v) => do
    match ← visit k with
    | .scalar key =>
      let _ ← visit v
      return Datum.insert key v r
    | _ => malformed) []

def fillIn (id : NodeId) : Evaluate Unit := do
  match ← node id with
  | .text _ _ => return
  | .list items =>
    items.forM fun item => discard (visit item)
    setCell id (.list items)
  | .map _ =>
    let size := (← get).nodes.size
    flatten (4 * (size + 1) * (size + 1)) id
    setCell id (.record (← record (← fieldsOf id)))

/-- Adds all parts. Every list and map waits once, so the number of nodes bounds the rounds. -/
def complete : (fuel : Nat) → Evaluate Unit
  | 0 => return
  | fuel + 1 => do
    match (← get).waiting with
    | [] => return
    | id :: waiting =>
      modify fun v => { v with waiting }
      fillIn id
      complete fuel

end Valuation

def Graph.memory (g : Graph) (root : NodeId) : Except DocumentFault Memory := do
  let start : Valuation := { nodes := g.nodes, cells := Array.replicate g.nodes.size none }
  let run : Evaluate Unit := do
    let _ ← Valuation.visit root
    Valuation.complete g.nodes.size
  let (_, v) ← run.run start
  return { cells := v.cells.map (·.getD default), root }

def read (s : String) : Except DocumentFault Memory := do
  let cs := plainBreaks s.toList
  let shown := legible cs
  let (root, g) ← Graph.ofChars shown
  if shown.length ≠ cs.length then throw .malformed
  g.memory root

end CombatPlan.Yaml
