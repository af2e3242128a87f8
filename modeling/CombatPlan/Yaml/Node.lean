import CombatPlan.Yaml.Token

/-!
# Nodes of a document

The nodes that the tokens of a document spell. A missing value, key or item is an empty plain text. Nodes refer to
each other by number: an alias is a second reference to the node that its anchor marks, which may be one around it.
Each reader takes the tokens of one node and gives its number. Its `fuel` bounds the nesting and the number of
tokens read.
-/

namespace CombatPlan.Yaml

abbrev NodeId := Nat

inductive Node where
  | text (plain : Bool) (s : String)
  | list (items : List NodeId)
  | map (fields : List (NodeId × NodeId))
  deriving DecidableEq, Repr

instance : Inhabited Node := ⟨.text true ""⟩

structure Graph where
  nodes : Array Node := #[]
  anchors : List (String × NodeId) := []

abbrev Compose := StateT Graph Lex

namespace Node

def malformed {α : Type} : Compose α :=
  throw .malformed

def start (anchor? : Option String) (node : Node) : Compose NodeId := do
  let g ← get
  let id := g.nodes.size
  let anchors := (anchor?.map fun name => (name, id)).toList ++ g.anchors
  set { g with nodes := g.nodes.push node, anchors }
  return id

def finish (id : NodeId) (node : Node) : Compose NodeId := do
  modify fun g => { g with nodes := g.nodes.setIfInBounds id node }
  return id

def whole (anchor? : Option String) (node : Node) : Compose NodeId := do
  finish (← start anchor? node) node

def empty (anchor? : Option String) : Compose NodeId :=
  whole anchor? (.text true "")

/-- Where a node stands: within brackets, in a block, or behind a key or its colon, where the dashes of a list
need no further indentation. -/
inductive Position where
  | flow
  | block
  | field
  deriving DecidableEq, Repr

inductive Opening where
  | text (plain : Bool) (s : String)
  | openList
  | openMap
  | bareList
  | blockList
  | blockMap
  deriving DecidableEq, Repr

/-- The node that starts with a token, if one can start there. -/
def opening? (pos : Position) : Token → Option Opening
  | .text plain s => some (.text plain s)
  | .openList => some .openList
  | .openMap => some .openMap
  | .dash => if pos = .field then some .bareList else none
  | .blockSequence => if pos = .flow then none else some .blockList
  | .blockMapping => if pos = .flow then none else some .blockMap
  | _ => none

/-- Skips the comma that every entry in brackets but the first needs in front of it. -/
def comma (first : Bool) : Compose Unit := do
  unless first do
    unless ← Lex.takeIf .comma do malformed

/-- The name in front of a node, if it is marked. -/
def anchor? : Compose (Option String) := do
  match ← Lex.peek with
  | .anchor name =>
    Lex.take
    return some name
  | _ => return none

mutual

/-- A node. A name marks one node only, and an alias stands behind the anchor of its name. -/
def read : (fuel : Nat) → Position → Compose NodeId
  | 0, _ => malformed
  | fuel + 1, pos => do
    match ← Lex.peek with
    | .reference name =>
      Lex.take
      match (← get).anchors.lookup name with
      | some id => return id
      | none => malformed
    | _ =>
      let name? ← anchor?
      let opening? := opening? pos (← Lex.peek)
      if opening? = none ∧ name? = none then malformed
      let anchors := (← get).anchors
      if name?.any fun name => (anchors.lookup name).isSome then malformed
      match opening? with
      | none => empty name?
      | some opening => content fuel name? opening

def content : (fuel : Nat) → Option String → Opening → Compose NodeId
  | 0, _, _ => malformed
  | fuel + 1, name?, opening => do
    if opening ≠ .bareList then Lex.take
    match opening with
    | .text plain s => whole name? (.text plain s)
    | .openList =>
      let id ← start name? (.list [])
      finish id (.list (← flowItems fuel true []))
    | .bareList =>
      let id ← start name? (.list [])
      finish id (.list (← bareItems fuel []))
    | .blockList =>
      let id ← start name? (.list [])
      finish id (.list (← blockItems fuel []))
    | .openMap =>
      let id ← start name? (.map [])
      finish id (.map (← flowFields fuel true []))
    | .blockMap =>
      let id ← start name? (.map [])
      finish id (.map (← blockFields fuel []))

/-- A node, or the empty node if it is left out in front of one of these tokens. -/
def optional : (fuel : Nat) → Position → (ends : List Token) → Compose NodeId
  | 0, _, _ => malformed
  | fuel + 1, pos, ends => do
    if ends.contains (← Lex.peek) then empty none else read fuel pos

def blockItems : (fuel : Nat) → (acc : List NodeId) → Compose (List NodeId)
  | 0, _ => malformed
  | fuel + 1, acc => do
    if ← Lex.takeIf .dash then
      let item ← optional fuel .block [.dash, .blockEnd]
      blockItems fuel (item :: acc)
    else if ← Lex.takeIf .blockEnd then return acc.reverse
    else malformed

/-- The items of a list that is indented no further than its key. -/
def bareItems : (fuel : Nat) → (acc : List NodeId) → Compose (List NodeId)
  | 0, _ => malformed
  | fuel + 1, acc => do
    if ← Lex.takeIf .dash then
      let item ← optional fuel .block [.dash, .key, .value, .blockEnd]
      bareItems fuel (item :: acc)
    else return acc.reverse

def blockFields : (fuel : Nat) → (acc : List (NodeId × NodeId)) → Compose (List (NodeId × NodeId))
  | 0, _ => malformed
  | fuel + 1, acc => do
    if ← Lex.takeIf .key then
      let k ← optional fuel .field [.key, .value, .blockEnd]
      let v ← fieldValue fuel .field [.key, .value, .blockEnd]
      blockFields fuel ((k, v) :: acc)
    else if ← Lex.takeIf .blockEnd then return acc.reverse
    else malformed

/-- What stands behind the colon of a key, if there is one. -/
def fieldValue : (fuel : Nat) → Position → (ends : List Token) → Compose NodeId
  | 0, _, _ => malformed
  | fuel + 1, pos, ends => do
    if ← Lex.takeIf .value then optional fuel pos ends else empty none

/-- The items of a list in brackets, up to the closing one. An item with a colon is a map of one field. -/
def flowItems : (fuel : Nat) → (first : Bool) → (acc : List NodeId) → Compose (List NodeId)
  | 0, _, _ => malformed
  | fuel + 1, first, acc => do
    if ← Lex.takeIf .closeList then return acc.reverse
    comma first
    if ← Lex.takeIf .key then
      let id ← start none (.map [])
      let k ← optional fuel .flow [.value, .comma, .closeList]
      let v ← fieldValue fuel .flow [.comma, .closeList]
      let item ← finish id (.map [(k, v)])
      flowItems fuel false (item :: acc)
    else if ← Lex.takeIf .closeList then return acc.reverse
    else
      let item ← read fuel .flow
      flowItems fuel false (item :: acc)

def flowFields : (fuel : Nat) → (first : Bool) → (acc : List (NodeId × NodeId)) →
    Compose (List (NodeId × NodeId))
  | 0, _, _ => malformed
  | fuel + 1, first, acc => do
    if ← Lex.takeIf .closeMap then return acc.reverse
    comma first
    if ← Lex.takeIf .key then
      let k ← optional fuel .flow [.value, .comma, .closeMap]
      let v ← fieldValue fuel .flow [.comma, .closeMap]
      flowFields fuel false ((k, v) :: acc)
    else if ← Lex.takeIf .closeMap then return acc.reverse
    else
      let k ← read fuel .flow
      let v ← empty none
      flowFields fuel false ((k, v) :: acc)

end

def skipEnds : (fuel : Nat) → Compose Unit
  | 0 => malformed
  | fuel + 1 => do
    if ← Lex.takeIf .documentEnd then skipEnds fuel

/-- The node of a document, up to the end of the text, which holds one document only. A document may be empty. -/
def document (fuel : Nat) : Compose NodeId := do
  let root ←
    if (← Lex.peek) == .textEnd then empty none
    else if ← Lex.takeIf .documentStart then
      optional fuel .block [.documentStart, .documentEnd, .textEnd]
    else read fuel .block
  skipEnds fuel
  if (← Lex.peek) == .textEnd then return root else malformed

end Node

/-- The nodes that a text spells and the outermost of them. A character makes no more than four tokens, and each
token is read within a few calls. -/
def Graph.ofChars (cs : List Char) : Except DocumentFault (NodeId × Graph) :=
  let run : Lex (NodeId × Graph) := (Node.document (16 * cs.length + 40)).run {}
  (run.run (.ofChars cs)).map (·.1)

end CombatPlan.Yaml
