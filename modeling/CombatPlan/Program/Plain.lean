import CombatPlan.Program.Basic

/-!
# Plain form of programs

A program is a record with a list of nodes. A node is read both as a step and as a branch: it is a branch if
it can be read as one, else a step; if it can be read as neither, the faults of both readings are
reported.
-/

namespace CombatPlan

open Schema

inductive Node where
  | step (s : Step)
  | branch (target : Opponent) (body : Program)

def Node.cons : Node → Program → Program
  | step s, p => .step s p
  | branch t body, p => .branch t body p

def Node.choose (s : Checked Step) (b : Checked (Opponent × Program)) : Checked Node :=
  match b, s with
  | .valid (t, body), _ => .valid (.branch t body)
  | .faulty _, .valid s => .valid (.step s)
  | .faulty fs, .faulty gs =>
    .faulty (gs.map (·.under (.field "Step")) ++ fs.map (·.under (.field "Branch")))

namespace Program

mutual

def rule : Datum → Checked Program
  | .record fields => nodesField fields
  | .list _ => .fail (.notRecord "Program")
  | .scalar _ => .fail (.notRecord "Program")

def nodesField : List (Scalar × Datum) → Checked Program
  | [] => .valid done
  | (k, d) :: fields =>
    if k == .text "nodes" then (nodes d).under (.field "nodes") else nodesField fields

def nodes : Datum → Checked Program
  | .list ds => nodeList 0 ds
  | .record _ => .fail .notTuple
  | .scalar _ => .fail .notTuple

def nodeList (i : Nat) : List Datum → Checked Program
  | [] => .valid done
  | d :: ds => Node.cons <$> (node d).under (.item i) <*> nodeList (i + 1) ds

def node : Datum → Checked Node
  | .record fields =>
    Node.choose (Step.rule (.record fields))
      (Prod.mk <$> required "target" Opponent.rule fields <*> (body fields).under (.field "body"))
  | .list ds => Node.choose (Step.rule (.list ds)) (.fail (.notRecord "Branch"))
  | .scalar s => Node.choose (Step.rule (.scalar s)) (.fail (.notRecord "Branch"))

def body : List (Scalar × Datum) → Checked Program
  | [] => .fail .missing
  | (k, d) :: fields => if k == .text "body" then rule d else body fields

end

def branchRule : Rule (Opponent × Program) :=
  Rule.model "Branch" fun fields =>
    Prod.mk <$> required "target" Opponent.rule fields <*> (body fields).under (.field "body")

def plainNodes : Program → List Datum
  | done => []
  | step s rest => s.plain :: rest.plainNodes
  | branch t b rest =>
    .record [(.text "target", t.plain), (.text "body", .record [(.text "nodes", .list b.plainNodes)])]
      :: rest.plainNodes

def plain (p : Program) : Datum :=
  .record [(.text "nodes", .list p.plainNodes)]

/-! ## Building programs

Each building step checks what it adds, so a program that was built is valid as a whole. -/

end Program

/-- What can be added to a program: another program, or plain data for one node. -/
inductive Part where
  | program (p : Program)
  | data (d : Datum)

namespace Part

/-- What a part is where a whole program is wanted, not a node. -/
def toProgram : Part → Checked Program
  | program p => .valid p
  | data d => Program.rule d

/-- A body that may be missing; nothing is no program. -/
def ofBody : Option Program → Part
  | some p => program p
  | none => data .null

end Part

namespace Program

def ofParts (i : Nat) : List Part → Checked Program
  | [] => .valid done
  | .program p :: parts => (p ++ ·) <$> ofParts (i + p.length) parts
  | .data d :: parts => Node.cons <$> (node d).under (.item i) <*> ofParts (i + 1) parts

def extend (p : Program) (parts : List Part) : Except Report Program :=
  ((p ++ ·) <$> (ofParts p.length parts).under (.field "nodes")).report "Program"

/-- A branch on what is given as its target, with what is given as its body. -/
def branchOf (target : Subject) (body : Part) : Except Report (Opponent × Program) :=
  (Prod.mk <$> target.toOpponent.under (.field "target")
    <*> body.toProgram.under (.field "body")).report "Branch"

def addBranchOf (p : Program) (target : Subject) (body : Part) : Except Report Program :=
  (branchOf target body).map fun b => p ++ ofBranch b.1 b.2

def prependOf (p : Program) (target : Subject) (body : Part) : Except Report Program :=
  (branchOf target body).map fun b => branch b.1 b.2 p

def addBranch (p : Program) (target : Subject) (body : Option Program) : Except Report Program :=
  p.addBranchOf target (.ofBody body)

def prepend (p : Program) (target : Subject) (body : Option Program) : Except Report Program :=
  p.prependOf target (.ofBody body)

def addStep (p : Program) (kind : Step.Kind) (name : Datum) : Except Report Program :=
  (Step.make kind name).map fun s => p ++ ofStep s

end Program
end CombatPlan
