import CombatPlan.Opponent

/-!
# Subjects

Whom a call is about: an opponent from the catalog, or whatever plain data a caller hands over in its
place. The null stands for nobody in particular, the default opponent.
-/

namespace CombatPlan

inductive Subject where
  | opponent (o : Opponent)
  | data (d : Datum)

namespace Subject

def nobody : Subject := .data .null

def opponent? : Subject → Option Opponent
  | opponent o => some o
  | data _ => none

/-- Lists and records cannot be looked up by. -/
def isKey : Subject → Bool
  | opponent _ => true
  | data (.scalar _) => true
  | data _ => false

def same : Subject → Subject → Bool
  | opponent a, opponent b => a == b
  | data a, data b => a == b
  | _, _ => false

instance : BEq Subject := ⟨same⟩

def toOpponent : Subject → Schema.Checked Opponent
  | opponent o => .valid o
  | data d => Opponent.rule d

end Subject
end CombatPlan
