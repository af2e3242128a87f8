import CombatPlan.Macro.Statement

/-!
# Performing macros

A macro is performed from the left to the right against one opponent. A condition on the opponent that fails
passes over everything up to its own end; a skill or an item is taken to be at hand. Behind an end the
macro goes on. Nothing is performed after `repeat` or `abort`.
-/

namespace CombatPlan

def Mark.fits (o : Opponent) : Mark → Bool
  | id n => o.monsterId == some n
  | name s => o.name == s

namespace Statement

/-- The statements that are performed. Inside a condition that failed, `passed` counts the ends still to come. -/
def perform (o : Opponent) : (passed : Nat) → List Statement → List Statement
  | _, [] => []
  | 0, ifMark m :: ss => if m.fits o then perform o 0 ss else perform o 1 ss
  | 0, ifHas _ _ :: ss => perform o 0 ss
  | 0, endIf :: ss => perform o 0 ss
  | 0, again :: _ => [again]
  | 0, abort :: _ => [abort]
  | 0, s :: ss => s :: perform o 0 ss
  | passed + 1, ifMark _ :: ss => perform o (passed + 2) ss
  | passed + 1, ifHas _ _ :: ss => perform o (passed + 2) ss
  | passed + 1, endIf :: ss => perform o passed ss
  | passed + 1, _ :: ss => perform o (passed + 1) ss

end Statement

/-- The statement that carries a step out, whatever conditions stand around it. -/
def Step.deed : Step → Statement
  | use tool name => .use tool name
  | attempt tool name => .use tool name
  | attack => .attack
  | runaway => .runaway
  | again => .again
  | abort => .abort

def performMacro? (o : Opponent) (macroText : String) : Option (List Statement) :=
  (Statement.split? macroText).map (Statement.perform o 0)

end CombatPlan
