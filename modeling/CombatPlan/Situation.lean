import CombatPlan.Intent
import CombatPlan.Resource

/-!
# Situations

The live state that is consulted when intents are compiled. What it offers to banish and to run with is
read once, when an encounter begins; offense and weapon are read whenever an intent is compiled.
-/

namespace CombatPlan

structure Situation where
  /-- The buffed value of the stat that the weapon scales with. -/
  offense : Float := 0
  weapon : Weapon := .muscle
  wanderers : List Wanderer := []
  banish : Option Banish := none
  runaway : Option Runaway := none

structure Situation.Valid (s : Situation) : Prop where
  wanderers : ∀ w ∈ s.wanderers, w.Valid
  banish : ∀ b ∈ s.banish, b.Valid
  runaway : ∀ r ∈ s.runaway, r.Valid

/-- The programs that stand in for banishing and for running away, where there are any. -/
structure Overrides where
  banish : Option Program := none
  runaway : Option Program := none

def Situation.overrides (s : Situation) : Overrides where
  banish := s.banish.map (·.program)
  runaway := s.runaway.map (·.program)

end CombatPlan
