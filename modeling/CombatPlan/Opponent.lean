import CombatPlan.Schema.Rule

/-!
# Opponents

An opponent as the catalog describes it. Opponents compare by value, field by field, so that the two zeros
count as equal. A name holds no quote and no semicolon, since either would end the condition that it
stands in.
-/

namespace CombatPlan

structure Opponent where
  name : String
  monsterId : Option Nat := none
  defense : Float := 0
  /-- Resistance to physical damage, in percent. -/
  resistance : Float := 0

namespace Opponent

def same (a b : Opponent) : Bool :=
  a.name == b.name && a.monsterId == b.monsterId && a.defense == b.defense
    && a.resistance == b.resistance

instance : BEq Opponent := ⟨same⟩

theorem beq_iff {a b : Opponent} : (a == b) = true ↔
    a.name = b.name ∧ a.monsterId = b.monsterId ∧ (a.defense == b.defense) = true ∧
      (a.resistance == b.resistance) = true := by
  show (a.name == b.name && a.monsterId == b.monsterId && a.defense == b.defense
    && a.resistance == b.resistance) = true ↔ _
  simp only [Bool.and_eq_true, beq_iff_eq, and_assoc]

def safeName (s : String) : Bool :=
  !s.contains '"' && !s.contains ';'

theorem safeName_iff {s : String} : safeName s = true ↔ '"' ∉ s.toList ∧ ';' ∉ s.toList := by
  simp only [safeName, String.contains_char_eq, Bool.and_eq_true, Bool.not_eq_true', decide_eq_false_iff_not]

/-- What the catalog promises of an opponent. -/
structure Valid (o : Opponent) : Prop where
  name_ne : o.name ≠ ""
  name_safe : safeName o.name = true
  defense_nonneg : Schema.Rule.keeps o.defense (.atLeast 0) = true
  resistance_nonneg : Schema.Rule.keeps o.resistance (.atLeast 0) = true
  resistance_le : Schema.Rule.keeps o.resistance (.atMost 100) = true

/-- An opponent of which no more than a name and a number are known. -/
theorem valid_harmless {name : String} {monsterId : Option Nat} (hne : name ≠ "")
    (hsafe : '"' ∉ name.toList ∧ ';' ∉ name.toList) : Valid { name, monsterId } := by
  have hleast : Schema.Rule.keeps 0 (.atLeast 0) = true := by decide
  have hmost : Schema.Rule.keeps 0 (.atMost 100) = true := by decide
  exact ⟨hne, safeName_iff.mpr hsafe, hleast, hleast, hmost⟩

/-! ## Plain form -/

open Schema

def nameRule : Rule String := fun d =>
  (Rule.filledText d).andThen fun s =>
    if safeName s then .valid s
    else .fail (.refused "opponent name cannot contain quotes or semicolons")

def rule : Rule Opponent :=
  Rule.model "Opponent" fun fields =>
    Opponent.mk
      <$> required "name" nameRule fields
      <*> optional "monster_id" none (Rule.nullable Rule.natural) fields
      <*> optional "defense" 0 (Rule.bounded [.atLeast 0]) fields
      <*> optional "physical_resistance" 0 (Rule.bounded [.atMost 100, .atLeast 0]) fields

def plain (o : Opponent) : Datum :=
  .record [
    (.text "name", .text o.name),
    (.text "monster_id", match o.monsterId with | some n => .int n | none => .null),
    (.text "defense", .float o.defense),
    (.text "physical_resistance", .float o.resistance)]

end Opponent
end CombatPlan
