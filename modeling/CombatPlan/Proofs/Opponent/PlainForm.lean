import CombatPlan.Opponent
import CombatPlan.Proofs.Schema.Ensures

/-!
# The plain form of opponents

A name is all that an opponent needs. What is read as an opponent is valid, and a valid opponent is read back from its
plain form.
-/

namespace CombatPlan

open Schema

namespace Opponent

theorem nameRule_text {name : String} (hne : name ≠ "") (hsafe : safeName name = true) :
    nameRule (.text name) = .valid name := by
  simp [nameRule, Rule.filledText, Rule.text, Checked.andThen, hne, hsafe]

theorem ensures_nameRule : nameRule.Ensures fun name => name ≠ "" ∧ safeName name = true := by
  intro d name h
  obtain ⟨s, hs, h⟩ := Checked.andThen_eq_valid.mp h
  by_cases hsafe : safeName s = true
  · rw [if_pos hsafe] at h
    cases h
    exact ⟨Rule.ensures_filledText d _ hs, hsafe⟩
  · rw [if_neg hsafe] at h
    cases h

theorem rule_of_name {fields : List (Scalar × Datum)} {name : String}
    (hfind : Datum.find? (.text "name") fields = some (.text name)) (hne : name ≠ "") (hsafe : safeName name = true) :
    rule (.record fields) = .valid (Opponent.mk name)
      <*> optional "monster_id" none (Rule.nullable Rule.natural) fields
      <*> optional "defense" 0 (Rule.bounded [.atLeast 0]) fields
      <*> optional "physical_resistance" 0 (Rule.bounded [.atMost 100, .atLeast 0]) fields := by
  unfold rule Rule.model required
  simp only [hfind, nameRule_text hne hsafe]
  rfl

theorem rule_name {name : String} (hne : name ≠ "") (hsafe : '"' ∉ name.toList ∧ ';' ∉ name.toList) :
    rule (.record [(.text "name", .text name)]) = .valid { name } :=
  rule_of_name rfl hne (safeName_iff.mpr hsafe)

theorem rule_plain_of_valid {o : Opponent} (h : o.Valid) : rule o.plain = .valid o := by
  obtain ⟨name, monsterId, defense, resistance⟩ := o
  have hdefense : Rule.bounded [.atLeast 0] (.float defense) = .valid defense :=
    Rule.bounded_float (List.forall_mem_singleton.mpr h.defense_nonneg)
  have hresistance : Rule.bounded [.atMost 100, .atLeast 0] (.float resistance) = .valid resistance :=
    Rule.bounded_float (List.forall_mem_cons.mpr ⟨h.resistance_le, List.forall_mem_singleton.mpr h.resistance_nonneg⟩)
  refine (rule_of_name rfl h.name_ne h.name_safe).trans ?_
  rw [optional_of_find? "monster_id" rfl, optional_of_find? "defense" rfl, hdefense,
    optional_of_find? "physical_resistance" rfl, hresistance]
  cases monsterId <;> rfl

theorem ensures_rule : rule.Ensures Valid := by
  refine Rule.ensures_model fun fields o h => ?_
  obtain ⟨_, resistance, h₃, hresistance, rfl⟩ := Checked.seq_eq_valid.mp h
  obtain ⟨_, defense, h₂, hdefense, rfl⟩ := Checked.seq_eq_valid.mp h₃
  obtain ⟨_, monsterId, h₁, -, rfl⟩ := Checked.seq_eq_valid.mp h₂
  obtain ⟨name, hname, rfl⟩ := Checked.map_eq_valid.mp h₁
  have hname := required_ensures ensures_nameRule hname
  have hdefense : ∀ b ∈ [Bound.atLeast 0], Rule.keeps defense b = true :=
    optional_ensures (Rule.ensures_bounded _) (by decide) hdefense
  have hresistance : ∀ b ∈ [Bound.atMost 100, .atLeast 0], Rule.keeps resistance b = true :=
    optional_ensures (Rule.ensures_bounded _) (by decide) hresistance
  exact {
    name_ne := hname.1
    name_safe := hname.2
    defense_nonneg := hdefense _ (by simp)
    resistance_nonneg := hresistance _ (by simp)
    resistance_le := hresistance _ (by simp) }

end Opponent

end CombatPlan
