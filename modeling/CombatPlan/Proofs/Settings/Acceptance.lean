import CombatPlan.Proofs.Schema.Ensures
import CombatPlan.Settings

/-!
# What accepted settings promise

Accepted tactics are valid; but their openers are plain texts, of which a rule ensures nothing.
-/

namespace CombatPlan

open Schema

theorem Debuff.ensures_rule : Debuff.rule.Ensures (·.name ≠ "") := by
  refine Rule.ensures_model fun fields d h => ?_
  obtain ⟨g, name, hg, hname, rfl⟩ := Checked.seq_eq_valid.mp h
  obtain ⟨tool, -, rfl⟩ := Checked.map_eq_valid.mp hg
  exact required_ensures Rule.ensures_filledText hname

theorem Tactics.valid_default : Tactics.Valid {} where
  factor_pos := by decide
  threshold_nonneg := by decide
  threshold_le := by decide
  debuffs_named := by decide
  area_ne := by decide
  melee_ne := by decide
  flee_ne := by decide

theorem Tactics.ensures_rule : Tactics.rule.Ensures Tactics.Valid := by
  refine Rule.ensures_model fun fields t h => ?_
  obtain ⟨_, flee, h₆, hflee, rfl⟩ := Checked.seq_eq_valid.mp h
  obtain ⟨_, melee, h₅, hmelee, rfl⟩ := Checked.seq_eq_valid.mp h₆
  obtain ⟨_, area, h₄, harea, rfl⟩ := Checked.seq_eq_valid.mp h₅
  obtain ⟨_, debuffs, h₃, hdebuffs, rfl⟩ := Checked.seq_eq_valid.mp h₄
  obtain ⟨_, openers, h₂, -, rfl⟩ := Checked.seq_eq_valid.mp h₃
  obtain ⟨_, threshold, h₁, hthreshold, rfl⟩ := Checked.seq_eq_valid.mp h₂
  obtain ⟨factor, hfactor, rfl⟩ := Checked.map_eq_valid.mp h₁
  have std := valid_default
  have hfactor : ∀ b ∈ [Bound.above 0], Rule.keeps factor b = true :=
    optional_ensures (Rule.ensures_bounded _) (List.forall_mem_singleton.mpr std.factor_pos) hfactor
  have hthreshold : ∀ b ∈ [Bound.atMost 100, .atLeast 0], Rule.keeps threshold b = true :=
    optional_ensures (Rule.ensures_bounded _)
      (List.forall_mem_cons.mpr ⟨std.threshold_le, List.forall_mem_singleton.mpr std.threshold_nonneg⟩) hthreshold
  exact {
    factor_pos := hfactor _ (by simp)
    threshold_nonneg := hthreshold _ (by simp)
    threshold_le := hthreshold _ (by simp)
    debuffs_named := optional_ensures (Rule.ensures_list Debuff.ensures_rule) std.debuffs_named hdebuffs
    area_ne := optional_ensures Rule.ensures_filledText std.area_ne harea
    melee_ne := optional_ensures Rule.ensures_filledText std.melee_ne hmelee
    flee_ne := optional_ensures Rule.ensures_filledText std.flee_ne hflee }

theorem LogSettings.valid_default : LogSettings.Valid {} where
  level_mem := by decide
  format_mem := by decide

theorem LogSettings.ensures_rule : LogSettings.rule.Ensures LogSettings.Valid := by
  refine Rule.ensures_model fun fields l h => ?_
  obtain ⟨_, format, h₁, hformat, rfl⟩ := Checked.seq_eq_valid.mp h
  obtain ⟨level, hlevel, rfl⟩ := Checked.map_eq_valid.mp h₁
  have std := valid_default
  exact {
    level_mem := optional_ensures (Rule.ensures_oneOf _) std.level_mem hlevel
    format_mem := optional_ensures (Rule.ensures_oneOf _) std.format_mem hformat }

theorem Settings.ensures_rule : Settings.rule.Ensures Settings.Valid := by
  refine Rule.ensures_model fun fields s h => ?_
  obtain ⟨_, log, h₁, hlog, rfl⟩ := Checked.seq_eq_valid.mp h
  obtain ⟨tactics, htactics, rfl⟩ := Checked.map_eq_valid.mp h₁
  exact {
    tactics := optional_ensures Tactics.ensures_rule Tactics.valid_default htactics
    log := optional_ensures LogSettings.ensures_rule LogSettings.valid_default hlog }

end CombatPlan
