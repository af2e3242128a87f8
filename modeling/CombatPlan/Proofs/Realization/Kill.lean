import CombatPlan.Proofs.Program.Straight
import CombatPlan.Proofs.Realization.Readiness
import CombatPlan.Proofs.Settings.Acceptance

/-!
# Kills

A kill and a hard kill are straight lines that differ in their finishers alone (`outcome_realize_kill`,
`outcome_realize_killHard`). Resistance decides before escalation does, and both before the weapon.
-/

namespace CombatPlan

namespace Tactics

def Resisted (t : Tactics) (o? : Option Opponent) : Prop :=
  ∃ o ∈ o?, t.resistanceThreshold ≤ o.resistance

def Outdone (t : Tactics) (offense : Float) (o? : Option Opponent) : Prop :=
  ∃ o ∈ o?, offense < o.defense * t.escalationFactor

theorem any_resists_iff (t : Tactics) (o? : Option Opponent) : o?.any t.resists = true ↔ t.Resisted o? := by
  cases o? <;> simp [Resisted, resists]

theorem any_escalates_iff (t : Tactics) (offense : Float) (o? : Option Opponent) :
    o?.any (t.escalates offense) = true ↔ t.Outdone offense o? := by
  cases o? <;> simp [Outdone, escalates]

instance (t : Tactics) (o? : Option Opponent) : Decidable (t.Resisted o?) :=
  decidable_of_iff _ (t.any_resists_iff o?)

instance (t : Tactics) (offense : Float) (o? : Option Opponent) : Decidable (t.Outdone offense o?) :=
  decidable_of_iff _ (t.any_escalates_iff offense o?)

def hardFinisher (t : Tactics) (now : Situation) (o? : Option Opponent) : Step :=
  .use .skill (if t.Resisted o? ∨ now.weapon ≠ .muscle then t.areaSkill else t.meleeSkill)

def killFinisher (t : Tactics) (now : Situation) (o? : Option Opponent) : Step :=
  if t.Resisted o? then .use .skill t.areaSkill
  else if t.Outdone now.offense o? then t.hardFinisher now o?
  else .attack

def killSteps (t : Tactics) (finisher : Step) : List Step :=
  t.openers.map (.use .skill) ++ t.debuffs.map (fun d => .attempt d.tool d.name) ++ [finisher, .again]

theorem killFinisher_of_outdone {t : Tactics} {now : Situation} {o? : Option Opponent} (h : t.Outdone now.offense o?) :
    t.killFinisher now o? = t.hardFinisher now o? := by
  unfold killFinisher hardFinisher
  by_cases hr : t.Resisted o?
  · simp [hr]
  · simp [hr, h]

theorem isTerminal_killFinisher (t : Tactics) (now : Situation) (o? : Option Opponent) :
    (t.killFinisher now o?).isTerminal = false := by
  unfold killFinisher
  split
  · rfl
  · split <;> rfl

theorem killFinisher_eq_attack_iff (t : Tactics) (now : Situation) (o? : Option Opponent) :
    t.killFinisher now o? = .attack ↔ ¬t.Resisted o? ∧ ¬t.Outdone now.offense o? := by
  unfold killFinisher hardFinisher
  by_cases hr : t.Resisted o?
  · simp [hr]
  · by_cases hd : t.Outdone now.offense o?
    · simp [hr, hd]
    · simp [hr, hd]

theorem mem_openingSteps {t : Tactics} {s : Step} (h : s ∈ t.openingSteps) : s.isTerminal = false ∧ s ≠ .attack := by
  rcases List.mem_append.mp h with h | h
  · obtain ⟨name, -, rfl⟩ := List.mem_map.mp h
    exact ⟨rfl, nofun⟩
  · obtain ⟨d, -, rfl⟩ := List.mem_map.mp h
    exact ⟨rfl, nofun⟩

theorem straight_killSteps (t : Tactics) {finisher : Step} (h : finisher.isTerminal = false) :
    Straight (t.killSteps finisher) := by
  intro s hs
  have hsplit : t.killSteps finisher = t.openingSteps ++ [finisher] ++ [.again] := by simp [killSteps, openingSteps]
  rw [hsplit, List.dropLast_concat] at hs
  rcases List.mem_append.mp hs with hs | hs
  · exact (mem_openingSteps hs).1
  · rw [List.mem_singleton.mp hs]
    exact h

theorem attack_mem_killSteps_iff (t : Tactics) (finisher : Step) :
    .attack ∈ t.killSteps finisher ↔ finisher = .attack := by
  have hopening : .attack ∉ t.openingSteps := fun h => (mem_openingSteps h).2 rfl
  show .attack ∈ t.openingSteps ++ [finisher, .again] ↔ _
  simp [hopening, eq_comm]

end Tactics

section
variable {t : Tactics} (ht : t.Valid) (h : "" ∉ t.openers) (now : Situation) (overrides : Overrides)
  (o? : Option Opponent)
include ht h

theorem outcome_realize_killHard :
    (realize t now overrides (.of o?) (.intent .killHard)).outcome =
      .ok (.ofSteps (t.killSteps (t.hardFinisher now o?))) := by
  have harea : (o?.any t.resists || now.weapon != .muscle) = true ↔ t.Resisted o? ∨ now.weapon ≠ .muscle := by
    simp [t.any_resists_iff]
  show (realizeKillHard t now (.of o?)).outcome = _
  rw [realizeKillHard_of_valid ht, Tactics.killProgram_of_valid ht, if_neg h]
  simp only [harea]
  rfl

theorem outcome_realize_kill :
    (realize t now overrides (.of o?) (.intent .kill)).outcome =
      .ok (.ofSteps (t.killSteps (t.killFinisher now o?))) := by
  show (realizeIntent t now overrides (.of o?) .kill).outcome = _
  rw [outcome_realizeIntent_kill]
  simp only [t.any_escalates_iff]
  by_cases hd : t.Outdone now.offense o?
  · rw [if_pos hd, Tactics.killFinisher_of_outdone hd]
    exact outcome_realize_killHard ht h now overrides o?
  · rw [if_neg hd, realizeKill_of_valid ht, Tactics.killProgram_of_valid ht, if_neg h]
    simp only [t.any_resists_iff, Tactics.killFinisher, hd, if_false]
    rfl

end

/-- **Kills.** A hard kill and a kill are the openers, the debuff attempts, a finisher, and all over again. An escalated
kill is a hard kill. -/
theorem realize_kill_killHard (t : Tactics) (ht : t.Valid) (h : "" ∉ t.openers) (now : Situation)
    (overrides : Overrides) (o? : Option Opponent) :
    (realize t now overrides (.of o?) (.intent .killHard)).outcome =
      .ok (.ofSteps (t.killSteps (t.hardFinisher now o?))) ∧
    (realize t now overrides (.of o?) (.intent .kill)).outcome =
      .ok (.ofSteps (t.killSteps (t.killFinisher now o?))) ∧
    (t.Outdone now.offense o? → (realize t now overrides (.of o?) (.intent .kill)).outcome =
      (realize t now overrides (.of o?) (.intent .killHard)).outcome) ∧
    ∀ (i : Intent) (p : Program), i = .kill ∨ i = .killHard →
      (realize t now overrides (.of o?) (.intent i)).outcome = .ok p →
        p.branches = [] ∧ (∀ x? : Option Opponent, p.select x? = p.walk) ∧
        (.attack ∈ p.walk ↔ i = .kill ∧ ¬t.Resisted o? ∧ ¬t.Outdone now.offense o?) := by
  have hhard := outcome_realize_killHard ht h now overrides o?
  have hkill := outcome_realize_kill ht h now overrides o?
  -- either program is told by its finisher
  have hsteps : ∀ finisher : Step, finisher.isTerminal = false →
      let p := Program.ofSteps (t.killSteps finisher)
      p.branches = [] ∧ (∀ x?, p.select x? = p.walk) ∧ (.attack ∈ p.walk ↔ finisher = .attack) := by
    intro finisher hfinisher p
    have hwalk : p.walk = t.killSteps finisher := Program.walk_ofSteps _
    refine ⟨Program.branches_ofSteps _, ?_, ?_⟩
    · intro x?
      rw [hwalk]
      exact (Program.select_ofSteps_iff x?).mpr (t.straight_killSteps hfinisher)
    · rw [hwalk]
      exact t.attack_mem_killSteps_iff finisher
  refine ⟨hhard, hkill, ?_, ?_⟩
  · intro hd
    rw [hkill, hhard, Tactics.killFinisher_of_outdone hd]
  · rintro i p (rfl | rfl) hp
    · rw [hkill] at hp
      cases hp
      obtain ⟨hbranches, hselect, hattack⟩ := hsteps _ (t.isTerminal_killFinisher now o?)
      refine ⟨hbranches, hselect, hattack.trans ?_⟩
      simp [t.killFinisher_eq_attack_iff]
    · rw [hhard] at hp
      cases hp
      obtain ⟨hbranches, hselect, hattack⟩ := hsteps (t.hardFinisher now o?) rfl
      refine ⟨hbranches, hselect, hattack.trans ?_⟩
      simp [Tactics.hardFinisher]

theorem realize_kill_killHard_golem :
    let t : Tactics := { openers := ["Curse", "Hex"], debuffs := [⟨.item, "net"⟩, ⟨.skill, "Trip"⟩] }
    let now : Situation := { offense := 100, weapon := .mysticality }
    let golem : Opponent := { name := "golem", defense := 200, resistance := 70 }
    let drake : Opponent := { name := "drake", defense := 81 }
    let bat : Opponent := { name := "bat", defense := 80 }
    let opening : List Step := [.use .skill "Curse", .use .skill "Hex", .attempt .item "net", .attempt .skill "Trip"]
    let kill (o? : Option Opponent) := (realize t now {} (.of o?) (.intent .kill)).outcome
    t.Valid ∧ "" ∉ t.openers ∧
      kill (some golem) = .ok (.ofSteps (opening ++ [.use .skill "Saucegeyser", .again])) ∧
      t.Outdone now.offense (some drake) ∧
      kill (some drake) = (realize t now {} (.of (some drake)) (.intent .killHard)).outcome ∧
      kill (some bat) = .ok (.ofSteps (opening ++ [.attack, .again])) ∧
      kill none = .ok (.ofSteps (opening ++ [.attack, .again])) := by
  intro t now golem drake bat opening kill
  have std := Tactics.valid_default
  have ht : t.Valid := {
    factor_pos := std.factor_pos
    threshold_nonneg := std.threshold_nonneg
    threshold_le := std.threshold_le
    debuffs_named := by decide
    area_ne := std.area_ne
    melee_ne := std.melee_ne
    flee_ne := std.flee_ne }
  have h : "" ∉ t.openers := by decide
  have hgolem : t.killFinisher now (some golem) = .use .skill "Saucegeyser" := by decide
  have hdrake : t.Outdone now.offense (some drake) := by decide
  have hbat : t.killFinisher now (some bat) = .attack := by decide
  have hnobody : t.killFinisher now none = .attack := by decide
  obtain ⟨-, hkill, -, -⟩ := realize_kill_killHard t ht h now {} (some golem)
  obtain ⟨-, -, hescalated, -⟩ := realize_kill_killHard t ht h now {} (some drake)
  obtain ⟨-, hkill', -, -⟩ := realize_kill_killHard t ht h now {} (some bat)
  obtain ⟨-, hkill'', -, -⟩ := realize_kill_killHard t ht h now {} none
  rw [hgolem] at hkill
  rw [hbat] at hkill'
  rw [hnobody] at hkill''
  exact ⟨ht, h, hkill, hdrake, hescalated hdrake, hkill', hkill''⟩

end CombatPlan
