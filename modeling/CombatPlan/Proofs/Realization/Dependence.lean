import CombatPlan.Proofs.Opponent.Equality

/-!
# What a realized order depends on

Of the situation, an order is realized by offense and weapon alone. Of an opponent, by what any equal opponent
has as well.
-/

namespace CombatPlan

section
variable (t : Tactics)

theorem Tactics.resists_congr {k o : Opponent} (h : (k == o) = true) : t.resists k = t.resists o := by
  obtain ⟨-, -, -, hr⟩ := Opponent.beq_iff.mp h
  exact decide_eq_decide.mpr (Number.le_iff_of_beq hr _)

theorem Tactics.escalates_congr (offense : Float) {k o : Opponent} (h : (k == o) = true) :
    t.escalates offense k = t.escalates offense o := by
  obtain ⟨-, -, hd, -⟩ := Opponent.beq_iff.mp h
  exact decide_eq_decide.mpr (Number.lt_mul_iff_of_beq hd _ _)

end

section
variable (t : Tactics) (now : Situation) (overrides : Overrides)

theorem realizeKill_congr {k o : Opponent} (h : (k == o) = true) :
    realizeKill t (.opponent k) = realizeKill t (.opponent o) := by
  unfold realizeKill Subject.ask
  simp only [t.resists_congr h]

theorem realizeKillHard_congr {k o : Opponent} (h : (k == o) = true) :
    realizeKillHard t now (.opponent k) = realizeKillHard t now (.opponent o) := by
  unfold realizeKillHard Subject.ask
  simp only [t.resists_congr h]

theorem realizeIntent_outcome_congr {k o : Opponent} (h : (k == o) = true) (i : Intent) :
    (realizeIntent t now overrides (.opponent k) i).outcome =
      (realizeIntent t now overrides (.opponent o) i).outcome := by
  cases i with
  | runAway => rfl
  | kill =>
    simp only [realizeIntent, Subject.ask, t.escalates_congr now.offense h, realizeKill_congr t h,
      realizeKillHard_congr t now h]
    cases t.escalates now.offense o <;> rfl
  | killHard => exact congrArg Run.outcome (realizeKillHard_congr t now h)
  | banish =>
    simp only [realizeIntent]
    cases overrides.banish <;> rfl
  | abort => rfl

theorem realize_outcome_congr {k o : Opponent} (h : (k == o) = true) (order : Order) :
    (realize t now overrides (.opponent k) order).outcome =
      (realize t now overrides (.opponent o) order).outcome := by
  cases order with
  | intent i => exact realizeIntent_outcome_congr t now overrides h i
  | program p => rfl
  | data d => rfl

theorem realize_eq_of_stats {now now' : Situation} (ho : now'.offense = now.offense)
    (hw : now'.weapon = now.weapon) (s : Subject) (order : Order) :
    realize t now' overrides s order = realize t now overrides s order := by
  have hhard : realizeKillHard t now' s = realizeKillHard t now s := by
    unfold realizeKillHard; rw [hw]
  have hnote : noteEscalation t now' s = noteEscalation t now s := by
    unfold noteEscalation; rw [ho]
  cases order with
  | intent i =>
    cases i with
    | kill => simp only [realize, realizeIntent, ho, hhard, hnote]
    | killHard => exact hhard
    | _ => rfl
  | program p => rfl
  | data d => rfl

end
end CombatPlan
