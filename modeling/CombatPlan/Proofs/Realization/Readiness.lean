import CombatPlan.Realization

/-!
# Which orders can be realized

Of valid tactics only the openers can keep a kill from being realized, by an opener without a name
(`killProgram_of_valid`). Nothing but a kill needs them.
-/

namespace CombatPlan

open Schema

theorem mapM_eq_ok_map {α β ε : Type} {f : α → Except ε β} {g : α → β} : ∀ {as : List α},
    (∀ a ∈ as, f a = .ok (g a)) → as.mapM f = .ok (as.map g)
  | [], _ => rfl
  | a :: as, h => by
    obtain ⟨ha, has⟩ := List.forall_mem_cons.mp h
    rw [List.mapM_cons, ha, mapM_eq_ok_map has]
    rfl

def Step.namelessSkill : Report :=
  ⟨"Step", [⟨[], .refused "skill step requires a name"⟩]⟩

theorem Step.mapM_make_skill (names : List String) :
    (names.mapM fun name => make (.use .skill) (.text name)) =
      if "" ∈ names then .error namelessSkill else .ok (names.map (.use .skill)) := by
  by_cases h : "" ∈ names
  · rw [if_pos h]
    induction names with
    | nil => cases h
    | cons name names ih =>
      rw [List.mapM_cons]
      by_cases hname : name = ""
      · subst hname; rfl
      · have hrest : "" ∈ names := (List.mem_cons.mp h).resolve_left (Ne.symm hname)
        rw [make_use_text _ hname, ih hrest]
        rfl
  · rw [if_neg h]
    exact mapM_eq_ok_map fun name hname => make_use_text _ fun hempty => h (hempty ▸ hname)

namespace Tactics

variable {t : Tactics}

def openingSteps (t : Tactics) : List Step :=
  t.openers.map (.use .skill) ++ t.debuffs.map fun d => .attempt d.tool d.name

theorem opening_of_valid (ht : t.Valid) :
    t.opening = if "" ∈ t.openers then .error Step.namelessSkill else .ok t.openingSteps := by
  have hdebuffs : (t.debuffs.mapM fun d => Step.make (.attempt d.tool) (.text d.name)) =
      .ok (t.debuffs.map fun d => .attempt d.tool d.name) :=
    mapM_eq_ok_map fun d hd => Step.make_attempt_text _ (ht.debuffs_named d hd)
  unfold opening
  rw [Step.mapM_make_skill, hdebuffs]
  split <;> rfl

theorem killProgram_of_valid (ht : t.Valid) (s : Step) :
    t.killProgram (.ok s) =
      if "" ∈ t.openers then .error Step.namelessSkill else .ok (.ofSteps (t.openingSteps ++ [s, .again])) := by
  unfold killProgram
  rw [opening_of_valid ht]
  split <;> rfl

end Tactics

def Subject.of : Option Opponent → Subject
  | some o => .opponent o
  | none => .nobody

theorem Subject.ask_of (o? : Option Opponent) (trait : String) (question : Opponent → Bool) :
    (Subject.of o?).ask trait question = pure (o?.any question) := by
  cases o? <;> rfl

theorem outcome_realizeIntent_kill (t : Tactics) (now : Situation) (overrides : Overrides) (o? : Option Opponent) :
    (realizeIntent t now overrides (.of o?) .kill).outcome =
      if o?.any (t.escalates now.offense) then (realizeKillHard t now (.of o?)).outcome
      else (realizeKill t (.of o?)).outcome := by
  unfold realizeIntent
  rw [Subject.ask_of]
  cases o? with
  | none => rfl
  | some o => cases h : (some o).any (t.escalates now.offense) <;> rfl

section
variable {t : Tactics} (ht : t.Valid) (now : Situation) (overrides : Overrides) (o? : Option Opponent)
include ht

theorem realizeKill_of_valid :
    realizeKill t (.of o?) =
      Run.ofCheck (t.killProgram (.ok (if o?.any t.resists then .use .skill t.areaSkill else .attack))) := by
  unfold realizeKill
  rw [Subject.ask_of, Tactics.areaFinisher, Step.make_use_text _ ht.area_ne]
  cases o?.any t.resists <;> rfl

theorem realizeKillHard_of_valid :
    realizeKillHard t now (.of o?) =
      Run.ofCheck (t.killProgram (.ok (.use .skill
        (if o?.any t.resists || now.weapon != .muscle then t.areaSkill else t.meleeSkill)))) := by
  unfold realizeKillHard
  rw [Subject.ask_of, Tactics.areaFinisher, Tactics.meleeFinisher, Step.make_use_text _ ht.area_ne,
    Step.make_use_text _ ht.melee_ne]
  cases o?.any t.resists <;> cases now.weapon != .muscle <;> rfl

theorem realizeKillHard_nameless (h : "" ∈ t.openers) :
    (realizeKillHard t now (.of o?)).outcome = .error (.invalid Step.namelessSkill) := by
  rw [realizeKillHard_of_valid ht, Tactics.killProgram_of_valid ht, if_pos h]
  rfl

section
variable (h : "" ∉ t.openers)
include h

theorem realizeKill_ok : ∃ p, (realizeKill t (.of o?)).outcome = .ok p := by
  rw [realizeKill_of_valid ht, Tactics.killProgram_of_valid ht, if_neg h]
  exact ⟨_, rfl⟩

theorem realizeKillHard_ok : ∃ p, (realizeKillHard t now (.of o?)).outcome = .ok p := by
  rw [realizeKillHard_of_valid ht, Tactics.killProgram_of_valid ht, if_neg h]
  exact ⟨_, rfl⟩

theorem realizeIntent_ok (i : Intent) : ∃ p, (realizeIntent t now overrides (.of o?) i).outcome = .ok p := by
  cases i with
  | runAway =>
    unfold realizeIntent
    cases overrides.runaway with
    | some p => exact ⟨p, rfl⟩
    | none =>
      show ∃ p, (Run.ofCheck t.fleeProgram).outcome = .ok p
      rw [Tactics.fleeProgram, Step.make_use_text _ ht.flee_ne]
      exact ⟨_, rfl⟩
  | kill =>
    rw [outcome_realizeIntent_kill]
    split
    · exact realizeKillHard_ok ht now o? h
    · exact realizeKill_ok ht o? h
  | killHard => exact realizeKillHard_ok ht now o? h
  | banish =>
    unfold realizeIntent
    cases overrides.banish with
    | some p => exact ⟨p, rfl⟩
    | none => cases o? <;> exact ⟨_, rfl⟩
  | abort => exact ⟨_, rfl⟩

theorem realize_ok {order : Order} (horder : ∀ d, order ≠ .data d) :
    ∃ p, (realize t now overrides (.of o?) order).outcome = .ok p := by
  cases order with
  | intent i => exact realizeIntent_ok ht now overrides o? h i
  | program p => exact ⟨p, rfl⟩
  | data d => exact absurd rfl (horder d)

end
end
end CombatPlan
