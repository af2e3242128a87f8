import CombatPlan.Journal
import CombatPlan.Settings
import CombatPlan.Situation

/-!
# Realizing intents

An order becomes a concrete program. A kill opens with the openers and the debuff attempts, then repeats
its finisher: the area skill against an opponent that resists physical damage, else an attack. A hard
kill finishes with the melee skill, or with the area skill if the opponent resists or the weapon is not
of muscle. A kill becomes a hard kill when the scaled defense exceeds the offense.
-/

namespace CombatPlan

open Schema

namespace Tactics

def opening (t : Tactics) : Except Report (List Step) := do
  let openers ← t.openers.mapM fun name => Step.make (.use .skill) (.text name)
  let debuffs ← t.debuffs.mapM fun d => Step.make (.attempt d.tool) (.text d.name)
  return openers ++ debuffs

def killProgram (t : Tactics) (finisher : Except Report Step) : Except Report Program := do
  let opening ← t.opening
  let finisher ← finisher
  return .ofSteps (opening ++ [finisher, .again])

def areaFinisher (t : Tactics) : Except Report Step :=
  Step.make (.use .skill) (.text t.areaSkill)

def meleeFinisher (t : Tactics) : Except Report Step :=
  Step.make (.use .skill) (.text t.meleeSkill)

def fleeProgram (t : Tactics) : Except Report Program := do
  let buff ← Step.make (.use .skill) (.text t.fleeSkill)
  return .ofSteps [.runaway, buff, .attack, .again]

/-- Whether an opponent defends too well for a plain kill. -/
def escalates (t : Tactics) (offense : Float) (o : Opponent) : Bool :=
  offense < o.defense * t.escalationFactor

def resists (t : Tactics) (o : Opponent) : Bool :=
  t.resistanceThreshold ≤ o.resistance

end Tactics

/-- Asks something of an opponent; nobody in particular answers no, and plain data cannot answer. -/
def Subject.ask (s : Subject) (trait : String) (question : Opponent → Bool) : Run Bool :=
  match s with
  | .opponent o => pure (question o)
  | .data .null => pure false
  | .data d => .fail (.lacks d.typeName trait)

def Subject.name? : Subject → Run (Option String)
  | .opponent o => pure (some o.name)
  | .data .null => pure none
  | .data d => .fail (.lacks d.typeName "name")

section

variable (t : Tactics) (now : Situation) (overrides : Overrides)

def realizeKill (s : Subject) : Run Program := do
  let finisher := if (← s.ask "physical_resistance" t.resists) then t.areaFinisher else .ok .attack
  Run.ofCheck (t.killProgram finisher)

def realizeKillHard (s : Subject) : Run Program := do
  let resists ← s.ask "physical_resistance" t.resists
  let area := resists || now.weapon != .muscle
  Run.ofCheck (t.killProgram (if area then t.areaFinisher else t.meleeFinisher))

def noteEscalation : Subject → Run Unit
  | .opponent o => .write (.escalated o.name o.defense t.escalationFactor now.offense)
  | .data _ => pure ()

def realizeIntent (s : Subject) : Intent → Run Program
  | .runAway =>
    match overrides.runaway with
    | some p => pure p
    | none => Run.ofCheck t.fleeProgram
  | .kill => do
    if (← s.ask "defense" (t.escalates now.offense)) then
      noteEscalation t now s
      realizeKillHard t now s
    else realizeKill t s
  | .killHard => realizeKillHard t now s
  | .banish =>
    match overrides.banish with
    | some p => pure p
    | none => do
      Run.write (.noBanish (← s.name?))
      return .ofStep .abort
  | .abort => pure (.ofStep .abort)

/-- The program for an order. A ready-made program is taken as it is. -/
def realize (s : Subject) : Order → Run Program
  | .program p => pure p
  | .intent i => realizeIntent t now overrides s i
  | .data d => .fail (.notAnOrder d.className)

end
end CombatPlan
