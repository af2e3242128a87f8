import CombatPlan.Playbook
import CombatPlan.Realization

/-!
# Encounters

A playbook is assembled into one program for an encounter. Its branches are asked in this order: wanderers,
which are always killed hard; opponents with a program of their own; opponents with an intent only.
The default program and the realized default order follow. An order given during the encounter gets a
branch in front of all of these.
-/

namespace CombatPlan

open Schema

/-- An encounter under way. How to banish and how to run are settled when it begins. -/
structure Encounter where
  tactics : Tactics
  overrides : Overrides
  program : Program

namespace Encounter

/-- One branch after another, each with a body that may have to be realized. -/
def addBranches {α : Type} (body : Subject → α → Run (Option Program)) :
    Register α → Program → Run Program
  | [], p => pure p
  | (s, a) :: r, p => do
    let b ← body s a
    let p ← Run.ofCheck (p.addBranch s b)
    addBranches body r p

def addWanderers (body : Program) (ws : List Wanderer) : Program :=
  ws.foldr (fun w p => .branch w.monster body p) .done

def openIntents (b : Playbook) : Register Order :=
  b.intents.filter fun e => !b.programs.has e.1

def start (t : Tactics) (b : Playbook) (now : Situation) : Run Encounter := do
  let overrides := now.overrides
  let forced ← realize t now overrides .nobody (.intent .killHard)
  let p := addWanderers forced now.wanderers
  let p ← addBranches (fun _ program => pure program) b.programs p
  let p ← addBranches (fun s order => some <$> realize t now overrides s order) (openIntents b) p
  let p := p ++ b.defaultProgram.getD .done
  let last ← realize t now overrides .nobody b.defaultOrder
  Run.write (.assembled now.wanderers.length b.programs.length (openIntents b).length b.boss)
  return ⟨t, overrides, p ++ last⟩

structure Command where
  now : Situation
  subject : Subject
  order : Order

def orderWords : Order → String
  | .intent i => i.word
  | _ => "custom program"

def notePrepended (order : Order) : Subject → Run Unit
  | .opponent o => .write (.prepended (orderWords order) o.name)
  | .data d => .fail (.lacks d.typeName "name")

def place (e : Encounter) (c : Command) : Run Program := do
  let body ← realize e.tactics c.now e.overrides c.subject c.order
  Run.ofCheck (e.program.prepend c.subject (some body))

/-- The encounter after a command. The branch is in place before it is written down. -/
def command (e : Encounter) (c : Command) : Encounter × Run Unit :=
  let placed := e.place c
  match placed.outcome with
  | .ok p => ({ e with program := p }, placed >>= fun _ => notePrepended c.order c.subject)
  | .error f => (e, ⟨placed.events, .error f⟩)

def commandAll (e : Encounter) : List Command → Encounter × List (Run Unit)
  | [] => (e, [])
  | c :: cs =>
    let (e, run) := e.command c
    let (e, runs) := e.commandAll cs
    (e, run :: runs)

def select (e : Encounter) (o? : Option Opponent) : List Step :=
  e.program.select o?

end Encounter
end CombatPlan
