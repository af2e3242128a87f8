import CombatPlan.Program.Plain

/-!
# Resources

What the live situation offers or demands: encounters that must be fought, a way to banish an opponent,
and a better way to run. A banish is a single step that uses a skill or an item.
-/

namespace CombatPlan

open Schema

/-- A special encounter that must be killed whenever it shows up. -/
structure Wanderer where
  name : String
  monster : Opponent

/-- A skill or an item that takes an opponent out of the encounter pool. -/
structure Banish where
  name : String
  deed : Step

/-- A program that escapes better than a plain runaway. -/
structure Runaway where
  name : String
  program : Program

def Banish.program (b : Banish) : Program :=
  .ofStep b.deed

/-! ## Validity -/

structure Wanderer.Valid (w : Wanderer) : Prop where
  name_ne : w.name ≠ ""
  monster : w.monster.Valid

structure Banish.Valid (b : Banish) : Prop where
  name_ne : b.name ≠ ""
  deed : ∃ tool name, b.deed = .use tool name ∧ name ≠ ""

structure Runaway.Valid (r : Runaway) : Prop where
  name_ne : r.name ≠ ""
  program : r.program.Valid

/-! ## Plain form -/

def Wanderer.rule : Rule Wanderer :=
  Rule.model "WandererSource" fun fields =>
    Wanderer.mk <$> required "name" Rule.filledText fields <*> required "monster" Opponent.rule fields

def Banish.deedRule : Rule Step := fun d =>
  (Step.rule d).andThen fun s =>
    match s with
    | .use _ _ => .valid s
    | _ => .fail (.refused "banish must be a skill or item step")

def Banish.rule : Rule Banish :=
  Rule.model "BanishSource" fun fields =>
    Banish.mk <$> required "name" Rule.filledText fields <*> required "do" Banish.deedRule fields

def Runaway.rule : Rule Runaway :=
  Rule.model "RunawaySource" fun fields =>
    Runaway.mk <$> required "name" Rule.filledText fields <*> required "do" Program.rule fields

end CombatPlan
