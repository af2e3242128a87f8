import CombatPlan.Program.Plain

/-!
# Intents and orders

An intent says what to do against an opponent before it is bound to concrete steps. An order is an intent,
a ready-made program, or plain data that a caller put in its place.
-/

namespace CombatPlan

inductive Intent where
  | runAway
  | kill
  | killHard
  | banish
  | abort
  deriving DecidableEq, Repr

/-- The stat that the weapon in hand scales with. -/
inductive Weapon where
  | muscle
  | mysticality
  | moxie
  deriving DecidableEq, Repr

def Intent.word : Intent → String
  | runAway => "run_away"
  | kill => "kill"
  | killHard => "kill_hard"
  | banish => "banish"
  | abort => "abort"

def Intent.all : List Intent :=
  [runAway, kill, killHard, banish, abort]

def Weapon.word : Weapon → String
  | muscle => "muscle"
  | mysticality => "mysticality"
  | moxie => "moxie"

def Weapon.all : List Weapon :=
  [muscle, mysticality, moxie]

structure UnknownWord where
  given : Datum
  kind : String

def UnknownWord.message (e : UnknownWord) : String :=
  e.given.shown ++ " is not a valid " ++ e.kind

def choose {α : Type} (kind : String) (word : α → String) (choices : List α) (d : Datum) :
    Except UnknownWord α :=
  match choices.find? fun a => d == .text (word a) with
  | some a => .ok a
  | none => .error ⟨d, kind⟩

def Intent.ofData : Datum → Except UnknownWord Intent :=
  choose "Intent" word all

def Weapon.ofData : Datum → Except UnknownWord Weapon :=
  choose "WeaponCategory" word all

inductive Order where
  | intent (i : Intent)
  | program (p : Program)
  | data (d : Datum)

namespace Order

def same : Order → Order → Bool
  | intent i, intent j => i == j
  | program p, program q => p == q
  | data d, data e => d == e
  | _, _ => false

instance : BEq Order := ⟨same⟩

end Order
end CombatPlan
