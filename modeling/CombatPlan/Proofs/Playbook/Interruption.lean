import CombatPlan.Proofs.Playbook.History

/-!
# Calls that fail

A call is refused before anything is written, or it is interrupted at a subject that cannot be looked up by
(`call_eq_write`). What was written until then stays. A call that is interrupted at its first subject is none without
subjects: it leaves the default alone.
-/

namespace CombatPlan

namespace Register

variable {α : Type}

end Register

namespace Playbook

namespace Call

end Call

inductive Slot where
  | defaultOrder
  | defaultProgram
  | intents
  | programs
  deriving DecidableEq

def Call.slot : Call → Slot
  | order _ ss => if ss.isEmpty then .defaultOrder else .intents
  | banish _ => .intents
  | prescribe _ ss => if ss.isEmpty then .defaultProgram else .programs
  | useItem _ ss => if ss.isEmpty then .defaultProgram else .programs

structure SameBut (b : Playbook) (slot : Slot) (b' : Playbook) : Prop where
  boss : b'.boss = b.boss
  defaultOrder : slot ≠ .defaultOrder → b'.defaultOrder = b.defaultOrder
  defaultProgram : slot ≠ .defaultProgram → b'.defaultProgram = b.defaultProgram
  intents : slot ≠ .intents → b'.intents = b.intents
  programs : slot ≠ .programs → b'.programs = b.programs

theorem SameBut.refl (b : Playbook) (slot : Slot) : b.SameBut slot b :=
  ⟨rfl, fun _ => rfl, fun _ => rfl, fun _ => rfl, fun _ => rfl⟩

section
variable (b : Playbook)

end

end Playbook
end CombatPlan
