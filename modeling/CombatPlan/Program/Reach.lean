import CombatPlan.Program.Basic

/-!
# What selection reaches

Selection goes through a program from the top and leaves it for good at a terminal step or at a branch on
the current opponent. `prune` takes out what no selection reaches.
-/

namespace CombatPlan.Program

def walk : Program → List Step
  | done => []
  | step s rest => s :: rest.walk
  | branch _ body rest => body.walk ++ rest.walk

def targets : Program → List Opponent
  | done => []
  | step _ rest => rest.targets
  | branch t body rest => t :: body.targets ++ rest.targets

/-- Whether selection ends within the program, so that nothing behind it counts. -/
def captures (o? : Option Opponent) : Program → Bool
  | done => false
  | step s rest => s.isTerminal || rest.captures o?
  | branch t _ rest => o?.any (· == t) || rest.captures o?

/-- The program without what no selection reaches: nodes behind a terminal step, a branch on a target that was
`asked` before, and a branch on anyone but the targets of the branches `around` it. -/
def prune (around asked : List Opponent) : Program → Program
  | done => done
  | step s rest => if s.isTerminal then ofStep s else step s (rest.prune around asked)
  | branch t body rest =>
    let rest := rest.prune around (t :: asked)
    if asked.any (· == t) || around.any (· != t) then rest
    else branch t (body.prune (t :: around) []) rest

/-- Programs that cannot be told apart by selection. -/
def SelectEq (p q : Program) : Prop :=
  ∀ o?, p.select o? = q.select o?

end CombatPlan.Program
