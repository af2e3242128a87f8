import CombatPlan.Step
import CombatPlan.Subject

/-!
# Combat programs

A program is read from the top once per round. A step is done and then the rest; a branch asks whether
the current opponent equals its target and goes on with its body if so, with the rest of the program
if not. So a branch that is taken replaces all that follows it.
-/

namespace CombatPlan

inductive Program where
  | done
  | step (s : Step) (rest : Program)
  | branch (target : Opponent) (body rest : Program)

namespace Program

instance : Inhabited Program := ⟨done⟩

def append : Program → Program → Program
  | done, q => q
  | step s rest, q => step s (rest.append q)
  | branch t body rest, q => branch t body (rest.append q)

instance : Append Program := ⟨append⟩

/-- The number of steps and branches outside any branch. -/
def length : Program → Nat
  | done => 0
  | step _ rest => rest.length + 1
  | branch _ _ rest => rest.length + 1

def isEmpty : Program → Bool
  | done => true
  | _ => false

/-- The branches outside any other branch, in the order in which they are asked. -/
def branches : Program → List (Opponent × Program)
  | done => []
  | step _ rest => rest.branches
  | branch t body rest => (t, body) :: rest.branches

def ofSteps (steps : List Step) : Program :=
  steps.foldr step done

def ofStep (s : Step) : Program :=
  step s done

def ofBranch (target : Opponent) (body : Program) : Program :=
  branch target body done

/-- The steps that run against an opponent, or against nobody in particular. Nothing runs after a terminal
step. -/
def select (o? : Option Opponent) : Program → List Step
  | done => []
  | step s rest => if s.isTerminal then [s] else s :: rest.select o?
  | branch t body rest => if o?.any (· == t) then body.select o? else rest.select o?

/-- Equality by value, targets included. -/
def same : Program → Program → Bool
  | done, done => true
  | step s p, step t q => s == t && same p q
  | branch o b p, branch o' c q => o == o' && same b c && same p q
  | _, _ => false

instance : BEq Program := ⟨same⟩

/-- Every step has the name it needs, and every target is as the catalog promises, at any depth. -/
def Valid : Program → Prop
  | done => True
  | step s rest => s.Valid ∧ rest.Valid
  | branch t body rest => t.Valid ∧ body.Valid ∧ rest.Valid

/-! ## Appending -/

@[simp] theorem done_append (p : Program) : done ++ p = p := rfl

@[simp] theorem step_append (s : Step) (p q : Program) : step s p ++ q = step s (p ++ q) := rfl

@[simp] theorem branch_append (t : Opponent) (b p q : Program) :
    branch t b p ++ q = branch t b (p ++ q) := rfl

@[simp] theorem append_done (p : Program) : p ++ done = p := by
  induction p with
  | done => rfl
  | step s p ih => rw [step_append, ih]
  | branch t b p _ ih => rw [branch_append, ih]

theorem append_assoc (p q r : Program) : p ++ q ++ r = p ++ (q ++ r) := by
  induction p with
  | done => rfl
  | step s p ih => simp only [step_append, ih]
  | branch t b p _ ih => simp only [branch_append, ih]

@[simp] theorem length_append (p q : Program) : (p ++ q).length = p.length + q.length := by
  induction p with
  | done => simp [length]
  | step s p ih => simp only [step_append, length, ih]; omega
  | branch t b p _ ih => simp only [branch_append, length, ih]; omega

@[simp] theorem branches_append (p q : Program) :
    (p ++ q).branches = p.branches ++ q.branches := by
  induction p with
  | done => rfl
  | step s p ih => simpa [branches] using ih
  | branch t b p _ ih => simp [branches, ih]

end Program
end CombatPlan
