import CombatPlan.Program.Reach

/-!
# Selection from rows of branches

Of branches in a row, the first on an opponent is taken, and what follows the row counts for all others.
-/

namespace CombatPlan.Program

variable {o t : Opponent} {body rest : Program}

theorem select_branch_of_beq (h : (o == t) = true) :
    (branch t body rest).select (some o) = body.select (some o) := by
  simp [select, h]

theorem select_branch_of_ne (h : (o == t) = false) :
    (branch t body rest).select (some o) = rest.select (some o) := by
  simp [select, h]

theorem select_branch_none : (branch t body rest).select none = rest.select none := by
  simp [select]

theorem SelectEq.branch {p q : Program} (h : p.SelectEq q) (t : Opponent) (body : Program) :
    (branch t body p).SelectEq (branch t body q) := by
  intro o?
  simp only [select, h o?]

def ofBranches : List (Opponent × Program) → Program
  | [] => done
  | b :: bs => branch b.1 b.2 (ofBranches bs)

theorem ofBranches_append (bs bs' : List (Opponent × Program)) :
    ofBranches (bs ++ bs') = ofBranches bs ++ ofBranches bs' := by
  induction bs with
  | nil => rfl
  | cons b bs ih => rw [List.cons_append, ofBranches, ih, ofBranches, branch_append]

theorem branches_ofBranches : ∀ bs : List (Opponent × Program), (ofBranches bs).branches = bs
  | [] => rfl
  | b :: bs => congrArg (b :: ·) (branches_ofBranches bs)

theorem select_ofBranches_append (o : Opponent) (rest : Program) : ∀ bs : List (Opponent × Program),
    (ofBranches bs ++ rest).select (some o) =
      match bs.find? (o == ·.1) with
      | some b => b.2.select (some o)
      | none => rest.select (some o)
  | [] => rfl
  | b :: bs => by
    rw [ofBranches, branch_append, List.find?_cons]
    cases h : o == b.1 with
    | true => exact select_branch_of_beq h
    | false => rw [select_branch_of_ne h]; exact select_ofBranches_append o rest bs

theorem select_none_ofBranches_append (rest : Program) : ∀ bs : List (Opponent × Program),
    (ofBranches bs ++ rest).select none = rest.select none
  | [] => rfl
  | b :: bs => by
    rw [ofBranches, branch_append, select_branch_none]
    exact select_none_ofBranches_append rest bs

end CombatPlan.Program
