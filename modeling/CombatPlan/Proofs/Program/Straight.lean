import CombatPlan.Proofs.Program.Sequence

/-!
# Straight lines of steps

Selection leaves out branches and steps and changes no order, and it stops at a terminal step. So what is selected
is a straight line (`straight_select`), and a straight line is all that is selected of it
(`select_ofSteps_iff`).
-/

namespace CombatPlan

def Straight (steps : List Step) : Prop :=
  ∀ s ∈ steps.dropLast, s.isTerminal = false

theorem straight_cons_iff {s : Step} {steps : List Step} :
    Straight (s :: steps) ↔ (s.isTerminal = true → steps = []) ∧ Straight steps := by
  cases steps with
  | nil => exact iff_of_true (List.forall_mem_nil _) ⟨fun _ => rfl, List.forall_mem_nil _⟩
  | cons s' steps =>
    show (∀ x ∈ s :: (s' :: steps).dropLast, x.isTerminal = false) ↔ _
    rw [List.forall_mem_cons, ← Bool.not_eq_true, Straight]
    exact and_congr_left fun _ => ⟨fun hs h => absurd h hs, fun hs h => nomatch hs h⟩

theorem Straight.eq_concat {steps : List Step} (h : Straight steps) {s : Step} (hs : s ∈ steps)
    (hterminal : s.isTerminal = true) : steps = steps.dropLast ++ [s] := by
  have hne : steps ≠ [] := List.ne_nil_of_mem hs
  have hsplit : steps.dropLast ++ [steps.getLast hne] = steps := List.dropLast_concat_getLast hne
  rw [← hsplit] at hs
  rcases List.mem_append.mp hs with hs | hs
  · rw [h s hs] at hterminal
    cases hterminal
  · rw [List.mem_singleton.mp hs, hsplit]

theorem Part.programs?_ofSteps : ∀ steps : List Step, programs? (steps.map ofStep) = some (.ofSteps steps)
  | [] => rfl
  | s :: steps => by
    rw [List.map_cons, programs?, programs?_ofSteps steps]
    rfl

namespace Program

theorem extend_ofSteps (steps : List Step) : done.extend (steps.map .ofStep) = .ok (ofSteps steps) :=
  extend_eq_ok_iff.mpr ⟨_, Part.programs?_ofSteps steps, rfl⟩

theorem walk_ofSteps : ∀ steps : List Step, (ofSteps steps).walk = steps
  | [] => rfl
  | s :: steps => congrArg (s :: ·) (walk_ofSteps steps)

theorem branches_ofSteps : ∀ steps : List Step, (ofSteps steps).branches = []
  | [] => rfl
  | _ :: steps => branches_ofSteps steps

theorem select_sublist_walk (o? : Option Opponent) : ∀ p : Program, (p.select o?).Sublist p.walk
  | done => .slnil
  | step s rest => by
    rw [select, walk]
    split
    · exact (List.nil_sublist _).cons_cons s
    · exact (select_sublist_walk o? rest).cons_cons s
  | branch t body rest => by
    rw [select, walk]
    split
    · exact (select_sublist_walk o? body).trans (List.sublist_append_left ..)
    · exact (select_sublist_walk o? rest).trans (List.sublist_append_right ..)

theorem straight_select (o? : Option Opponent) : ∀ p : Program, Straight (p.select o?)
  | done => List.forall_mem_nil _
  | step s rest => by
    rw [select]
    split
    · exact List.forall_mem_nil _
    · next hs => exact straight_cons_iff.mpr ⟨fun h => absurd h hs, straight_select o? rest⟩
  | branch t body rest => by
    rw [select]
    split
    · exact straight_select o? body
    · exact straight_select o? rest

theorem select_ofSteps_iff (o? : Option Opponent) : ∀ {steps : List Step},
    (ofSteps steps).select o? = steps ↔ Straight steps
  | [] => iff_of_true rfl (List.forall_mem_nil _)
  | s :: steps => by
    rw [straight_cons_iff, ← select_ofSteps_iff o?]
    show (if s.isTerminal then [s] else s :: (ofSteps steps).select o?) = s :: steps ↔ _
    cases s.isTerminal with
    | true =>
      constructor
      · rintro ⟨⟩
        exact ⟨fun _ => rfl, rfl⟩
      · rintro ⟨h, -⟩
        rw [h rfl]
        rfl
    | false =>
      rw [if_neg Bool.false_ne_true, List.cons_inj_right]
      exact ⟨fun h => ⟨nofun, h⟩, And.right⟩

/-- **Selections are straight lines.** What is selected are steps of the program in their order, of which only the last may
be terminal. Everyone selects the same from the program of these steps. -/
theorem select_straight (p : Program) (o? : Option Opponent) :
    (p.select o?).Sublist p.walk ∧ Straight (p.select o?) ∧
      ∃ q, done.extend ((p.select o?).map .ofStep) = .ok q ∧ ∀ o'?, q.select o'? = p.select o? :=
  ⟨select_sublist_walk o? p, straight_select o? p, ofSteps (p.select o?), extend_ofSteps _,
    fun o'? => (select_ofSteps_iff o'?).mpr (straight_select o? p)⟩

end Program
end CombatPlan
