import CombatPlan.Macro.Performance
import CombatPlan.Program.Reach
import CombatPlan.Proofs.Macro.Decoding

/-!
# Macros against selection

A branch that is taken replaces the rest of its program, but a macro goes on behind the end of the branch. The
two agree exactly where this makes no difference: `Program.closes`.
-/

namespace CombatPlan

namespace Program

def trail (o : Opponent) : Program → List Step
  | done => []
  | step s rest => if s.isTerminal then [s] else s :: rest.trail o
  | branch t body rest =>
    if t.mark.fits o then
      if (body.trail o).any Step.isTerminal then body.trail o else body.trail o ++ rest.trail o
    else rest.trail o

def silent (o : Opponent) : Program → Bool
  | done => true
  | step _ _ => false
  | branch t body rest => (o != t || body.silent o) && rest.silent o

/-- Whether each branch that is taken ends the run or leaves nothing to do behind it. -/
def closes (o : Opponent) : Program → Bool
  | done => true
  | step s rest => s.isTerminal || rest.closes o
  | branch t body rest =>
    if o == t then body.closes o && ((body.select (some o)).any Step.isTerminal || rest.silent o)
    else rest.closes o

end Program

/-! ## The performance of a program -/

namespace Statement

variable (o : Opponent)

theorem perform_step_passed (passed : Nat) (s : Step) (ss : List Statement) :
    perform o (passed + 1) (s.statements ++ ss) = perform o (passed + 1) ss := by
  cases s <;> rfl

theorem perform_passed : ∀ (p : Program) (passed : Nat) (ss : List Statement),
    perform o (passed + 1) (p.statements ++ ss) = perform o (passed + 1) ss
  | .done, _, _ => rfl
  | .step s rest, passed, ss => by
    rw [Program.statements, List.append_assoc, perform_step_passed, perform_passed rest]
  | .branch t body rest, passed, ss => by
    simp only [Program.statements, List.cons_append, List.append_assoc, perform]
    rw [perform_passed body, perform, perform_passed rest]

theorem perform_step (s : Step) (ss : List Statement) :
    perform o 0 (s.statements ++ ss) =
      if s.isTerminal then [s.deed] else s.deed :: perform o 0 ss := by
  cases s <;> rfl

theorem perform_statements : ∀ (p : Program) (ss : List Statement),
    perform o 0 (p.statements ++ ss) =
      if (p.trail o).any Step.isTerminal then (p.trail o).map Step.deed
      else (p.trail o).map Step.deed ++ perform o 0 ss
  | .done, _ => rfl
  | .step s rest, ss => by
    rw [Program.statements, List.append_assoc, perform_step, perform_statements rest, Program.trail]
    by_cases hs : s.isTerminal = true
    · simp [hs]
    · simp only [hs, Bool.false_eq_true, ite_false, List.any_cons, Bool.false_or, List.map_cons,
        List.cons_append]
      split <;> rfl
  | .branch t body rest, ss => by
    simp only [Program.statements, List.cons_append, List.append_assoc, perform, Program.trail]
    by_cases ht : t.mark.fits o = true
    · simp only [ht, ite_true]
      rw [perform_statements body, perform, perform_statements rest]
      by_cases hb : (body.trail o).any Step.isTerminal = true
      · simp only [hb, ite_true]
      · simp only [hb, Bool.false_eq_true, ite_false, List.any_append, Bool.false_or, List.map_append,
          List.append_assoc]
        split <;> rfl
    · simp only [ht, Bool.false_eq_true, ite_false]
      rw [perform_passed, perform, perform_statements rest]

end Statement

namespace Program

theorem performMacro?_toMacro {p : Program} (o : Opponent) (h : p.Valid) (hp : p.Unbroken) :
    performMacro? o p.toMacro = some ((p.trail o).map Step.deed) := by
  have hs := Statement.perform_statements o p []
  rw [List.append_nil, Statement.perform, List.append_nil, ite_self] at hs
  rw [performMacro?, (split?_toMacro_iff h).mpr hp, Option.map_some, hs]

/-! ## Agreement -/

def Distinguishes (p : Program) (o : Opponent) : Prop :=
  ∀ t ∈ p.targets, t.mark.fits o = true → (o == t) = true

instance (p : Program) (o : Opponent) : Decidable (p.Distinguishes o) :=
  inferInstanceAs (Decidable (∀ t ∈ p.targets, t.mark.fits o = true → (o == t) = true))

theorem fits_of_beq {o t : Opponent} (h : (o == t) = true) : t.mark.fits o = true := by
  obtain ⟨hname, hid, -, -⟩ := Opponent.beq_iff.mp h
  unfold Opponent.mark
  split
  · next n hn => simp [Mark.fits, hid, hn]
  · simp [Mark.fits, hname]

section
variable {o : Opponent}

theorem Distinguishes.fits_eq {t : Opponent} {body rest : Program}
    (h : (branch t body rest).Distinguishes o) : t.mark.fits o = (o == t) :=
  Bool.eq_iff_iff.mpr ⟨h t (List.mem_cons_self ..), fits_of_beq⟩

theorem Distinguishes.body {t : Opponent} {body rest : Program}
    (h : (branch t body rest).Distinguishes o) : body.Distinguishes o :=
  fun t' ht' => h t' (List.mem_cons_of_mem _ (List.mem_append_left _ ht'))

theorem Distinguishes.rest {t : Opponent} {body rest : Program}
    (h : (branch t body rest).Distinguishes o) : rest.Distinguishes o :=
  fun t' ht' => h t' (List.mem_cons_of_mem _ (List.mem_append_right _ ht'))

theorem trail_eq_nil_iff : ∀ {p : Program}, p.Distinguishes o → (p.trail o = [] ↔ p.silent o = true)
  | done, _ => ⟨fun _ => rfl, fun _ => rfl⟩
  | step s rest, _ => by
    simp only [trail, silent, Bool.false_eq_true, iff_false]
    split <;> exact List.cons_ne_nil _ _
  | branch t body rest, h => by
    rw [trail, silent, h.fits_eq, Bool.and_eq_true, ← trail_eq_nil_iff h.rest]
    by_cases ht : (o == t) = true
    · simp only [ht, ite_true, bne, Bool.not_true, Bool.false_or, ← trail_eq_nil_iff h.body]
      split
      · next hb =>
        have hne : body.trail o ≠ [] := fun he => by rw [he] at hb; cases hb
        exact ⟨fun he => absurd he hne, fun he => absurd he.1 hne⟩
      · exact List.append_eq_nil_iff
    · simp [ht, bne]

theorem trail_eq_select_append : ∀ {p : Program}, p.Distinguishes o →
    ∃ more, p.trail o = p.select (some o) ++ more ∧ (more = [] ↔ p.closes o = true)
  | done, _ => ⟨[], rfl, fun _ => rfl, fun _ => rfl⟩
  | step s rest, h => by
    obtain ⟨more, hm, hc⟩ := trail_eq_select_append (p := rest) h
    by_cases hs : s.isTerminal = true
    · exact ⟨[], by simp [trail, select, hs], by simp [closes, hs]⟩
    · exact ⟨more, by simp [trail, select, hs, hm], by simp [closes, hs, hc]⟩
  | branch t body rest, h => by
    by_cases ht : (o == t) = true
    · obtain ⟨more, hm, hc⟩ := trail_eq_select_append h.body
      have hsel : (branch t body rest).select (some o) = body.select (some o) := by simp [select, ht]
      have hcl : (branch t body rest).closes o =
          (body.closes o && ((body.select (some o)).any Step.isTerminal || rest.silent o)) := by
        rw [closes, if_pos ht]
      rw [hsel, hcl, trail, h.fits_eq, if_pos ht, Bool.and_eq_true, Bool.or_eq_true, ← hc,
        ← trail_eq_nil_iff h.rest]
      by_cases hb : (body.trail o).any Step.isTerminal = true
      · refine ⟨more, by rw [if_pos hb, hm], fun he => ⟨he, Or.inl ?_⟩, fun he => he.1⟩
        rw [hm, he, List.append_nil] at hb; exact hb
      · refine ⟨more ++ rest.trail o, by rw [if_neg hb, hm, List.append_assoc], ?_⟩
        have hn : ¬ (body.select (some o)).any Step.isTerminal = true := fun hs => hb (by
          rw [hm, List.any_append, hs, Bool.true_or])
        rw [List.append_eq_nil_iff]
        exact and_congr_right fun _ => (or_iff_right hn).symm
    · obtain ⟨more, hm, hc⟩ := trail_eq_select_append h.rest
      refine ⟨more, ?_, ?_⟩
      · rw [trail, h.fits_eq, if_neg ht, hm]
        simp [select, ht]
      · rw [closes, if_neg ht, hc]

end

/-- **Macro and selection.** The macro of a program performs the steps selected against an opponent, no more
and no less, exactly if each branch that is taken ends the run or leaves nothing to do behind it. -/
theorem performMacro?_eq_select_iff (o : Opponent) (p : Program) (h : p.Valid) (hp : p.Unbroken)
    (hd : p.Distinguishes o) :
    performMacro? o p.toMacro = some ((p.select (some o)).map Step.deed) ↔ p.closes o = true := by
  obtain ⟨more, hm, hc⟩ := trail_eq_select_append hd
  rw [performMacro?_toMacro o h hp, hm, ← hc, List.map_append, Option.some.injEq,
    List.append_right_eq_self, List.map_eq_nil_iff]

theorem performMacro?_eq_select_nested :
    let bat : Opponent := { name := "bat", monsterId := some 7 }
    let drake : Opponent := { name := "drake" }
    let p : Program :=
      .step (.attempt .item "indigo cup") (.branch drake (.step .runaway .done)
        (.branch bat (.branch bat (.step (.use .skill "Saucegeyser") (.step .again .done)) (.step .attack .done))
          (.step .abort .done)))
    p.Valid ∧ p.Unbroken ∧ p.Distinguishes bat ∧
      performMacro? bat p.toMacro = some ((p.select (some bat)).map Step.deed) := by
  intro bat drake p
  have hb : bat.Valid := Opponent.valid_harmless (by decide) (by decide)
  have hd : drake.Valid := Opponent.valid_harmless (by decide) (by decide)
  have hv : p.Valid := ⟨by decide, hd, ⟨by decide, trivial⟩, hb,
    ⟨hb, ⟨by decide, by decide, trivial⟩, by decide, trivial⟩, by decide, trivial⟩
  have hp : p.Unbroken := by decide
  have ht : p.Distinguishes bat := by decide
  exact ⟨hv, hp, ht, (performMacro?_eq_select_iff bat p hv hp ht).mpr (by decide)⟩

/-- Behind a branch that was taken and does not end the run, the macro goes on. -/
theorem performMacro?_goes_on :
    let bat : Opponent := { name := "bat", monsterId := some 7 }
    let p : Program := .branch bat (.step (.use .skill "Saucegeyser") .done) (.step .runaway .done)
    bat.Valid ∧ p.Valid ∧ p.Unbroken ∧ p.Distinguishes bat ∧
      performMacro? bat p.toMacro = some [.use .skill "Saucegeyser", .runaway] ∧
      (p.select (some bat)).map Step.deed = [.use .skill "Saucegeyser"] := by
  intro bat p
  have hb : bat.Valid := Opponent.valid_harmless (by decide) (by decide)
  have hv : p.Valid := ⟨hb, ⟨by decide, trivial⟩, by decide, trivial⟩
  have hp : p.Unbroken := by decide
  refine ⟨hb, hv, hp, by decide, ?_, by decide⟩
  rw [performMacro?_toMacro bat hv hp]
  decide

end Program
end CombatPlan
