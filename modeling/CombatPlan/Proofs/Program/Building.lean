import CombatPlan.Proofs.Program.PlainForm
import CombatPlan.Proofs.Program.Sequence

/-!
# Building valid programs

What is handed to a building step as plain data is checked on the way in, so a step that succeeds leaves a valid program
valid. What is handed over as an opponent or as a program is not checked again and has to be valid already.
-/

namespace CombatPlan

open Schema

theorem Step.valid_of_make {kind : Kind} {name : Datum} {s : Step} (h : make kind name = .ok s) : s.Valid := by
  obtain ⟨_, -, hs⟩ := Checked.andThen_eq_valid.mp (Checked.report_eq_ok.mp h)
  exact valid_of_ofKind hs

theorem Step.name?_of_valid {s : Step} (h : s.Valid) :
    if s.kind.isNamed = true then ∃ name, s.name? = some name ∧ name ≠ "" else s.name? = none := by
  cases s with
  | use tool name => exact ⟨name, rfl, fun hempty => h (congrArg some hempty)⟩
  | attempt tool name => exact ⟨name, rfl, fun hempty => h (congrArg some hempty)⟩
  | _ => rfl

/-- An opponent that stands for the subject was read from plain data at some time. -/
def Subject.Vouched (s : Subject) : Prop :=
  ∀ o, s = .opponent o → Opponent.rule.Accepts o

theorem Subject.vouched_data (d : Datum) : (data d).Vouched := by
  intro o h
  cases h

theorem Subject.Vouched.valid {s : Subject} (hs : s.Vouched) {o : Opponent} (h : s.toOpponent = .valid o) : o.Valid := by
  cases s with
  | opponent o' =>
    cases h
    exact Opponent.ensures_rule.of_accepts (hs o rfl)
  | data d => exact Opponent.ensures_rule d o h

namespace Part

theorem valid_of_toProgram {part : Part} (hpart : ∀ p, part = .program p → p.Valid) {q : Program}
    (h : part.toProgram = .valid q) : q.Valid := by
  cases part with
  | program p =>
    cases h
    exact hpart q rfl
  | data d => exact Program.valid_of_rule d h

end Part

namespace Program

theorem valid_append_iff {q : Program} : ∀ {p : Program}, (p ++ q).Valid ↔ p.Valid ∧ q.Valid
  | done => (and_iff_right trivial).symm
  | step s p => by
    rw [step_append, Valid, Valid, valid_append_iff, and_assoc]
  | branch t b p => by
    rw [branch_append, Valid, Valid, valid_append_iff, and_assoc, and_assoc]

theorem valid_ofSteps_iff {ss : List Step} : (ofSteps ss).Valid ↔ ∀ s ∈ ss, s.Valid := by
  induction ss with
  | nil => exact iff_of_true trivial (List.forall_mem_nil _)
  | cons s ss ih =>
    rw [List.forall_mem_cons, ← ih]
    rfl

theorem Valid.ofStep {s : Step} (h : s.Valid) : (ofStep s).Valid :=
  ⟨h, trivial⟩

theorem valid_of_programs? : ∀ {parts : List Part} {q : Program}, (∀ p, .program p ∈ parts → p.Valid) →
    Part.programs? parts = some q → q.Valid
  | [], _, _, h => by
    cases h
    exact trivial
  | part :: parts, _, hparts, h => by
    obtain ⟨p, hp, h⟩ := Option.bind_eq_some_iff.mp h
    obtain ⟨q, hq, rfl⟩ := Option.map_eq_some_iff.mp h
    have hrest : q.Valid := valid_of_programs? (fun p hp => hparts p (List.mem_cons_of_mem _ hp)) hq
    refine valid_append_iff.mpr ⟨?_, hrest⟩
    cases part with
    | program p' =>
      cases hp
      exact hparts p (List.mem_cons_self ..)
    | data d =>
      obtain ⟨n, hn, rfl⟩ := Part.program?_data_eq_some_iff.mp hp
      exact Node.valid_cons.mpr ⟨valid_of_node d hn, trivial⟩

section
variable {p q : Program} (hp : p.Valid)
include hp

theorem Valid.addStep {kind : Step.Kind} {name : Datum} (h : p.addStep kind name = .ok q) : q.Valid := by
  obtain ⟨s, hs, rfl⟩ := map_eq_ok_iff.mp h
  exact valid_append_iff.mpr ⟨hp, .ofStep (Step.valid_of_make hs)⟩

theorem Valid.extend {parts : List Part} (hparts : ∀ r, .program r ∈ parts → r.Valid) (h : p.extend parts = .ok q) :
    q.Valid := by
  obtain ⟨r, hr, rfl⟩ := extend_eq_ok_iff.mp h
  exact valid_append_iff.mpr ⟨hp, valid_of_programs? hparts hr⟩

section
variable {target : Subject} {body : Part} (htarget : target.Vouched) (hbody : ∀ r, body = .program r → r.Valid)
include htarget hbody

theorem Valid.addBranchOf (h : p.addBranchOf target body = .ok q) : q.Valid := by
  obtain ⟨o, b, ho, hb, rfl⟩ := (map_branchOf_eq_ok_iff _).mp h
  exact valid_append_iff.mpr ⟨hp, htarget.valid ho, Part.valid_of_toProgram hbody hb, trivial⟩

theorem Valid.prependOf (h : p.prependOf target body = .ok q) : q.Valid := by
  obtain ⟨o, b, ho, hb, rfl⟩ := (map_branchOf_eq_ok_iff _).mp h
  exact ⟨htarget.valid ho, Part.valid_of_toProgram hbody hb, hp⟩

end
end

/-! ## Validity, step by step and target by target -/

theorem valid_iff : ∀ {p : Program}, p.Valid ↔ (∀ s ∈ p.walk, s.Valid) ∧ ∀ o ∈ p.targets, o.Valid
  | done => iff_of_true trivial ⟨List.forall_mem_nil _, List.forall_mem_nil _⟩
  | step s rest => by
    rw [Valid, valid_iff, walk, targets, List.forall_mem_cons, and_assoc]
  | branch t body rest => by
    rw [Valid, valid_iff, valid_iff (p := rest), walk, targets, List.forall_mem_append, List.cons_append,
      List.forall_mem_cons, List.forall_mem_append]
    tauto

end Program
end CombatPlan
