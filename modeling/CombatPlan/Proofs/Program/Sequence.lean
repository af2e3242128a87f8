import CombatPlan.Program.Plain
import CombatPlan.Program.Reach
import CombatPlan.Proofs.Outcome

/-!
# Programs in sequence

What stands behind a program counts for an opponent unless selection ends within the program
(`select_append`). What a part adds does not depend on where it is added (`extend_eq_ok_iff`), so adding many parts at
once comes to adding them one by one. A branch can be added if its target is an opponent, or data that describe one, and
its body a program, or data for one.
-/

namespace CombatPlan

open Schema

namespace Program

theorem select_append (o? : Option Opponent) (q : Program) : ∀ p : Program,
    (p ++ q).select o? = if p.captures o? then p.select o? else p.select o? ++ q.select o?
  | done => rfl
  | step s rest => by
    rw [step_append, select, select, captures, select_append o? q rest]
    cases s.isTerminal with
    | true => rfl
    | false =>
      show s :: (if rest.captures o? then _ else _) = if rest.captures o? then _ else _
      split <;> rfl
  | branch t body rest => by
    rw [branch_append, select, select, captures, select_append o? q rest]
    cases o?.any (· == t) <;> rfl

end Program

/-! ## What parts add -/

namespace Part

def ofStep (s : Step) : Part :=
  .program (.ofStep s)

def program? : Part → Option Program
  | .program p => some p
  | .data d =>
    match Program.node d with
    | .valid n => some (n.cons .done)
    | .faulty _ => none

theorem program?_data_eq_some_iff {d : Datum} {p : Program} :
    (data d).program? = some p ↔ ∃ n, Program.node d = .valid n ∧ n.cons .done = p := by
  simp only [program?]
  cases Program.node d <;> simp

def programs? : List Part → Option Program
  | [] => some .done
  | part :: parts => part.program?.bind fun p => (programs? parts).map (p ++ ·)

theorem programs?_singleton (part : Part) : programs? [part] = part.program? := by
  unfold programs? programs?
  cases part.program? with
  | none => rfl
  | some p => exact congrArg some (Program.append_done p)

theorem exists_programs? : ∀ parts : List (Step ⊕ Program),
    ∃ q, programs? (parts.map (Sum.elim ofStep .program)) = some q
  | [] => ⟨.done, rfl⟩
  | part :: parts => by
    obtain ⟨q, hq⟩ := exists_programs? parts
    rw [List.map_cons, programs?, hq]
    cases part with
    | inl s => exact ⟨_, rfl⟩
    | inr p => exact ⟨_, rfl⟩

end Part

theorem Node.cons_done_append (n : Node) (p : Program) : n.cons .done ++ p = n.cons p := by
  cases n <;> rfl

namespace Program

theorem ofParts_eq_valid_iff {q : Program} {parts : List Part} {i : Nat} :
    ofParts i parts = .valid q ↔ Part.programs? parts = some q := by
  induction parts generalizing i q with
  | nil => rw [ofParts, Part.programs?, Checked.valid.injEq, Option.some.injEq]
  | cons part parts ih =>
    cases part with
    | program p =>
      rw [ofParts, Checked.map_eq_valid, Part.programs?, Part.program?, Option.bind_some, Option.map_eq_some_iff]
      simp only [ih]
    | data d =>
      rw [ofParts, Checked.seq_eq_valid, Part.programs?, Part.program?]
      cases node d with
      | faulty fs => exact iff_of_false (fun ⟨_, _, h, _⟩ => nomatch h) nofun
      | valid n =>
        rw [Option.bind_some, Option.map_eq_some_iff]
        simp only [ih, Node.cons_done_append]
        constructor
        · rintro ⟨_, p, ⟨⟩, hp, rfl⟩
          exact ⟨p, hp, rfl⟩
        · rintro ⟨p, hp, rfl⟩
          exact ⟨_, p, rfl, hp, rfl⟩

theorem extend_eq_ok_iff {p r : Program} {parts : List Part} :
    p.extend parts = .ok r ↔ ∃ q, Part.programs? parts = some q ∧ p ++ q = r := by
  unfold extend
  rw [Checked.report_eq_ok, Checked.map_eq_valid]
  simp only [Checked.under_eq_valid, ofParts_eq_valid_iff]

theorem extend_program (p q : Program) : p.extend [.program q] = .ok (p ++ q) :=
  extend_eq_ok_iff.mpr ⟨q, Part.programs?_singleton _, rfl⟩

theorem extend_eq_ok_iff_foldlM {parts : List Part} {p r : Program} :
    p.extend parts = .ok r ↔ parts.foldlM (fun p part => p.extend [part]) p = .ok r := by
  induction parts generalizing p with
  | nil =>
    rw [extend_eq_ok_iff, List.foldlM_nil]
    constructor
    · rintro ⟨_, ⟨⟩, rfl⟩
      rw [append_done]
      rfl
    · rintro ⟨⟩
      exact ⟨done, rfl, append_done _⟩
  | cons part parts ih =>
    -- what the parts add is put behind `p` from the right in one go, from the left one by one
    rw [List.foldlM_cons, bind_eq_ok_iff, extend_eq_ok_iff, Part.programs?]
    simp only [← ih, extend_eq_ok_iff, Part.programs?_singleton, Option.bind_eq_some_iff, Option.map_eq_some_iff]
    constructor
    · rintro ⟨_, ⟨a, ha, b, hb, rfl⟩, rfl⟩
      exact ⟨p ++ a, ⟨a, ha, rfl⟩, b, hb, append_assoc p a b⟩
    · rintro ⟨_, ⟨a, ha, rfl⟩, b, hb, rfl⟩
      exact ⟨a ++ b, ⟨a, ha, b, hb, rfl⟩, (append_assoc p a b).symm⟩

/-! ## What a branch adds -/

theorem map_branchOf_eq_ok_iff (f : Opponent × Program → Program) {q : Program} {s : Subject} {part : Part} :
    (branchOf s part).map f = .ok q ↔
      ∃ o body, s.toOpponent = .valid o ∧ part.toProgram = .valid body ∧ q = f (o, body) := by
  unfold branchOf
  cases s.toOpponent with
  | faulty fs => cases part.toProgram <;> exact iff_of_false nofun nofun
  | valid o =>
    cases part.toProgram with
    | faulty fs => exact iff_of_false nofun nofun
    | valid body =>
      constructor
      · intro h
        exact ⟨o, body, rfl, rfl, (Except.ok.inj h).symm⟩
      · rintro ⟨_, _, ⟨⟩, ⟨⟩, rfl⟩
        rfl

theorem toProgram_ofBody_eq_valid {body? : Option Program} {body : Program} :
    (Part.ofBody body?).toProgram = .valid body ↔ body? = some body := by
  cases body? with
  | none => exact iff_of_false nofun nofun
  | some b =>
    show Checked.valid b = .valid body ↔ some b = some body
    rw [Checked.valid.injEq, Option.some.injEq]

theorem addBranch_eq_ok_iff {p q : Program} {s : Subject} {body? : Option Program} :
    p.addBranch s body? = .ok q ↔
      ∃ o body, s.toOpponent = .valid o ∧ body? = some body ∧ q = p ++ ofBranch o body := by
  refine (map_branchOf_eq_ok_iff fun b => p ++ ofBranch b.1 b.2).trans ?_
  simp only [toProgram_ofBody_eq_valid]

theorem prepend_eq_ok_iff {p q body : Program} {s : Subject} :
    p.prepend s (some body) = .ok q ↔ ∃ o, s.toOpponent = .valid o ∧ q = .branch o body p := by
  refine (map_branchOf_eq_ok_iff fun b => .branch b.1 b.2 p).trans ?_
  simp only [toProgram_ofBody_eq_valid]
  constructor
  · rintro ⟨o, _, hs, ⟨⟩, hq⟩
    exact ⟨o, hs, hq⟩
  · rintro ⟨o, hs, hq⟩
    exact ⟨o, body, hs, rfl, hq⟩

/-! ## Sequences -/

/-- **Selection in sequence.** What is put behind a program is selected for those for whom selection does not end within it.
Putting programs behind each other is associative, and the empty program changes nothing. -/
theorem select_extend :
    (∀ (p q : Program) (o? : Option Opponent), ∃ r, p.extend [.program q] = .ok r ∧
      r.select o? = if p.captures o? then p.select o? else p.select o? ++ q.select o?) ∧
    (∀ p q r : Program, (p.extend [.program q] >>= fun s => s.extend [.program r]) =
      q.extend [.program r] >>= fun s => p.extend [.program s]) ∧
    (∀ p : Program, done.extend [.program p] = .ok p ∧ p.extend [.program done] = .ok p) ∧
    (∀ (p : Program) (parts : List (Step ⊕ Program)), ∃ r,
      p.extend (parts.map (Sum.elim .ofStep .program)) = .ok r ∧
      parts.foldlM (fun p part => p.extend [part.elim .ofStep .program]) p = .ok r) ∧
    ∀ (p r : Program) (parts : List Part),
      p.extend parts = .ok r ↔ parts.foldlM (fun p part => p.extend [part]) p = .ok r := by
  refine ⟨fun p q o? => ⟨p ++ q, extend_program p q, select_append o? q p⟩, fun p q r => ?_, fun p => ⟨?_, ?_⟩,
    fun p parts => ?_, fun p r parts => extend_eq_ok_iff_foldlM⟩
  · rw [extend_program, extend_program]
    show (p ++ q).extend [.program r] = p.extend [.program (q ++ r)]
    rw [extend_program, extend_program, append_assoc]
  · exact extend_program done p
  · rw [extend_program, append_done]
  · obtain ⟨q, hq⟩ := Part.exists_programs? parts
    have hall : p.extend (parts.map (Sum.elim .ofStep .program)) = .ok (p ++ q) := extend_eq_ok_iff.mpr ⟨q, hq, rfl⟩
    refine ⟨p ++ q, hall, ?_⟩
    rw [extend_eq_ok_iff_foldlM, List.foldlM_map] at hall
    exact hall

end Program
end CombatPlan
