import CombatPlan.Encounter
import CombatPlan.Proofs.Opponent.PlainForm
import CombatPlan.Proofs.Program.Selection
import CombatPlan.Proofs.Program.Sequence

/-!
# Commands that fail

A command fails when its order cannot be realized, when its subject is no opponent, or when the new branch is
written down. Only then is the branch in place already (`command_of_error`), and only data that describe an opponent
get that far: an opponent has a name to be written down.
-/

namespace CombatPlan

open Schema

def Order.unasking? (t : Tactics) (overrides : Overrides) : Order → Option Program
  | .program p => some p
  | .intent .runAway => overrides.runaway.or t.fleeProgram.toOption
  | .intent .banish => overrides.banish
  | .intent .abort => some (.ofStep .abort)
  | .intent .kill => none
  | .intent .killHard => none
  | .data _ => none

theorem realize_record_eq_ok_iff (t : Tactics) (now : Situation) (overrides : Overrides)
    (fields : List (Scalar × Datum)) (order : Order) (p : Program) :
    (realize t now overrides (.data (.record fields)) order).outcome = .ok p ↔ order.unasking? t overrides = some p := by
  cases order with
  | program q => simp [realize, Order.unasking?]
  | data d => simp [realize, Run.fail, Order.unasking?]
  | intent i =>
    -- A kill asks for the stats. The other two ask for the name alone, to report it, and only if nothing is at hand.
    cases i with
    | abort => simp [realize, realizeIntent, Order.unasking?]
    | kill => simp [realize, realizeIntent, Subject.ask, Run.fail, Order.unasking?]
    | killHard => simp [realize, realizeIntent, realizeKillHard, Subject.ask, Run.fail, Order.unasking?]
    | banish =>
      unfold realize realizeIntent Order.unasking?
      cases overrides.banish with
      | some q => simp
      | none => simp [Subject.name?, Run.fail]
    | runAway =>
      unfold realize realizeIntent Order.unasking?
      cases overrides.runaway with
      | some q => simp
      | none =>
        simp only [Run.outcome_ofCheck_eq_ok, Option.none_or]
        cases t.fleeProgram <;> simp [Except.toOption]

namespace Encounter

/-- Data in place of a subject, which describe the opponent `o`, under an order whose program `p` asks nothing of them. -/
def Misplaces (e : Encounter) (c : Command) (o : Opponent) (p : Program) : Prop :=
  ∃ fields, c.subject = .data (.record fields) ∧ Opponent.rule (.record fields) = .valid o ∧
    c.order.unasking? e.tactics e.overrides = some p

theorem place_eq_ok_iff {e : Encounter} {c : Command} {q : Program} :
    (e.place c).outcome = .ok q ↔ ∃ body o,
      (realize e.tactics c.now e.overrides c.subject c.order).outcome = .ok body ∧
        c.subject.toOpponent = .valid o ∧ q = .branch o body e.program := by
  unfold place
  rw [Run.outcome_bind_eq_ok]
  simp only [Run.outcome_ofCheck_eq_ok, Program.prepend_eq_ok_iff]
  constructor
  · rintro ⟨body, hbody, o, ho, hq⟩
    exact ⟨body, o, hbody, ho, hq⟩
  · rintro ⟨body, o, hbody, ho, hq⟩
    exact ⟨body, hbody, o, ho, hq⟩

theorem place_of_misplaces {e : Encounter} {c : Command} {o : Opponent} {p : Program} (h : e.Misplaces c o p) :
    (e.place c).outcome = .ok (.branch o p e.program) := by
  obtain ⟨fields, hs, ho, hp⟩ := h
  refine place_eq_ok_iff.mpr ⟨p, o, ?_, ?_, rfl⟩
  · rw [hs]
    exact (realize_record_eq_ok_iff ..).mpr hp
  · rw [hs]
    exact ho

theorem command_of_place {e : Encounter} {c : Command} {q : Program} (h : (e.place c).outcome = .ok q) :
    e.command c = ({ e with program := q }, e.place c >>= fun _ => notePrepended c.order c.subject) := by
  unfold command
  dsimp only
  rw [h]

theorem command_of_misplaces {e : Encounter} {c : Command} {o : Opponent} {p : Program} (h : e.Misplaces c o p) :
    (e.command c).1 = { e with program := .branch o p e.program } ∧
      (e.command c).2.outcome = .error (.lacks "dict" "name") := by
  have hplace := place_of_misplaces h
  obtain ⟨fields, hs, -, -⟩ := h
  rw [command_of_place hplace, Run.bind_outcome, hplace, hs]
  exact ⟨rfl, rfl⟩

theorem misplaces_of_place {e : Encounter} {c : Command} {q : Program} {f : Failure}
    (hq : (e.place c).outcome = .ok q) (hf : (e.command c).2.outcome = .error f) : ∃ o p, e.Misplaces c o p := by
  rw [command_of_place hq, Run.bind_outcome, hq] at hf
  obtain ⟨body, o, hbody, ho, -⟩ := place_eq_ok_iff.mp hq
  cases hs : c.subject with
  | opponent t =>
    -- An opponent has a name, so nothing fails behind its branch.
    rw [hs] at hf
    cases hf
  | data d =>
    rw [hs] at hbody ho
    cases d with
    | record fields => exact ⟨o, body, fields, hs, ho, (realize_record_eq_ok_iff ..).mp hbody⟩
    | list items => cases ho
    | scalar x => cases ho

/-- **Failed commands.** A command that fails leaves the encounter as it was, unless its subject is data that describe an
opponent and its order asks nothing of them: then the branch stands already. -/
theorem command_of_error (e : Encounter) (c : Command) (f : Failure) (h : (e.command c).2.outcome = .error f) :
    ((∀ o p, ¬e.Misplaces c o p) → (e.command c).1 = e) ∧
      ∀ o p, e.Misplaces c o p →
        (e.command c).1 = { e with program := .branch o p e.program } ∧ f = .lacks "dict" "name" := by
  constructor
  · intro hnone
    cases hplace : (e.place c).outcome with
    | ok q =>
      obtain ⟨o, p, hmis⟩ := misplaces_of_place hplace h
      exact absurd hmis (hnone o p)
    | error g =>
      unfold command
      dsimp only
      rw [hplace]
  · intro o p hmis
    obtain ⟨he, hf⟩ := command_of_misplaces hmis
    rw [hf] at h
    cases h
    exact ⟨he, rfl⟩

theorem command_of_error_bat :
    let bat : Opponent := { name := "bat" }
    let d : Datum := .record [(.text "name", .text "bat")]
    let e : Encounter := ⟨{}, {}, .ofStep .attack⟩
    let kill : Command := ⟨{}, .data d, .intent .kill⟩
    let abort : Command := ⟨{}, .data d, .intent .abort⟩
    (e.command kill).2.outcome = .error (.lacks "dict" "defense") ∧ (∀ o p, ¬e.Misplaces kill o p) ∧
      (e.command kill).1 = e ∧ (e.command abort).2.outcome = .error (.lacks "dict" "name") ∧
      e.Misplaces abort bat (.ofStep .abort) ∧
      (e.command abort).1 = { e with program := .branch bat (.ofStep .abort) e.program } := by
  intro bat d e kill abort
  have hkill : (e.command kill).2.outcome = .error (.lacks "dict" "defense") := rfl
  have hnone : ∀ o p, ¬e.Misplaces kill o p := by
    rintro o p ⟨fields, -, -, hp⟩
    cases hp
  have hmis : e.Misplaces abort bat (.ofStep .abort) :=
    ⟨_, rfl, Opponent.rule_name (by decide) (by decide), rfl⟩
  have habort := (command_of_misplaces hmis).2
  refine ⟨hkill, hnone, ?_, habort, hmis, ?_⟩
  · exact (command_of_error e kill _ hkill).1 hnone
  · exact ((command_of_error e abort _ habort).2 bat _ hmis).1

/-- An encounter that does not survive a failing command: the bat is met otherwise than before. -/
theorem command_fails_in_place :
    let bat : Opponent := { name := "bat" }
    let c : Command := ⟨{}, .data (.record [(.text "name", .text "bat")]), .intent .abort⟩
    ∃ e f, (start {} {} {}).outcome = .ok e ∧ (e.command c).2.outcome = .error f ∧
      e.select (some bat) = [.runaway, .use .skill "Saucestorm", .attack, .again] ∧
      (e.command c).1.select (some bat) = [.abort] := by
  intro bat c
  let e : Encounter := ⟨{}, {}, .ofSteps [.runaway, .use .skill "Saucestorm", .attack, .again]⟩
  have hmis : e.Misplaces c bat (.ofStep .abort) :=
    ⟨_, rfl, Opponent.rule_name (by decide) (by decide), rfl⟩
  obtain ⟨hc, hf⟩ := command_of_misplaces hmis
  refine ⟨e, _, rfl, hf, rfl, ?_⟩
  rw [hc]
  exact Program.select_branch_of_beq (by decide)

end Encounter
end CombatPlan
