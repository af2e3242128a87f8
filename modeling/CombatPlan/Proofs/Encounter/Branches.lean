import CombatPlan.Proofs.Encounter.Failure
import CombatPlan.Proofs.Encounter.Override
import CombatPlan.Proofs.Encounter.Priority
import CombatPlan.Proofs.Playbook.History

/-!
# The branches of an encounter

A command that gets as far as its branch puts it in front of all others and leaves these as they are
(`program_commandAll`). Behind the wanderers there is one branch for each opponent that has an entry in the playbook,
since no register has two entries for equal opponents and the row of intents leaves out who has a program
(`onePerEntry`).
-/

namespace CombatPlan

namespace Encounter

/-! ## Commands -/

def Command.branch? (t : Tactics) (overrides : Overrides) (c : Command) : Option (Opponent × Program) :=
  match (realize t c.now overrides c.subject c.order).outcome, c.subject.toOpponent with
  | .ok body, .valid o => some (o, body)
  | _, _ => none

theorem branch?_eq_some_iff {t : Tactics} {overrides : Overrides} {c : Command} {o : Opponent} {body : Program} :
    c.branch? t overrides = some (o, body) ↔
      (realize t c.now overrides c.subject c.order).outcome = .ok body ∧ c.subject.toOpponent = .valid o := by
  unfold Command.branch?
  cases (realize t c.now overrides c.subject c.order).outcome <;> cases c.subject.toOpponent <;> simp [and_comm]

theorem place_of_branch? {e : Encounter} {c : Command} {o : Opponent} {body : Program}
    (h : c.branch? e.tactics e.overrides = some (o, body)) : (e.place c).outcome = .ok (.branch o body e.program) := by
  obtain ⟨hbody, ho⟩ := branch?_eq_some_iff.mp h
  exact place_eq_ok_iff.mpr ⟨body, o, hbody, ho, rfl⟩

theorem program_command (e : Encounter) (c : Command) :
    (e.command c).1.program = Program.ofBranches (c.branch? e.tactics e.overrides).toList ++ e.program := by
  cases hb : c.branch? e.tactics e.overrides with
  | some b =>
    rw [command_of_place (place_of_branch? hb)]
    rfl
  | none =>
    unfold command
    dsimp only
    split
    · next q hq =>
      obtain ⟨body, o, hbody, ho, -⟩ := place_eq_ok_iff.mp hq
      rw [branch?_eq_some_iff.mpr ⟨hbody, ho⟩] at hb
      cases hb
    · rfl

theorem program_commandAll : ∀ (cs : List Command) (e : Encounter), (e.commandAll cs).1.program =
    Program.ofBranches (cs.filterMap (·.branch? e.tactics e.overrides)).reverse ++ e.program
  | [], _ => rfl
  | c :: cs, e => by
    have hrest := program_commandAll cs (e.command c).1
    -- a command does not change what the encounter goes by
    rw [tactics_command, overrides_command, program_command] at hrest
    rw [commandAll_cons, hrest, ← Program.append_assoc, ← Program.ofBranches_append, List.filterMap_cons]
    cases c.branch? e.tactics e.overrides with
    | none => rw [Option.toList_none, List.append_nil]
    | some b => rw [Option.toList_some, List.reverse_cons]

theorem command_isOk_eq {e : Encounter} {c : Command} {o : Opponent} (hs : c.subject = .opponent o) :
    (e.command c).2.outcome.isOk = (c.branch? e.tactics e.overrides).isSome := by
  cases hb : c.branch? e.tactics e.overrides with
  | some b =>
    have hplace := place_of_branch? hb
    rw [command_of_place hplace, Run.bind_outcome, hplace, hs]
    rfl
  | none =>
    cases hrun : (e.command c).2.outcome with
    | error f => rfl
    | ok =>
      obtain ⟨t, body, hs, hbody, -⟩ := command_of_ok hrun
      have ho : c.subject.toOpponent = .valid t := by
        rw [hs]
        rfl
      rw [branch?_eq_some_iff.mpr ⟨hbody, ho⟩] at hb
      cases hb

theorem target_commandAll : ∀ (cs : List Command) (e : Encounter),
    List.Forall₂ (fun c run => ∀ o : Opponent, c.subject = .opponent o →
      (c.branch? e.tactics e.overrides).map (·.1) = if run.outcome.isOk then some o else none) cs (e.commandAll cs).2
  | [], _ => .nil
  | c :: cs, e => by
    have hrest := target_commandAll cs (e.command c).1
    rw [tactics_command, overrides_command] at hrest
    refine .cons (fun o hs => ?_) hrest
    show _ = if (e.command c).2.outcome.isOk then some o else none
    rw [command_isOk_eq hs]
    cases hb : c.branch? e.tactics e.overrides with
    | none => rfl
    | some b =>
      obtain ⟨-, ho⟩ := branch?_eq_some_iff.mp hb
      rw [hs] at ho
      cases ho
      rfl

end Encounter

/-! ## The table -/

/-- Branches on the opponents with a program, then on those with an order only, one for each. -/
structure Playbook.OnePerEntry (b : Playbook) (table : List (Opponent × Program)) : Prop where
  targets : table.map (.opponent ·.1) = b.programs.subjects ++ b.intents.subjects.filter fun s => !b.programs.has s
  distinct : table.Pairwise fun x y => (x.1 == y.1) = false
  once : ∀ o : Opponent,
    table.countP (·.1 == o) = if b.intents.has (.opponent o) || b.programs.has (.opponent o) then 1 else 0

namespace Encounter

theorem Realizes.targets {α : Type} {body : Subject → α → Run (Option Program)} {r : Register α}
    {bs : List (Opponent × Program)} (h : Realizes body r bs) : bs.map (.opponent ·.1) = r.subjects := by
  induction h with
  | nil => rfl
  | cons _ _ ih => exact congrArg (Subject.opponent _ :: ·) ih

theorem subjects_openIntents (b : Playbook) :
    Register.subjects (openIntents b) = b.intents.subjects.filter fun s => !b.programs.has s := by
  unfold Register.subjects openIntents
  rw [List.filter_map]
  rfl

theorem any_table (b : Playbook) (o : Opponent) :
    (b.programs.subjects ++ Register.subjects (openIntents b)).any (· == .opponent o) =
      (b.intents.has (.opponent o) || b.programs.has (.opponent o)) := by
  rw [List.any_append, ← Register.has_eq_any, ← Register.has_eq_any, Bool.or_comm]
  cases hp : b.programs.has (.opponent o) with
  | true => rw [Bool.or_true, Bool.or_true]
  | false =>
    have hget : b.programs.get? (.opponent o) = none := Option.isNone_iff_eq_none.mp (Option.isSome_eq_false_iff.mp hp)
    rw [Bool.or_false, Bool.or_false]
    exact congrArg Option.isSome (get?_openIntents hget)

theorem onePerEntry {b : Playbook} (hprograms : b.programs.subjects.Pairwise fun s s' => (s == s') = false)
    (hintents : b.intents.subjects.Pairwise fun s s' => (s == s') = false) {table : List (Opponent × Program)}
    (htable : table.map (.opponent ·.1) = b.programs.subjects ++ Register.subjects (openIntents b)) :
    b.OnePerEntry table := by
  have hopen : (Register.subjects (openIntents b)).Pairwise fun s s' => (s == s') = false := by
    rw [subjects_openIntents]
    exact hintents.filter _
  -- whoever has a program is left out of the row of intents
  have hcross : ∀ s ∈ b.programs.subjects, ∀ s' ∈ Register.subjects (openIntents b), (s == s') = false := by
    intro s hs s' hs'
    rw [subjects_openIntents] at hs'
    have hnone : b.programs.has s' = false := by simpa using (List.mem_filter.mp hs').2
    rw [Register.has_eq_any] at hnone
    exact Bool.eq_false_iff.mpr (List.any_eq_false.mp hnone s hs)
  have hdistinct : (table.map (Subject.opponent ·.1)).Pairwise fun s s' => (s == s') = false := by
    rw [htable]
    exact List.pairwise_append.mpr ⟨hprograms, hopen, hcross⟩
  have hpairwise : (table.map (·.1)).Pairwise fun x y => (x == y) = false :=
    List.pairwise_map.mpr (List.pairwise_map.mp hdistinct)
  refine ⟨?_, List.pairwise_map.mp hdistinct, fun o => ?_⟩
  · rw [htable, subjects_openIntents]
  · have hany : (table.map (·.1)).any (· == o) = (table.map (Subject.opponent ·.1)).any (· == .opponent o) := by
      rw [List.any_map, List.any_map]
      rfl
    have hcount := countP_beq o hpairwise
    rw [List.countP_map, hany, htable, any_table] at hcount
    exact hcount

/-! ## All branches -/

/-- **One branch per opponent.** The branches of an encounter are those of the commands, the last one first; one for each
wanderer; one for each opponent with an entry in the playbook; those of the default program and of the default order. -/
theorem branches_commandAll (t : Tactics) (boss : Bool) (calls : List Playbook.Call)
    (hcalls : ∀ c ∈ calls, ∀ s ∈ c.subjects, ∃ o : Opponent, s = .opponent o) (now : Situation) (e : Encounter)
    (he : (start t (({ boss } : Playbook).callAll calls) now).outcome = .ok e) (cs : List Command) :
    let b := ({ boss } : Playbook).callAll calls
    ∃ forced table last,
      (realize t now now.overrides .nobody (.intent .killHard)).outcome = .ok forced ∧
      (realize t now now.overrides .nobody b.defaultOrder).outcome = .ok last ∧
      (e.commandAll cs).1.program.branches =
        (cs.filterMap (·.branch? t now.overrides)).reverse ++ now.wanderers.map (fun w => (w.monster, forced)) ++ table ++
          ((b.defaultProgram.getD .done).branches ++ last.branches) ∧
      b.OnePerEntry table ∧
      List.Forall₂ (fun c run => ∀ o : Opponent, c.subject = .opponent o →
        (c.branch? t now.overrides).map (·.1) = if run.outcome.isOk then some o else none) cs (e.commandAll cs).2 := by
  intro b
  have hcommands := target_commandAll cs e
  obtain ⟨forced, own, intended, last, hforced, hown, hintended, hlast, rfl⟩ :=
    start_eq_ok (Playbook.known_callAll boss hcalls) he
  have htable : (own ++ intended).map (.opponent ·.1) = b.programs.subjects ++ Register.subjects (openIntents b) := by
    rw [List.map_append, hown.targets, hintended.targets]
  refine ⟨forced, own ++ intended, last, hforced, hlast, ?_, ?_, hcommands⟩
  · rw [program_commandAll, Program.branches_append, Program.branches_ofBranches, Program.branches_append,
      Program.branches_ofBranches, Program.branches_append]
    simp only [List.append_assoc]
    rfl
  · exact onePerEntry (Playbook.records_prescribed boss hcalls).pairwise (Playbook.records_ordered boss hcalls).pairwise
      htable

theorem branches_commandAll_bat :
    let bat : Opponent := { name := "bat", monsterId := some 7 }
    let imp : Opponent := { name := "imp" }
    let ghost : Opponent := { name := "ghost" }
    let calls : List Playbook.Call := [
      .order (.intent .abort) [.opponent imp, .opponent bat, .opponent bat],
      .banish [],
      .useItem (.text "bomb") [.opponent bat],
      .prescribe (some (.branch ghost .done .done)) []]
    let now : Situation := {
      wanderers := [⟨"fog", ghost⟩]
      runaway := some ⟨"boat", .branch imp .done (.ofStep .runaway)⟩ }
    let cs : List Command := [
      ⟨{}, .opponent imp, .intent .abort⟩,
      ⟨{}, .opponent ghost, .data .null⟩,
      ⟨{}, .opponent bat, .intent .runAway⟩]
    (∀ c ∈ calls, ∀ s ∈ c.subjects, ∃ o : Opponent, s = .opponent o) ∧
      ∃ e, (start {} (({} : Playbook).callAll calls) now).outcome = .ok e ∧
        (e.commandAll cs).1.program.branches.map (·.1.name) = ["bat", "imp", "ghost", "bat", "imp", "ghost", "imp"] := by
  intro bat imp ghost calls now cs
  have hcalls : ∀ c ∈ calls, ∀ s ∈ c.subjects, ∃ o : Opponent, s = .opponent o := by
    simp [calls, Playbook.Call.subjects]
  have hok : (start {} (({} : Playbook).callAll calls) now).outcome.isOk = true := by decide
  cases he : (start {} (({} : Playbook).callAll calls) now).outcome with
  | error f =>
    rw [he] at hok
    cases hok
  | ok e =>
    obtain ⟨forced, table, last, -, hlast, hbranches, htable, -⟩ := branches_commandAll {} false calls hcalls now e he cs
    have hcommands : ((cs.filterMap (·.branch? {} now.overrides)).map (·.1.name)) = ["imp", "bat"] := by decide
    have hnames : table.map (·.1.name) = ["bat", "imp"] := by
      have hmap : table.map (·.1.name) =
          (table.map (.opponent ·.1)).map fun s : Subject => (s.opponent?.map (·.name)).getD "" := by
        rw [List.map_map]
        rfl
      rw [hmap, htable.targets]
      decide
    obtain rfl : Program.branch imp .done (.ofStep .runaway) = last := Except.ok.inj hlast
    refine ⟨hcalls, e, rfl, ?_⟩
    rw [hbranches]
    simp only [List.map_append, List.map_reverse, hcommands, hnames]
    rfl

end Encounter
end CombatPlan
