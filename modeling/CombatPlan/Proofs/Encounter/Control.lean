import CombatPlan.Proofs.Encounter.Failure
import CombatPlan.Proofs.Encounter.Override
import CombatPlan.Proofs.Encounter.Priority
import CombatPlan.Proofs.Playbook.History
import CombatPlan.Proofs.Program.Straight

/-!
# Handing back control

A program ends if every way through it comes to a terminal step. Every intent is realized by such a program unless
something stands in for banishing or running away, so an encounter that goes by intents alone always hands back
control.
-/

namespace CombatPlan

namespace Program

/-- Whichever branches are taken, selection comes to a terminal step. -/
def Ends : Program → Prop
  | done => False
  | step s rest => s.isTerminal = true ∨ rest.Ends
  | branch _ body rest => body.Ends ∧ rest.Ends

theorem Ends.exists_terminal {p : Program} (h : p.Ends) (o? : Option Opponent) :
    ∃ s ∈ p.select o?, s.isTerminal = true := by
  induction p with
  | done => cases h
  | step s rest ih =>
    unfold Program.select
    cases hs : s.isTerminal with
    | true => exact ⟨s, List.mem_cons_self, hs⟩
    | false =>
      have hrest : rest.Ends := h.resolve_left (by rw [hs]; exact Bool.false_ne_true)
      obtain ⟨last, hmem, hlast⟩ := ih hrest
      exact ⟨last, List.mem_cons_of_mem _ hmem, hlast⟩
  | branch t body rest ihbody ihrest =>
    unfold Program.select
    split
    · exact ihbody h.1
    · exact ihrest h.2

theorem Ends.select {p : Program} (h : p.Ends) (o? : Option Opponent) :
    ∃ earlier last, p.select o? = earlier ++ [last] ∧ last.isTerminal = true ∧
      ∀ s ∈ earlier, s.isTerminal = false := by
  obtain ⟨last, hmem, hlast⟩ := h.exists_terminal o?
  have hstraight : Straight (p.select o?) := straight_select o? p
  exact ⟨(p.select o?).dropLast, last, hstraight.eq_concat hmem hlast, hlast, hstraight⟩

theorem ends_ofSteps {s : Step} (hs : s.isTerminal = true) : ∀ {steps : List Step}, s ∈ steps → (ofSteps steps).Ends
  | s' :: steps, h => by
    rcases List.mem_cons.mp h with rfl | h
    · exact Or.inl hs
    · exact Or.inr (ends_ofSteps hs h)

def Passes (p : Program) : Prop :=
  ∀ rest : Program, rest.Ends → (p ++ rest).Ends

theorem passes_done : done.Passes := fun _ h => h

theorem Passes.append {p q : Program} (hp : p.Passes) (hq : q.Passes) : (p ++ q).Passes := by
  intro rest h
  rw [append_assoc]
  exact hp _ (hq _ h)

theorem Ends.passes_ofBranch {body : Program} (h : body.Ends) (t : Opponent) : (ofBranch t body).Passes :=
  fun _ hrest => ⟨h, hrest⟩

end Program

/-! ## Realized intents -/

theorem Tactics.ends_of_killProgram {t : Tactics} {finisher : Except Schema.Report Step} {p : Program}
    (h : t.killProgram finisher = .ok p) : p.Ends := by
  unfold killProgram at h
  cases hopening : t.opening with
  | error r =>
    rw [hopening] at h
    cases h
  | ok opening =>
    rw [hopening] at h
    cases finisher with
    | error r => cases h
    | ok s =>
      cases h
      exact Program.ends_ofSteps (s := .again) rfl (by simp)

theorem Tactics.ends_of_fleeProgram {t : Tactics} {p : Program} (h : t.fleeProgram = .ok p) : p.Ends := by
  unfold fleeProgram at h
  cases hbuff : Step.make (.use .skill) (.text t.fleeSkill) with
  | error r =>
    rw [hbuff] at h
    cases h
  | ok buff =>
    rw [hbuff] at h
    cases h
    exact Program.ends_ofSteps (s := .again) rfl (by simp)

structure Overrides.Absent (overrides : Overrides) : Prop where
  banish : overrides.banish = none
  runaway : overrides.runaway = none

section
variable {t : Tactics} {now : Situation} {overrides : Overrides} {s : Subject} {p : Program}

theorem ends_of_realizeKillHard (h : (realizeKillHard t now s).outcome = .ok p) : p.Ends := by
  unfold realizeKillHard at h
  obtain ⟨_, -, h⟩ := Run.outcome_bind_eq_ok.mp h
  exact Tactics.ends_of_killProgram (Run.outcome_ofCheck_eq_ok.mp h)

theorem ends_of_realizeKill (h : (realizeKill t s).outcome = .ok p) : p.Ends := by
  unfold realizeKill at h
  obtain ⟨_, -, h⟩ := Run.outcome_bind_eq_ok.mp h
  exact Tactics.ends_of_killProgram (Run.outcome_ofCheck_eq_ok.mp h)

theorem ends_of_realize (hnone : overrides.Absent) {i : Intent}
    (h : (realize t now overrides s (.intent i)).outcome = .ok p) : p.Ends := by
  unfold realize realizeIntent at h
  cases i with
  | runAway =>
    rw [hnone.runaway] at h
    exact Tactics.ends_of_fleeProgram (Run.outcome_ofCheck_eq_ok.mp h)
  | kill =>
    obtain ⟨escalated, -, h⟩ := Run.outcome_bind_eq_ok.mp h
    cases escalated with
    | true =>
      obtain ⟨_, -, h⟩ := Run.outcome_bind_eq_ok.mp h
      exact ends_of_realizeKillHard h
    | false => exact ends_of_realizeKill h
  | killHard => exact ends_of_realizeKillHard h
  | banish =>
    rw [hnone.banish] at h
    obtain ⟨_, -, h⟩ := Run.outcome_bind_eq_ok.mp h
    obtain ⟨_, -, h⟩ := Run.outcome_bind_eq_ok.mp h
    cases h
    exact Or.inl rfl
  | abort =>
    cases h
    exact Or.inl rfl

end

/-! ## Playbooks without programs -/

namespace Playbook

inductive Call.Intends : Call → Prop
  | order (i : Intent) (ss : List Subject) : Intends (order (.intent i) ss)
  | banish (ss : List Subject) : Intends (banish ss)
  | useItem {item : Datum} {ss : List Subject} (h : (useItem item ss).program? = none) : Intends (useItem item ss)

structure Intends (b : Playbook) : Prop where
  defaultOrder : ∃ i : Intent, b.defaultOrder = .intent i
  defaultProgram : b.defaultProgram = none
  intents : ∀ e ∈ b.intents, ∃ i : Intent, e.2 = .intent i
  programs : b.programs = []

theorem intends_empty (boss : Bool) : ({ boss } : Playbook).Intends :=
  ⟨⟨.runAway, rfl⟩, rfl, List.forall_mem_nil _, rfl⟩

theorem intends_setOrder {b : Playbook} (hb : b.Intends) (i : Intent) (ss : List Subject) :
    (b.setOrder (.intent i) ss).1.Intends := by
  unfold setOrder
  split
  · exact { hb with defaultOrder := ⟨i, rfl⟩ }
  · let intended : Order → Prop := fun order => ∃ i : Intent, order = .intent i
    have hss : ∀ s ∈ ss, True := fun _ _ => trivial
    have hintents := Register.forall_mem_putAll (Q := intended) ⟨i, rfl⟩ hss fun e he => ⟨trivial, hb.intents e he⟩
    exact { hb with intents := fun e he => (hintents e he).2 }

theorem intends_call {b : Playbook} (hb : b.Intends) {c : Call} (hc : c.Intends) : (b.call c).1.Intends := by
  cases hc with
  | order i ss => exact intends_setOrder hb i ss
  | banish ss =>
    unfold call
    dsimp only
    split
    · exact hb
    · exact intends_setOrder hb .banish ss
  | @useItem item ss h =>
    unfold call
    dsimp only
    cases hitem : Program.done.addStep (.use .item) item with
    | ok p =>
      rw [program?_useItem.mpr hitem] at h
      cases h
    | error r => exact hb

theorem intends_callAll : ∀ {calls : List Call} {b : Playbook}, b.Intends → (∀ c ∈ calls, c.Intends) →
    (b.callAll calls).Intends
  | [], _, hb, _ => hb
  | c :: calls, b, hb, h => by
    rw [List.forall_mem_cons] at h
    exact intends_callAll (b := (b.call c).1) (intends_call hb h.1) h.2

end Playbook

/-! ## Encounters -/

namespace Encounter

theorem passes_addWanderers {forced : Program} (h : forced.Ends) : ∀ ws : List Wanderer, (addWanderers forced ws).Passes
  | [] => Program.passes_done
  | w :: ws => (h.passes_ofBranch w.monster).append (passes_addWanderers h ws)

theorem passes_addBranches {α : Type} {body : Subject → α → Run (Option Program)} :
    ∀ {r : Register α} {p q : Program},
      (∀ e ∈ r, ∀ b, (body e.1 e.2).outcome = .ok (some b) → b.Ends) → p.Passes →
      (addBranches body r p).outcome = .ok q → q.Passes
  | [], p, q, _, hp, h => by
    cases h
    exact hp
  | (s, a) :: r, p, q, hbody, hp, h => by
    rw [List.forall_mem_cons] at hbody
    obtain ⟨b?, hb, h⟩ := Run.outcome_bind_eq_ok.mp h
    obtain ⟨p', hp', h⟩ := Run.outcome_bind_eq_ok.mp h
    obtain ⟨o, b, -, rfl, rfl⟩ := Program.addBranch_eq_ok_iff.mp (Run.outcome_ofCheck_eq_ok.mp hp')
    exact passes_addBranches hbody.2 (hp.append ((hbody.1 b hb).passes_ofBranch o)) h

theorem ends_start {t : Tactics} {b : Playbook} {now : Situation} {e : Encounter} (hb : b.Intends)
    (hnone : now.overrides.Absent) (h : (start t b now).outcome = .ok e) : e.program.Ends := by
  obtain ⟨forced, p₁, p₂, last, hforced, h₁, h₂, hlast, rfl⟩ := start_eq_ok_iff.mp h
  have hpass := passes_addWanderers (ends_of_realize hnone hforced) now.wanderers
  have hpass₁ : p₁.Passes := by
    rw [hb.programs] at h₁
    cases h₁
    exact hpass
  have hpass₂ : p₂.Passes := by
    refine passes_addBranches (fun entry hentry body hbody => ?_) hpass₁ h₂
    obtain ⟨i, hi⟩ := hb.intents entry (List.mem_filter.mp hentry).1
    obtain ⟨body', hbody', hsome⟩ := Run.outcome_map_eq_ok.mp hbody
    cases hsome
    rw [hi] at hbody'
    exact ends_of_realize hnone hbody'
  obtain ⟨i, hi⟩ := hb.defaultOrder
  rw [hi] at hlast
  show (p₂ ++ b.defaultProgram.getD .done ++ last).Ends
  rw [hb.defaultProgram, Option.getD_none, Program.append_done]
  exact hpass₂ last (ends_of_realize hnone hlast)

theorem ends_command {e : Encounter} (hnone : e.overrides.Absent) (he : e.program.Ends) {c : Command} {i : Intent}
    (hi : c.order = .intent i) : (e.command c).1.program.Ends := by
  cases hplace : (e.place c).outcome with
  | ok q =>
    rw [command_of_place hplace]
    obtain ⟨body, o, hbody, -, rfl⟩ := place_eq_ok_iff.mp hplace
    rw [hi] at hbody
    exact ⟨ends_of_realize hnone hbody, he⟩
  | error f =>
    unfold command
    dsimp only
    rw [hplace]
    exact he

theorem ends_commandAll : ∀ {cs : List Command} {e : Encounter}, e.overrides.Absent → e.program.Ends →
    (∀ c ∈ cs, ∃ i : Intent, c.order = .intent i) → (e.commandAll cs).1.program.Ends
  | [], _, _, he, _ => he
  | c :: cs, e, hnone, he, hcs => by
    rw [List.forall_mem_cons] at hcs
    obtain ⟨⟨i, hi⟩, hcs⟩ := hcs
    have hnone' : (e.command c).1.overrides.Absent := by
      rw [overrides_command]
      exact hnone
    exact ends_commandAll (e := (e.command c).1) hnone' (ends_command hnone he hi) hcs

/-- **Control is handed back.** With nothing but intents in the playbook, and nothing to banish or to run with at the
start, the steps against anyone come to exactly one terminal step, which is the last. -/
theorem select_of_intents (t : Tactics) (boss : Bool) (calls : List Playbook.Call) :
    let b := ({ boss } : Playbook).callAll calls
    ((∀ c ∈ calls, c.Intends) → b.Intends) ∧
      ∀ (now : Situation) (e : Encounter), b.Intends → now.banish = none → now.runaway = none →
        (start t b now).outcome = .ok e →
        ∀ cs : List Command, (∀ c ∈ cs, ∃ i : Intent, c.order = .intent i) → ∀ o? : Option Opponent,
          ∃ earlier last, (e.commandAll cs).1.select o? = earlier ++ [last] ∧ last.isTerminal = true ∧
            ∀ s ∈ earlier, s.isTerminal = false := by
  intro b
  refine ⟨Playbook.intends_callAll (Playbook.intends_empty boss), ?_⟩
  intro now e hb hbanish hrunaway h cs hcs o?
  have hnone : now.overrides.Absent := by
    constructor
    · show now.banish.map (·.program) = none
      rw [hbanish]
      rfl
    · show now.runaway.map (·.program) = none
      rw [hrunaway]
      rfl
  have hover : e.overrides.Absent := by
    obtain ⟨p, rfl⟩ := start_shape h
    exact hnone
  exact (ends_commandAll hover (ends_start hb hnone h) hcs).select o?

theorem select_of_intents_bat :
    let t : Tactics := { openers := ["Curse"], debuffs := [⟨.item, "cup"⟩] }
    let bat : Opponent := { name := "bat", defense := 300 }
    let imp : Opponent := { name := "imp" }
    let rat : Opponent := { name := "rat" }
    let calls : List Playbook.Call := [
      .order (.intent .kill) [.opponent bat],
      .banish [.opponent imp],
      .useItem (.text "") [.opponent imp],
      .order (.intent .kill) []]
    let now : Situation := { wanderers := [⟨"fog", { name := "ghost" }⟩] }
    let cs : List Command := [⟨{ banish := some ⟨"gong", .use .item "gong"⟩ }, .opponent rat, .intent .banish⟩]
    (∀ c ∈ calls, c.Intends) ∧ (∀ c ∈ cs, ∃ i : Intent, c.order = .intent i) ∧
      ∃ e, (start t (({} : Playbook).callAll calls) now).outcome = .ok e ∧
        ([some bat, some imp, some rat, none].map (e.commandAll cs).1.select =
          [[.use .skill "Curse", .attempt .item "cup", .use .skill "Lunging Thrust-Smack", .again], [.abort], [.abort],
            [.use .skill "Curse", .attempt .item "cup", .attack, .again]]) ∧
        ∀ o?, ∃ earlier last, (e.commandAll cs).1.select o? = earlier ++ [last] ∧ last.isTerminal = true ∧
          ∀ s ∈ earlier, s.isTerminal = false := by
  intro t bat imp rat calls now cs
  have hcalls : ∀ c ∈ calls, c.Intends := by
    simp only [calls, List.forall_mem_cons]
    exact ⟨.order _ _, .banish _, .useItem rfl, .order _ _, List.forall_mem_nil _⟩
  have hcs : ∀ c ∈ cs, ∃ i : Intent, c.order = .intent i := List.forall_mem_singleton.mpr ⟨.banish, rfl⟩
  have heval : (start t (({} : Playbook).callAll calls) now).outcome.toOption.map
      (fun e => [some bat, some imp, some rat, none].map (e.commandAll cs).1.select) =
      some [[.use .skill "Curse", .attempt .item "cup", .use .skill "Lunging Thrust-Smack", .again], [.abort], [.abort],
        [.use .skill "Curse", .attempt .item "cup", .attack, .again]] := by decide
  cases h : (start t (({} : Playbook).callAll calls) now).outcome with
  | error f =>
    rw [h] at heval
    cases heval
  | ok e =>
    rw [h] at heval
    obtain ⟨hb, hselect⟩ := select_of_intents t false calls
    exact ⟨hcalls, hcs, e, rfl, Option.some.inj heval, hselect now e (hb hcalls) rfl rfl h cs hcs⟩

end Encounter
end CombatPlan
