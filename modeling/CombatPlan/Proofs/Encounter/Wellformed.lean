import CombatPlan.Proofs.Encounter.Failure
import CombatPlan.Proofs.Encounter.Override
import CombatPlan.Proofs.Encounter.Priority
import CombatPlan.Proofs.Playbook.History
import CombatPlan.Proofs.Program.Building

/-!
# Well-formed programs

However programs come about, their steps have the names they need and no others, and their targets keep what the catalog
promises (`Program.wellFormed_of_obtained`). Realizing an order makes valid programs of valid programs, whatever the
tactics are, since every step that names something is checked when it is made.
-/

namespace CombatPlan

open Schema

/-! ## Realizing -/

namespace Tactics

variable {t : Tactics}

theorem valid_of_opening {ss : List Step} (h : t.opening = .ok ss) : ∀ s ∈ ss, s.Valid := by
  obtain ⟨openers, hopeners, h⟩ := bind_eq_ok_iff.mp h
  obtain ⟨debuffs, hdebuffs, h⟩ := bind_eq_ok_iff.mp h
  cases h
  exact List.forall_mem_append.mpr ⟨forall_mem_of_mapM_eq_ok (fun _ _ => Step.valid_of_make) hopeners,
    forall_mem_of_mapM_eq_ok (fun _ _ => Step.valid_of_make) hdebuffs⟩

theorem valid_of_killProgram {finisher : Except Report Step} {p : Program} (hfinisher : ∀ s, finisher = .ok s → s.Valid)
    (h : t.killProgram finisher = .ok p) : p.Valid := by
  obtain ⟨opening, hopening, h⟩ := bind_eq_ok_iff.mp h
  obtain ⟨s, hs, h⟩ := bind_eq_ok_iff.mp h
  cases h
  rw [Program.valid_ofSteps_iff, List.forall_mem_append]
  exact ⟨valid_of_opening hopening, List.forall_mem_cons.mpr ⟨hfinisher s hs, List.forall_mem_singleton.mpr nofun⟩⟩

theorem valid_of_fleeProgram {p : Program} (h : t.fleeProgram = .ok p) : p.Valid := by
  obtain ⟨buff, hbuff, h⟩ := bind_eq_ok_iff.mp h
  cases h
  exact ⟨nofun, Step.valid_of_make hbuff, nofun, nofun, trivial⟩

end Tactics

structure Overrides.Valid (overrides : Overrides) : Prop where
  banish : ∀ p ∈ overrides.banish, p.Valid
  runaway : ∀ p ∈ overrides.runaway, p.Valid

section
variable {t : Tactics} {now : Situation} {overrides : Overrides} {s : Subject} {p : Program}

theorem valid_of_realizeKill (h : (realizeKill t s).outcome = .ok p) : p.Valid := by
  obtain ⟨resists, -, h⟩ := Run.outcome_bind_eq_ok.mp h
  refine Tactics.valid_of_killProgram (fun finisher hfinisher => ?_) (Run.outcome_ofCheck_eq_ok.mp h)
  cases resists with
  | true => exact Step.valid_of_make hfinisher
  | false =>
    cases hfinisher
    exact nofun

theorem valid_of_realizeKillHard (h : (realizeKillHard t now s).outcome = .ok p) : p.Valid := by
  obtain ⟨resists, -, h⟩ := Run.outcome_bind_eq_ok.mp h
  refine Tactics.valid_of_killProgram (fun finisher hfinisher => ?_) (Run.outcome_ofCheck_eq_ok.mp h)
  split at hfinisher
  · exact Step.valid_of_make hfinisher
  · exact Step.valid_of_make hfinisher

theorem valid_of_realize (hoverrides : overrides.Valid) {order : Order} (horder : ∀ q, order = .program q → q.Valid)
    (h : (realize t now overrides s order).outcome = .ok p) : p.Valid := by
  cases order with
  | program q =>
    cases h
    exact horder p rfl
  | data d => cases h
  | intent i =>
    cases i with
    | runAway =>
      unfold realize realizeIntent at h
      cases hrun : overrides.runaway with
      | some q =>
        rw [hrun] at h
        cases h
        exact hoverrides.runaway p hrun
      | none =>
        rw [hrun] at h
        exact Tactics.valid_of_fleeProgram (Run.outcome_ofCheck_eq_ok.mp h)
    | kill =>
      obtain ⟨escalates, -, h⟩ := Run.outcome_bind_eq_ok.mp h
      cases escalates with
      | true =>
        obtain ⟨-, -, h⟩ := Run.outcome_bind_eq_ok.mp h
        exact valid_of_realizeKillHard h
      | false => exact valid_of_realizeKill h
    | killHard => exact valid_of_realizeKillHard h
    | banish =>
      unfold realize realizeIntent at h
      cases hbanish : overrides.banish with
      | some q =>
        rw [hbanish] at h
        cases h
        exact hoverrides.banish p hbanish
      | none =>
        simp only [hbanish] at h
        obtain ⟨_, -, h⟩ := Run.outcome_bind_eq_ok.mp h
        obtain ⟨_, -, h⟩ := Run.outcome_bind_eq_ok.mp h
        cases h
        exact .ofStep nofun
    | abort =>
      cases h
      exact .ofStep nofun

end

/-! ## Situations -/

theorem Wanderer.ensures_rule : Wanderer.rule.Ensures Wanderer.Valid := by
  refine Rule.ensures_model fun fields w h => ?_
  obtain ⟨make, monster, hmake, hmonster, rfl⟩ := Checked.seq_eq_valid.mp h
  obtain ⟨name, hname, rfl⟩ := Checked.map_eq_valid.mp hmake
  exact ⟨required_ensures Rule.ensures_filledText hname, required_ensures Opponent.ensures_rule hmonster⟩

theorem Banish.ensures_deedRule : Banish.deedRule.Ensures fun s => ∃ tool name, s = .use tool name ∧ name ≠ "" := by
  intro d s h
  obtain ⟨s', hs', h⟩ := Checked.andThen_eq_valid.mp h
  have hvalid := Step.ensures_rule d s' hs'
  split at h
  · cases h
    refine ⟨_, _, rfl, fun hempty => hvalid ?_⟩
    rw [hempty]
    rfl
  · cases h

theorem Banish.ensures_rule : Banish.rule.Ensures Banish.Valid := by
  refine Rule.ensures_model fun fields b h => ?_
  obtain ⟨make, deed, hmake, hdeed, rfl⟩ := Checked.seq_eq_valid.mp h
  obtain ⟨name, hname, rfl⟩ := Checked.map_eq_valid.mp hmake
  exact ⟨required_ensures Rule.ensures_filledText hname, required_ensures Banish.ensures_deedRule hdeed⟩

theorem Runaway.ensures_rule : Runaway.rule.Ensures Runaway.Valid := by
  refine Rule.ensures_model fun fields r h => ?_
  obtain ⟨make, program, hmake, hprogram, rfl⟩ := Checked.seq_eq_valid.mp h
  obtain ⟨name, hname, rfl⟩ := Checked.map_eq_valid.mp hmake
  exact ⟨required_ensures Rule.ensures_filledText hname, required_ensures (fun d _ => Program.valid_of_rule d) hprogram⟩

theorem Banish.Valid.program {b : Banish} (h : b.Valid) : b.program.Valid := by
  obtain ⟨tool, name, hdeed, hname⟩ := h.deed
  refine .ofStep fun hempty => hname ?_
  rw [hdeed] at hempty
  exact Option.some.inj hempty

theorem Situation.Valid.overrides {now : Situation} (h : now.Valid) : now.overrides.Valid where
  banish p hp := by
    obtain ⟨b, hb, rfl⟩ := Option.map_eq_some_iff.mp hp
    exact (h.banish b hb).program
  runaway p hp := by
    obtain ⟨r, hr, rfl⟩ := Option.map_eq_some_iff.mp hp
    exact (h.runaway r hr).program

/-! ## Playbooks -/

namespace Playbook

structure Holds (S : Subject → Prop) (P : Program → Prop) (b : Playbook) : Prop where
  defaultOrder : ∀ p, b.defaultOrder = .program p → P p
  defaultProgram : ∀ p ∈ b.defaultProgram, P p
  intents : ∀ e ∈ b.intents, S e.1 ∧ ∀ p, e.2 = .program p → P p
  programs : ∀ e ∈ b.programs, S e.1 ∧ ∀ p ∈ e.2, P p

def Call.given? : Call → Option Program
  | order (.program p) _ => some p
  | prescribe program _ => program
  | _ => none

variable {S : Subject → Prop} {P : Program → Prop} {b : Playbook}

theorem holds_empty (boss : Bool) : ({ boss } : Playbook).Holds S P :=
  ⟨nofun, nofun, List.forall_mem_nil _, List.forall_mem_nil _⟩

theorem Holds.setOrder (hb : b.Holds S P) {order : Order} (horder : ∀ p, order = .program p → P p) {ss : List Subject}
    (hss : ∀ s ∈ ss, S s) : (b.setOrder order ss).1.Holds S P := by
  unfold Playbook.setOrder
  split
  · exact { hb with defaultOrder := horder }
  · have hintents :=
      Register.forall_mem_putAll (Q := fun order : Order => ∀ p, order = .program p → P p) horder hss hb.intents
    exact { hb with intents := hintents }

theorem Holds.setProgram (hb : b.Holds S P) {program : Option Program} (hprogram : ∀ p ∈ program, P p) {ss : List Subject}
    (hss : ∀ s ∈ ss, S s) : (b.setProgram program ss).1.Holds S P := by
  unfold Playbook.setProgram
  split
  · exact { hb with defaultProgram := hprogram }
  · have hprograms := Register.forall_mem_putAll (Q := fun program : Option Program => ∀ p ∈ program, P p) hprogram hss
      hb.programs
    exact { hb with programs := hprograms }

theorem Holds.call (hb : b.Holds S P) (hitem : ∀ item p, Program.done.addStep (.use .item) item = .ok p → P p) {c : Call}
    (hss : ∀ s ∈ c.subjects, S s) (hgiven : ∀ p ∈ c.given?, P p) : (b.call c).1.Holds S P := by
  cases c with
  | order order ss =>
    refine hb.setOrder (fun p hp => ?_) hss
    subst hp
    exact hgiven p rfl
  | banish ss =>
    unfold Playbook.call
    dsimp only
    split
    · exact hb
    · exact hb.setOrder (fun _ h => by cases h) hss
  | prescribe program ss => exact hb.setProgram hgiven hss
  | useItem item ss =>
    unfold Playbook.call
    dsimp only
    split
    · next p hp =>
      refine hb.setProgram (fun q hq => ?_) hss
      cases hq
      exact hitem item p hp
    · exact hb

theorem Holds.callAll (hitem : ∀ item p, Program.done.addStep (.use .item) item = .ok p → P p) : ∀ {calls : List Call}
    {b : Playbook}, b.Holds S P → (∀ c ∈ calls, (∀ s ∈ c.subjects, S s) ∧ ∀ p ∈ c.given?, P p) →
      (b.callAll calls).Holds S P
  | [], _, hb, _ => hb
  | c :: calls, b, hb, h => by
    rw [List.forall_mem_cons] at h
    exact Holds.callAll hitem (b := (b.call c).1) (hb.call hitem h.1.1 h.1.2) h.2

end Playbook

/-! ## Encounters -/

namespace Encounter

theorem valid_addWanderers {forced : Program} (hforced : forced.Valid) : ∀ {ws : List Wanderer},
    (∀ w ∈ ws, w.monster.Valid) → (addWanderers forced ws).Valid
  | [], _ => trivial
  | w :: ws, h => by
    rw [List.forall_mem_cons] at h
    exact ⟨h.1, hforced, valid_addWanderers hforced h.2⟩

theorem valid_addBranches {α : Type} {body : Subject → α → Run (Option Program)} : ∀ {r : Register α} {p q : Program},
    (∀ e ∈ r, e.1.Vouched ∧ ∀ b, (body e.1 e.2).outcome = .ok (some b) → b.Valid) → p.Valid →
      (addBranches body r p).outcome = .ok q → q.Valid
  | [], p, q, _, hp, h => by
    cases h
    exact hp
  | (s, a) :: r, p, q, hbody, hp, h => by
    rw [List.forall_mem_cons] at hbody
    obtain ⟨b?, hb, h⟩ := Run.outcome_bind_eq_ok.mp h
    obtain ⟨p', hp', h⟩ := Run.outcome_bind_eq_ok.mp h
    obtain ⟨o, b, ho, rfl, rfl⟩ := Program.addBranch_eq_ok_iff.mp (Run.outcome_ofCheck_eq_ok.mp hp')
    have hbranch : (Program.ofBranch o b).Valid := ⟨hbody.1.1.valid ho, hbody.1.2 b hb, trivial⟩
    exact valid_addBranches hbody.2 (Program.valid_append_iff.mpr ⟨hp, hbranch⟩) h

theorem valid_start {t : Tactics} {b : Playbook} {now : Situation} {e : Encounter}
    (hb : b.Holds Subject.Vouched Program.Valid) (hws : ∀ w ∈ now.wanderers, w.monster.Valid)
    (hover : now.overrides.Valid) (h : (start t b now).outcome = .ok e) : e.program.Valid := by
  obtain ⟨forced, p₁, p₂, last, hforced, h₁, h₂, hlast, rfl⟩ := start_eq_ok_iff.mp h
  have hpass : (addWanderers forced now.wanderers).Valid :=
    valid_addWanderers (valid_of_realize hover (fun _ h => by cases h) hforced) hws
  have hp₁ : p₁.Valid := by
    refine valid_addBranches (fun entry hentry => ?_) hpass h₁
    obtain ⟨hs, hprogram⟩ := hb.programs entry hentry
    exact ⟨hs, fun body hbody => hprogram body (Except.ok.inj hbody)⟩
  have hp₂ : p₂.Valid := by
    refine valid_addBranches (fun entry hentry => ?_) hp₁ h₂
    obtain ⟨hs, horder⟩ := hb.intents entry (List.mem_filter.mp hentry).1
    refine ⟨hs, fun body hbody => ?_⟩
    obtain ⟨body', hbody', hsome⟩ := Run.outcome_map_eq_ok.mp hbody
    cases hsome
    exact valid_of_realize hover horder hbody'
  have hdefault : (b.defaultProgram.getD .done).Valid := by
    cases hd : b.defaultProgram with
    | none => exact trivial
    | some p => exact hb.defaultProgram p hd
  have hend := valid_of_realize hover hb.defaultOrder hlast
  exact Program.valid_append_iff.mpr ⟨Program.valid_append_iff.mpr ⟨hp₂, hdefault⟩, hend⟩

theorem valid_start_of_situation {t : Tactics} {b : Playbook} {now : Situation} {e : Encounter}
    (hb : b.Holds Subject.Vouched Program.Valid) (hnow : now.Valid) (h : (start t b now).outcome = .ok e) :
    e.program.Valid :=
  valid_start hb (fun w hw => (hnow.wanderers w hw).monster) hnow.overrides h

theorem valid_command {e : Encounter} (hover : e.overrides.Valid) (he : e.program.Valid) {c : Command}
    (hs : c.subject.Vouched) (horder : ∀ q, c.order = .program q → q.Valid) : (e.command c).1.program.Valid := by
  cases hplace : (e.place c).outcome with
  | ok q =>
    rw [command_of_place hplace]
    obtain ⟨body, o, hbody, ho, rfl⟩ := place_eq_ok_iff.mp hplace
    exact ⟨hs.valid ho, valid_of_realize hover horder hbody, he⟩
  | error f =>
    unfold command
    dsimp only
    rw [hplace]
    exact he

theorem valid_commandAll : ∀ {cs : List Command} {e : Encounter}, e.overrides.Valid → e.program.Valid →
    (∀ c ∈ cs, c.subject.Vouched ∧ ∀ q, c.order = .program q → q.Valid) → (e.commandAll cs).1.program.Valid
  | [], _, _, he, _ => he
  | c :: cs, e, hover, he, hcs => by
    rw [List.forall_mem_cons] at hcs
    have hover' : (e.command c).1.overrides.Valid := by
      rw [overrides_command]
      exact hover
    exact valid_commandAll (e := (e.command c).1) hover' (valid_command hover he hcs.1.1 hcs.1.2) hcs.2

end Encounter

/-! ## All programs -/

namespace Program

/-- How programs come about. What is handed over for one came about in the same way, was read from plain data, or is plain
data. -/
inductive Obtained : Program → Prop
  | read {d : Datum} {p : Program} : rule d = .valid p → Obtained p
  | readStep {s : Step} : Step.rule.Accepts s → Obtained (ofStep s)
  | readBranch {b : Opponent × Program} : branchRule.Accepts b → Obtained (ofBranch b.1 b.2)
  | empty : Obtained done
  | addStep {p q : Program} {kind : Step.Kind} {name : Datum} : Obtained p → p.addStep kind name = .ok q → Obtained q
  | extend {p q : Program} {parts : List Part} : Obtained p → (∀ r, .program r ∈ parts → Obtained r) →
      p.extend parts = .ok q → Obtained q
  | addBranch {p q : Program} {target : Subject} {body : Part} : Obtained p → target.Vouched →
      (∀ r, body = .program r → Obtained r) → p.addBranchOf target body = .ok q → Obtained q
  | prepend {p q : Program} {target : Subject} {body : Part} : Obtained p → target.Vouched →
      (∀ r, body = .program r → Obtained r) → p.prependOf target body = .ok q → Obtained q
  | realize {t : Tactics} {now : Situation} {overrides : Overrides} {s : Subject} {order : Order} {p : Program} :
      (∀ r ∈ overrides.banish, Obtained r) → (∀ r ∈ overrides.runaway, Obtained r) →
      (∀ r, order = .program r → Obtained r) → (realize t now overrides s order).outcome = .ok p → Obtained p
  | encounter {t : Tactics} {boss : Bool} {calls : List Playbook.Call} {now : Situation} {e : Encounter}
      {cs : List Encounter.Command} :
      (∀ c ∈ calls, ∀ s ∈ c.subjects, s.Vouched) → (∀ c ∈ calls, ∀ r ∈ c.given?, Obtained r) →
      (∀ w ∈ now.wanderers, Opponent.rule.Accepts w.monster) → (∀ b ∈ now.banish, Banish.rule.Accepts b) →
      (∀ r ∈ now.runaway, Obtained r.program) →
      (Encounter.start t (({ boss } : Playbook).callAll calls) now).outcome = .ok e →
      (∀ c ∈ cs, c.subject.Vouched) → (∀ c ∈ cs, ∀ r, c.order = .program r → Obtained r) →
      Obtained (e.commandAll cs).1.program

theorem Obtained.valid {p : Program} (h : Obtained p) : p.Valid := by
  induction h with
  | read h => exact valid_of_rule _ h
  | readStep h => exact .ofStep (Step.ensures_rule.of_accepts h)
  | readBranch h =>
    obtain ⟨d, hd⟩ := h
    exact (Node.valid_cons (p := done)).mpr ⟨valid_of_node d (node_eq_branch_iff.mpr hd), trivial⟩
  | empty => exact trivial
  | addStep _ h ihp => exact ihp.addStep h
  | extend _ _ h ihp ihparts => exact ihp.extend ihparts h
  | addBranch _ htarget _ h ihp ihbody => exact ihp.addBranchOf htarget ihbody h
  | prepend _ htarget _ h ihp ihbody => exact ihp.prependOf htarget ihbody h
  | realize _ _ _ h ihbanish ihrunaway ihorder => exact valid_of_realize ⟨ihbanish, ihrunaway⟩ ihorder h
  | @encounter t boss calls now e cs hsubjects _ hws hbanish _ hstart hcs _ ihcalls ihrunaway ihcs =>
    have hover : now.overrides.Valid := by
      constructor
      · intro p hp
        obtain ⟨b, hb, rfl⟩ := Option.map_eq_some_iff.mp hp
        exact (Banish.ensures_rule.of_accepts (hbanish b hb)).program
      · intro p hp
        obtain ⟨r, hr, rfl⟩ := Option.map_eq_some_iff.mp hp
        exact ihrunaway r hr
    have hbook : (({ boss } : Playbook).callAll calls).Holds Subject.Vouched Program.Valid :=
      (Playbook.holds_empty boss).callAll (fun item p hp => Valid.addStep (p := done) trivial hp)
        fun c hc => ⟨hsubjects c hc, ihcalls c hc⟩
    have hvalid := Encounter.valid_start hbook (fun w hw => Opponent.ensures_rule.of_accepts (hws w hw)) hover hstart
    obtain ⟨q, rfl⟩ := Encounter.start_shape hstart
    exact Encounter.valid_commandAll hover hvalid fun c hc => ⟨hcs c hc, ihcs c hc⟩

/-- **Well-formedness.** However a program comes about, its steps have the names they need and no others, and its targets
have safe names and stats within their bounds. -/
theorem wellFormed_of_obtained (p : Program) (h : Obtained p) :
    (∀ s ∈ p.walk, if s.kind.isNamed = true then ∃ name, s.name? = some name ∧ name ≠ "" else s.name? = none) ∧
    ∀ o ∈ p.targets, (o.name ≠ "" ∧ '"' ∉ o.name.toList ∧ ';' ∉ o.name.toList) ∧
      (0 ≤ o.defense ∧ 0 ≤ o.resistance ∧ o.resistance ≤ 100) ∧ o.defense.isNaN = false ∧ o.resistance.isNaN = false := by
  obtain ⟨hsteps, htargets⟩ := valid_iff.mp h.valid
  refine ⟨fun s hs => ?_, fun o ho => ?_⟩
  · exact Step.name?_of_valid (hsteps s hs)
  · have hvalid := htargets o ho
    exact ⟨⟨hvalid.name_ne, Opponent.safeName_iff.mp hvalid.name_safe⟩, hvalid.bounds,
      Number.isNaN_of_nonneg hvalid.bounds.1, Number.isNaN_of_nonneg hvalid.bounds.2.1⟩

theorem wellFormed_of_obtained_bat :
    let bat : Opponent := { name := "bat", monsterId := some 7 }
    let imp : Opponent := { name := "imp" }
    let p : Program := .step (.use .skill "Wave") (.branch imp (.ofStep .abort) .done)
    let q : Program := .branch bat p (.branch bat (.ofStep (.use .item "seal tooth"))
      (.ofSteps [.runaway, .use .skill "Saucestorm", .attack, .again]))
    Obtained q ∧ (∀ s ∈ q.walk, if s.kind.isNamed = true then ∃ name, s.name? = some name ∧ name ≠ "" else s.name? = none) ∧
      ∀ o ∈ q.targets, (o.name ≠ "" ∧ '"' ∉ o.name.toList ∧ ';' ∉ o.name.toList) ∧
        (0 ≤ o.defense ∧ 0 ≤ o.resistance ∧ o.resistance ≤ 100) ∧ o.defense.isNaN = false ∧ o.resistance.isNaN = false := by
  intro bat imp p q
  have hbat : Opponent.rule.Accepts bat :=
    ⟨bat.plain, Opponent.rule_plain_of_valid (Opponent.valid_harmless (by decide) (by decide))⟩
  have himp : Opponent.rule (.record [(.text "name", .text "imp")]) = .valid imp :=
    Opponent.rule_name (by decide) (by decide)
  have hwave : done.addStep (.use .skill) (.text "Wave") = .ok (.ofStep (.use .skill "Wave")) := rfl
  have hbranch : addBranchOf (.ofStep (.use .skill "Wave")) (.data (.record [(.text "name", .text "imp")]))
      (.data (.record [(.text "nodes", .list [.record [(.text "type", .text "abort")]])])) = .ok p :=
    (map_branchOf_eq_ok_iff _).mpr ⟨imp, .ofStep .abort, himp, rfl, rfl⟩
  have hp : Obtained p := by
    refine (Obtained.empty.addStep hwave).addBranch (Subject.vouched_data _) (fun r hr => ?_) hbranch
    cases hr
  let e : Encounter := ⟨{}, {}, .branch bat (.ofStep (.use .item "seal tooth"))
    (.ofSteps [.runaway, .use .skill "Saucestorm", .attack, .again])⟩
  let calls : List Playbook.Call := [.useItem (.text "seal tooth") [.opponent bat]]
  let cs : List Encounter.Command := [⟨{}, .opponent bat, .program p⟩]
  have hstart : (Encounter.start {} (({ boss := false } : Playbook).callAll calls) {}).outcome = .ok e := rfl
  have hsubjects : ∀ c ∈ calls, ∀ s ∈ c.subjects, s.Vouched := by
    simpa [calls, Playbook.Call.subjects, Subject.Vouched] using hbat
  have hgiven : ∀ c ∈ calls, ∀ r ∈ c.given?, Obtained r := by
    simp [calls, Playbook.Call.given?]
  have hcs : ∀ c ∈ cs, c.subject.Vouched := by
    simpa [cs, Subject.Vouched] using hbat
  have horders : ∀ c ∈ cs, ∀ r, c.order = .program r → Obtained r := by
    simpa [cs] using hp
  have hq : Obtained (e.commandAll cs).1.program := by
    refine Obtained.encounter hsubjects hgiven (List.forall_mem_nil _) (fun b hb => ?_) (fun r hr => ?_) hstart hcs horders
    · cases hb
    · cases hr
  exact ⟨hq, wellFormed_of_obtained q hq⟩

end Program
end CombatPlan
