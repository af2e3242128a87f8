import CombatPlan.Proofs.Encounter.Override
import CombatPlan.Proofs.Encounter.Rejection
import CombatPlan.Proofs.Playbook.History
import CombatPlan.Proofs.Realization.Readiness
import CombatPlan.Proofs.Settings.Acceptance

/-!
# When encounters can begin and go on

An encounter begins if all that is recorded can be realized, and a hard kill as well (`start_ok_iff`). With accepted
tactics an opener without a name is all that can stand in the way.
-/

namespace CombatPlan

namespace Encounter

/-! ## The start -/

theorem start_of_proper {t : Tactics} (ht : t.Valid) (h : "" ∉ t.openers) {b : Playbook} (hb : b.Proper)
    (now : Situation) : ∃ e, (start t b now).outcome = .ok e := by
  refine (start_ok_iff hb.known).mpr ⟨?_, hb.programs, fun e he => ?_, ?_⟩
  · exact realize_ok ht now now.overrides none h nofun
  · obtain ⟨o, ho⟩ := known_openIntents hb.known e he
    rw [ho]
    exact realize_ok ht now now.overrides (some o) h (hb.intents e (List.mem_filter.mp he).1)
  · exact realize_ok ht now now.overrides none h hb.defaultOrder

theorem start_nameless {t : Tactics} (ht : t.Valid) (h : "" ∈ t.openers) (b : Playbook) (now : Situation) :
    (start t b now).outcome = .error (.invalid Step.namelessSkill) := by
  have hforced : (realize t now now.overrides .nobody (.intent .killHard)).outcome =
      .error (.invalid Step.namelessSkill) := realizeKillHard_nameless ht now none h
  unfold start
  rw [Run.bind_outcome, hforced]
  rfl

/-! ## Commands -/

structure Command.Known (c : Command) : Prop where
  subject : ∃ o : Opponent, o.Valid ∧ c.subject = .opponent o
  order : ∀ d, c.order ≠ .data d

theorem command_ok {e : Encounter} (ht : e.tactics.Valid) (h : "" ∉ e.tactics.openers) {c : Command} (hc : c.Known) :
    (e.command c).2.outcome = .ok () := by
  obtain ⟨o, -, ho⟩ := hc.subject
  obtain ⟨body, hbody⟩ := realize_ok ht c.now e.overrides (some o) h hc.order
  have hplace : (e.place c).outcome = .ok (.branch o body e.program) := by
    unfold place
    rw [ho]
    exact Run.outcome_bind_eq_ok.mpr ⟨body, hbody, rfl⟩
  unfold command
  dsimp only
  rw [hplace, ho]
  exact Run.outcome_bind_eq_ok.mpr ⟨_, hplace, rfl⟩

theorem obeys_of_known : ∀ {cs : List Command} {e : Encounter}, e.tactics.Valid → "" ∉ e.tactics.openers →
    (∀ c ∈ cs, c.Known) → e.Obeys cs
  | [], _, _, _, _ => List.forall_mem_nil _
  | c :: cs, e, ht, h, hcs => by
    rw [List.forall_mem_cons] at hcs
    obtain ⟨p, hp⟩ := e.command_eq c
    refine obeys_cons.mpr ⟨command_ok ht h hcs.1, ?_⟩
    rw [hp]
    exact obeys_of_known (e := { e with program := p }) ht h hcs.2

/-- **Readiness.** With accepted tactics, an encounter begins and carries out every command about opponents of the catalog
if and only if no opener lacks a name. If one does, none begins at all. -/
theorem start_of_accepted (d : Datum) (t : Tactics) (h : Tactics.rule d = .valid t) (boss : Bool)
    (calls : List Playbook.Call) (hcalls : ∀ c ∈ calls, c.Known) (now : Situation) :
    ("" ∈ t.openers → (start t (({ boss } : Playbook).callAll calls) now).outcome =
      .error (.invalid Step.namelessSkill)) ∧
    ("" ∉ t.openers → ∃ e, (start t (({ boss } : Playbook).callAll calls) now).outcome = .ok e ∧
      ∀ cs : List Command, (∀ c ∈ cs, c.Known) → e.Obeys cs) := by
  have ht : t.Valid := Tactics.ensures_rule d t h
  refine ⟨fun hempty => start_nameless ht hempty _ now, fun hnamed => ?_⟩
  obtain ⟨e, he⟩ := start_of_proper ht hnamed (Playbook.proper_callAll boss hcalls) now
  obtain ⟨p, rfl⟩ := start_shape he
  exact ⟨_, he, fun cs hcs => obeys_of_known ht hnamed hcs⟩

theorem start_of_accepted_openers :
    let named : Datum := .record [(.text "opener_skills", .list [.text "Curse"]), (.text "area_skill", .text "Wave")]
    let nameless : Datum := .record [(.text "opener_skills", .list [.text "Curse", .text ""])]
    let bat : Opponent := { name := "bat", monsterId := some 7 }
    let calls : List Playbook.Call := [
      .order (.intent .kill) ([bat].map .opponent),
      .prescribe (some .done) ([].map .opponent),
      .useItem .null ([bat].map .opponent)]
    let cs : List Command := [⟨{ weapon := .moxie }, .opponent bat, .intent .killHard⟩]
    ∃ t t', Tactics.rule named = .valid t ∧ Tactics.rule nameless = .valid t' ∧ (∀ c ∈ calls, c.Known) ∧
      (∀ c ∈ cs, c.Known) ∧ "" ∉ t.openers ∧ "" ∈ t'.openers ∧
      (∃ e, (start t (({} : Playbook).callAll calls) {}).outcome = .ok e ∧ e.Obeys cs) ∧
      (start t' (({} : Playbook).callAll calls) {}).outcome = .error (.invalid Step.namelessSkill) := by
  intro named nameless bat calls cs
  have hbat : bat.Valid := Opponent.valid_harmless (by decide) (by decide)
  have hone : ∀ o ∈ [bat], o.Valid := List.forall_mem_singleton.mpr hbat
  have hcalls : ∀ c ∈ calls, c.Known := by
    simp only [calls, List.forall_mem_cons]
    exact ⟨.order _ _ hone, .prescribe _ _ (List.forall_mem_nil _), .useItem _ _ hone, List.forall_mem_nil _⟩
  have hcs : ∀ c ∈ cs, c.Known := List.forall_mem_singleton.mpr ⟨⟨bat, hbat, rfl⟩, nofun⟩
  have ht : Tactics.rule named = .valid { openers := ["Curse"], areaSkill := "Wave" } := rfl
  have ht' : Tactics.rule nameless = .valid { openers := ["Curse", ""] } := rfl
  have hnamed : "" ∉ ["Curse"] := by decide
  have hempty : "" ∈ ["Curse", ""] := by decide
  obtain ⟨-, hok⟩ := start_of_accepted named _ ht false calls hcalls {}
  obtain ⟨hfail, -⟩ := start_of_accepted nameless _ ht' false calls hcalls {}
  obtain ⟨e, he, hobeys⟩ := hok hnamed
  exact ⟨_, _, ht, ht', hcalls, hcs, hnamed, hempty, ⟨e, he, hobeys cs hcs⟩, hfail hempty⟩

/-- Tactics that are accepted, with which nothing begins: not even with nobody recorded and nobody around. -/
theorem start_accepted_fails :
    let d : Datum := .record [(.text "opener_skills", .list [.text ""])]
    ∃ t, Tactics.rule d = .valid t ∧ (start t {} {}).outcome = .error (.invalid Step.namelessSkill) :=
  ⟨{ openers := [""] }, rfl, rfl⟩

end Encounter
end CombatPlan
