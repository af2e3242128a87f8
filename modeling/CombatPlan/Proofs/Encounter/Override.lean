import CombatPlan.Encounter
import CombatPlan.Proofs.Program.Selection

/-!
# Orders during an encounter

A command that is carried out puts one branch in front of the program and changes nothing else
(`Encounter.command_of_ok`). So the last command about an opponent counts, and those about others do not.
-/

namespace CombatPlan

def Encounter.Command.about (o : Opponent) (c : Command) : Bool :=
  c.subject.opponent?.any (o == ·)

namespace Encounter

/-! ## One command -/

theorem command_of_ok {e : Encounter} {c : Command} (h : (e.command c).2.outcome = .ok ()) :
    ∃ t body, c.subject = .opponent t ∧
      (realize e.tactics c.now e.overrides c.subject c.order).outcome = .ok body ∧
      (e.command c).1 = { e with program := .branch t body e.program } := by
  unfold command at h ⊢
  dsimp only at h ⊢
  split at h
  · next p hp =>
    obtain ⟨-, -, hnote⟩ := Run.outcome_bind_eq_ok.mp h
    obtain ⟨body, hbody, hprep⟩ := Run.outcome_bind_eq_ok.mp hp
    rw [Run.outcome_ofCheck_eq_ok] at hprep
    -- plain data fails when the new branch is written down
    cases hs : c.subject with
    | opponent t =>
      rw [hs] at hprep hbody
      cases hprep
      exact ⟨t, body, rfl, hbody, rfl⟩
    | data d => rw [hs] at hnote; cases hnote
  · cases h

theorem command_eq (e : Encounter) (c : Command) : ∃ p, (e.command c).1 = { e with program := p } := by
  unfold command
  dsimp only
  split
  · next p _ => exact ⟨p, rfl⟩
  · exact ⟨e.program, rfl⟩

theorem tactics_command (e : Encounter) (c : Command) : (e.command c).1.tactics = e.tactics := by
  obtain ⟨p, hp⟩ := e.command_eq c
  rw [hp]

theorem overrides_command (e : Encounter) (c : Command) : (e.command c).1.overrides = e.overrides := by
  obtain ⟨p, hp⟩ := e.command_eq c
  rw [hp]

theorem select_command_of_about {e : Encounter} {c : Command} {o : Opponent}
    (h : (e.command c).2.outcome = .ok ()) (ho : c.about o = true) :
    ∃ p, (realize e.tactics c.now e.overrides c.subject c.order).outcome = .ok p ∧
      (e.command c).1.select (some o) = p.select (some o) := by
  obtain ⟨t, body, hs, hbody, he⟩ := command_of_ok h
  have ht : (o == t) = true := by simpa [Command.about, hs, Subject.opponent?] using ho
  exact ⟨body, hbody, by rw [he]; exact Program.select_branch_of_beq ht⟩

theorem select_command_of_not_about {e : Encounter} {c : Command} {o : Opponent}
    (h : (e.command c).2.outcome = .ok ()) (ho : c.about o = false) :
    (e.command c).1.select (some o) = e.select (some o) := by
  obtain ⟨t, body, hs, -, he⟩ := command_of_ok h
  have ht : (o == t) = false := by simpa [Command.about, hs, Subject.opponent?] using ho
  rw [he]; exact Program.select_branch_of_ne ht

theorem select_none_command {e : Encounter} {c : Command} (h : (e.command c).2.outcome = .ok ()) :
    (e.command c).1.select none = e.select none := by
  obtain ⟨t, body, -, -, he⟩ := command_of_ok h
  rw [he]; exact Program.select_branch_none

/-! ## Many commands -/

def Obeys (e : Encounter) (cs : List Command) : Prop :=
  ∀ run ∈ (e.commandAll cs).2, run.outcome = .ok ()

theorem obeys_cons {e : Encounter} {c : Command} {cs : List Command} :
    e.Obeys (c :: cs) ↔ (e.command c).2.outcome = .ok () ∧ (e.command c).1.Obeys cs :=
  List.forall_mem_cons

theorem commandAll_cons (e : Encounter) (c : Command) (cs : List Command) :
    (e.commandAll (c :: cs)).1 = ((e.command c).1.commandAll cs).1 := rfl

theorem commandAll_append : ∀ (cs ds : List Command) (e : Encounter),
    (e.commandAll (cs ++ ds)).1 = ((e.commandAll cs).1.commandAll ds).1
  | [], _, _ => rfl
  | c :: cs, ds, e => commandAll_append cs ds (e.command c).1

theorem obeys_append : ∀ {cs ds : List Command} {e : Encounter},
    e.Obeys (cs ++ ds) ↔ e.Obeys cs ∧ (e.commandAll cs).1.Obeys ds
  | [], _, _ => (and_iff_right (List.forall_mem_nil _)).symm
  | c :: cs, ds, e => by
    rw [List.cons_append, obeys_cons, obeys_cons, obeys_append, and_assoc]
    rfl

theorem commandAll_eq : ∀ (cs : List Command) (e : Encounter), ∃ p, (e.commandAll cs).1 = { e with program := p }
  | [], e => ⟨e.program, rfl⟩
  | c :: cs, e => by
    obtain ⟨p, hp⟩ := e.command_eq c
    obtain ⟨q, hq⟩ := commandAll_eq cs (e.command c).1
    exact ⟨q, by rw [commandAll_cons, hq, hp]⟩

theorem select_commandAll_of_not_about {o : Opponent} : ∀ {cs : List Command} {e : Encounter},
    e.Obeys cs → (∀ c ∈ cs, c.about o = false) → (e.commandAll cs).1.select (some o) = e.select (some o)
  | [], _, _, _ => rfl
  | c :: cs, e, h, ho => by
    obtain ⟨hc, hcs⟩ := obeys_cons.mp h
    rw [List.forall_mem_cons] at ho
    rw [commandAll_cons, select_commandAll_of_not_about hcs ho.2, select_command_of_not_about hc ho.1]

theorem select_none_commandAll : ∀ {cs : List Command} {e : Encounter},
    e.Obeys cs → (e.commandAll cs).1.select none = e.select none
  | [], _, _ => rfl
  | c :: cs, e, h => by
    obtain ⟨hc, hcs⟩ := obeys_cons.mp h
    rw [commandAll_cons, select_none_commandAll hcs, select_none_command hc]

/-- **The last word.** Against an opponent the last command about it counts, as it was realized when it was given.
Everyone else is met as before. -/
theorem select_commandAll (e : Encounter) (cs : List Command) (h : e.Obeys cs) :
    (∀ (o : Opponent) (earlier : List Command) (c : Command) (later : List Command),
      cs = earlier ++ c :: later → c.about o = true → (∀ c' ∈ later, c'.about o = false) →
        ∃ p, (realize e.tactics c.now e.overrides c.subject c.order).outcome = .ok p ∧
          (e.commandAll cs).1.select (some o) = p.select (some o)) ∧
      (∀ o : Opponent, (∀ c ∈ cs, c.about o = false) →
        (e.commandAll cs).1.select (some o) = e.select (some o)) ∧
      (e.commandAll cs).1.select none = e.select none := by
  refine ⟨?_, fun o ho => select_commandAll_of_not_about h ho, select_none_commandAll h⟩
  rintro o earlier c later rfl hc hlater
  obtain ⟨-, h⟩ := obeys_append.mp h
  obtain ⟨hok, hrest⟩ := obeys_cons.mp h
  obtain ⟨p, hp, hsel⟩ := select_command_of_about hok hc
  -- how to realize orders is settled from the beginning
  obtain ⟨q, hq⟩ := commandAll_eq earlier e
  refine ⟨p, by rwa [hq] at hp, ?_⟩
  rw [commandAll_append, commandAll_cons, select_commandAll_of_not_about hrest hlater, hsel]

theorem select_commandAll_bat :
    let bat : Opponent := { name := "bat", monsterId := some 7 }
    let drake : Opponent := { name := "drake" }
    let e : Encounter := ⟨{}, {}, .branch bat (.step .again .done) (.step .attack .done)⟩
    let cs : List Command := [
      ⟨{}, .opponent bat, .intent .abort⟩,
      ⟨{ weapon := .moxie }, .opponent bat, .intent .runAway⟩,
      ⟨{}, .opponent drake, .program (.branch bat .done (.step .runaway .done))⟩]
    e.Obeys cs ∧ (e.commandAll cs).1.select (some bat) = [.runaway, .use .skill "Saucestorm", .attack, .again] ∧
      (e.commandAll cs).1.select (some { name := "ghost" }) = [.attack] ∧
      (e.commandAll cs).1.select none = [.attack] := by
  intro bat drake e cs
  have h : e.Obeys cs := by
    refine obeys_cons.mpr ⟨by rfl, obeys_cons.mpr ⟨by rfl, obeys_cons.mpr ⟨by rfl, List.forall_mem_nil _⟩⟩⟩
  obtain ⟨hlast, hother, hnone⟩ := select_commandAll e cs h
  obtain ⟨p, hp, hbat⟩ := hlast bat [cs[0]] cs[1] [cs[2]] rfl (by decide) (by decide)
  have hp : Program.ofSteps [.runaway, .use .skill "Saucestorm", .attack, .again] = p := Except.ok.inj hp
  refine ⟨h, by rw [hbat, ← hp]; rfl, (hother _ (by decide)).trans (by decide), hnone.trans rfl⟩

end Encounter
end CombatPlan
