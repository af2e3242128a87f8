import CombatPlan.Proofs.Encounter.Override
import CombatPlan.Proofs.Encounter.Priority

/-!
# What an encounter takes from later situations

Of the situation in which a command is given, offense and weapon alone count (`command_congr`). What there is to
banish and to run with was settled at the start.
-/

namespace CombatPlan

namespace Encounter

/-- Zeros of different signs are not the same offense here, since the journal tells them apart. -/
structure Command.Agrees (c c' : Command) : Prop where
  subject : c'.subject = c.subject
  order : c'.order = c.order
  offense : c'.now.offense = c.now.offense
  weapon : c'.now.weapon = c.now.weapon

theorem place_congr (e : Encounter) {c c' : Command} (h : c.Agrees c') : e.place c' = e.place c := by
  unfold place
  rw [h.subject, h.order, realize_eq_of_stats e.tactics e.overrides h.offense h.weapon]

theorem command_congr (e : Encounter) {c c' : Command} (h : c.Agrees c') : e.command c' = e.command c := by
  unfold command
  rw [place_congr e h, h.subject, h.order]

theorem commandAll_congr : ∀ {cs cs' : List Command}, List.Forall₂ Command.Agrees cs cs' → ∀ e : Encounter,
    e.commandAll cs' = e.commandAll cs
  | _, _, .nil, _ => rfl
  | c :: cs, c' :: cs', .cons h hs, e => by
    have hrest := commandAll_congr hs (e.command c).1
    show (((e.command c').1.commandAll cs').1, (e.command c').2 :: ((e.command c').1.commandAll cs').2) = _
    rw [command_congr e h, hrest]
    rfl

theorem overrides_commandAll (e : Encounter) (cs : List Command) : (e.commandAll cs).1.overrides = e.overrides := by
  obtain ⟨p, hp⟩ := commandAll_eq cs e
  rw [hp]

/-- **Resources are settled at the start.** Encounters that began alike stay the same under the same commands, and write the
same, whatever changes in their situations but for offense and weapon. -/
theorem commandAll_agrees (t : Tactics) (b : Playbook) (now : Situation) (e : Encounter)
    (h : (start t b now).outcome = .ok e) (cs cs' : List Command) (hcs : List.Forall₂ Command.Agrees cs cs') (n : Nat) :
    e.commandAll (cs'.take n) = e.commandAll (cs.take n) ∧
      (e.commandAll (cs.take n)).1.overrides = now.overrides ∧
      (e.commandAll (cs'.take n)).1.overrides = now.overrides := by
  have heq := commandAll_congr (List.forall₂_take n hcs) e
  obtain ⟨p, hp⟩ := start_shape h
  have hover : (e.commandAll (cs.take n)).1.overrides = now.overrides := by
    rw [overrides_commandAll, hp]
  exact ⟨heq, hover, by rw [heq, hover]⟩

theorem commandAll_agrees_bat :
    let bat : Opponent := { name := "bat", monsterId := some 7 }
    let imp : Opponent := { name := "imp" }
    let t : Tactics := { openers := [], debuffs := [] }
    let poorer : List Command := [
      ⟨{}, .opponent bat, .intent .banish⟩,
      ⟨{ weapon := .moxie }, .opponent imp, .intent .killHard⟩]
    let richer : List Command := [
      ⟨{ banish := some ⟨"gong", .use .item "gong"⟩, wanderers := [⟨"ghost", imp⟩] }, .opponent bat, .intent .banish⟩,
      ⟨{ weapon := .moxie, runaway := some ⟨"bomb", .done⟩ }, .opponent imp, .intent .killHard⟩]
    ∃ e, (start t {} {}).outcome = .ok e ∧ List.Forall₂ Command.Agrees poorer richer ∧
      e.commandAll richer = e.commandAll poorer ∧ (e.commandAll richer).1.overrides.banish = none ∧
      (e.commandAll richer).1.select (some bat) = [.abort] ∧
      (e.commandAll richer).1.select (some imp) = [.use .skill "Saucegeyser", .again] := by
  intro bat imp t poorer richer
  have hagrees : List.Forall₂ Command.Agrees poorer richer :=
    .cons ⟨rfl, rfl, rfl, rfl⟩ (.cons ⟨rfl, rfl, rfl, rfl⟩ .nil)
  have h : (start t {} {}).outcome =
      .ok ⟨t, {}, .ofSteps [.runaway, .use .skill "Saucestorm", .attack, .again]⟩ := rfl
  obtain ⟨heq, -, hover⟩ := commandAll_agrees t {} {} _ h poorer richer hagrees 2
  refine ⟨_, h, hagrees, heq, congrArg Overrides.banish hover, ?_, ?_⟩
  · decide
  · decide

end Encounter
end CombatPlan
