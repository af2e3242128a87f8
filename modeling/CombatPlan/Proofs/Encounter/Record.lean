import CombatPlan.Log.Book
import CombatPlan.Proofs.Encounter.Failure
import CombatPlan.Proofs.Encounter.Override
import CombatPlan.Proofs.Encounter.Priority
import CombatPlan.Proofs.Realization.Readiness

/-!
# What encounters write down

Only two things are noted of an order when it is realized: that a kill was escalated, and that there was nothing to
banish with (`Notes.ofOrder`). An encounter notes its orders in the order of their branches, and then itself; a command
notes its order, and then its branch.
-/

namespace CombatPlan

namespace Notes

section
variable (time : Moment)

def escalation (t : Tactics) (offense : Float) (o : Opponent) : LogRecord where
  level := 10
  levelName := "DEBUG"
  source := "autocombat.strategy.compiler"
  message := "Escalating kill of " ++ o.name ++ " to kill_hard (defense " ++ Number.fixed 1 o.defense ++ " x "
    ++ Number.fixed 2 t.escalationFactor ++ " > offense " ++ Number.fixed 1 offense ++ ")"
  time := time

def noBanish (whom : String) : LogRecord where
  level := 30
  levelName := "WARNING"
  source := "autocombat.strategy.compiler"
  message := "No banish available for " ++ whom ++ "; banish degraded to abort"
  time := time

def assembled (wanderers programs intents : Nat) (boss : Bool) : LogRecord where
  level := 10
  levelName := "DEBUG"
  source := "autocombat.strategy.builder"
  message := "Built combat program: " ++ toString wanderers ++ " wanderer, " ++ toString programs ++ " program, "
    ++ toString intents ++ " intent branches (boss=" ++ (if boss then "True" else "False") ++ ")"
  time := time

def prepended (order : Order) (o : Opponent) : LogRecord where
  level := 10
  levelName := "DEBUG"
  source := "autocombat.strategy.builder"
  message := "Prepended " ++ (match order with | .intent i => i.word | _ => "custom program") ++ " branch for " ++ o.name
  time := time

def ofOrder (t : Tactics) (offense : Float) (overrides : Overrides) (o? : Option Opponent) : Order → List LogRecord
  | .intent .kill =>
    match o? with
    | some o => if offense < o.defense * t.escalationFactor then [escalation time t offense o] else []
    | none => []
  | .intent .banish => if overrides.banish.isNone then [noBanish time ((o?.map (·.name)).getD "default opponent")] else []
  | _ => []

end
end Notes

namespace Run

variable {α β : Type} (time : Moment)

def records (x : Run α) : List LogRecord :=
  x.events.map (·.toRecord time)

theorem records_bind {x : Run α} {a : α} (h : x.outcome = .ok a) (f : α → Run β) :
    (x >>= f).records time = x.records time ++ (f a).records time := by
  obtain ⟨es, outcome⟩ := x
  cases h
  exact List.map_append

theorem records_map (f : α → β) (x : Run α) : (f <$> x).records time = x.records time := by
  obtain ⟨es, error | a⟩ := x
  · rfl
  · show (es ++ []).map _ = _
    rw [List.append_nil]
    rfl

theorem records_pure (a : α) : (pure a : Run α).records time = [] := rfl

theorem records_ofCheck (x : Except Schema.Report α) : (ofCheck x).records time = [] := by
  cases x <;> rfl

theorem records_bind_ofCheck (x : Run α) (f : α → Except Schema.Report β) :
    (x >>= fun a => ofCheck (f a)).records time = x.records time := by
  obtain ⟨es, error | a⟩ := x
  · rfl
  · rw [records_bind time rfl, records_ofCheck, List.append_nil]

end Run

/-! ## Orders -/

section
variable (time : Moment) (t : Tactics) (now : Situation) (overrides : Overrides) (o? : Option Opponent)

theorem records_realizeKill : (realizeKill t (.of o?)).records time = [] := by
  unfold realizeKill
  rw [Subject.ask_of, Run.records_bind_ofCheck, Run.records_pure]

theorem records_realizeKillHard : (realizeKillHard t now (.of o?)).records time = [] := by
  unfold realizeKillHard
  rw [Subject.ask_of, Run.records_bind_ofCheck, Run.records_pure]

theorem records_realize_kill : (realize t now overrides (.of o?) (.intent .kill)).records time =
    Notes.ofOrder time t now.offense overrides o? (.intent .kill) := by
  unfold realize realizeIntent
  rw [Subject.ask_of, Run.records_bind time rfl, Run.records_pure, List.nil_append]
  cases o? with
  | none => exact records_realizeKill time t none
  | some o =>
    show Run.records time (if t.escalates now.offense o then _ else _) =
      if now.offense < o.defense * t.escalationFactor then [Notes.escalation time t now.offense o] else []
    by_cases h : now.offense < o.defense * t.escalationFactor
    · rw [if_pos h, if_pos (show t.escalates now.offense o = true from decide_eq_true h), Run.records_bind time rfl,
        records_realizeKillHard time t now (some o)]
      rfl
    · rw [if_neg h, if_neg (show ¬ t.escalates now.offense o = true by simpa [Tactics.escalates] using h),
        records_realizeKill time t (some o)]

theorem records_realize (order : Order) :
    (realize t now overrides (.of o?) order).records time = Notes.ofOrder time t now.offense overrides o? order := by
  cases order with
  | program p => rfl
  | data d => rfl
  | intent i =>
    cases i with
    | runAway =>
      unfold realize realizeIntent
      cases overrides.runaway with
      | some p => rfl
      | none => exact Run.records_ofCheck time _
    | kill => exact records_realize_kill time t now overrides o?
    | killHard => exact records_realizeKillHard time t now o?
    | banish =>
      unfold realize realizeIntent Notes.ofOrder
      cases overrides.banish with
      | some p => rfl
      | none => cases o? <;> rfl
    | abort => rfl

end

namespace Encounter

section
variable (time : Moment)

/-! ## The start -/

theorem records_addBranches {α : Type} {body : Subject → α → Run (Option Program)} :
    ∀ {r : Register α} {p q : Program}, (addBranches body r p).outcome = .ok q →
      (addBranches body r p).records time = r.flatMap fun e => (body e.1 e.2).records time
  | [], _, _, _ => rfl
  | (s, a) :: r, p, q, h => by
    obtain ⟨b, hb, h⟩ := Run.outcome_bind_eq_ok.mp h
    obtain ⟨p', hp', h⟩ := Run.outcome_bind_eq_ok.mp h
    unfold addBranches
    rw [Run.records_bind time hb, Run.records_bind time hp', Run.records_ofCheck, records_addBranches h, List.nil_append,
      List.flatMap_cons]

theorem records_addBranches_of_known {t : Tactics} {now : Situation} {overrides : Overrides} {r : Register Order}
    {p q : Program} (hr : ∀ e ∈ r, ∃ o : Opponent, e.1 = .opponent o)
    (h : (addBranches (fun s order => some <$> realize t now overrides s order) r p).outcome = .ok q) :
    (addBranches (fun s order => some <$> realize t now overrides s order) r p).records time =
      r.flatMap fun e => Notes.ofOrder time t now.offense overrides e.1.opponent? e.2 := by
  rw [records_addBranches time h, List.flatMap_def, List.flatMap_def]
  congr 1
  refine List.map_congr_left fun e he => ?_
  obtain ⟨o, ho⟩ := hr e he
  rw [Run.records_map, ho]
  exact records_realize time t now overrides (some o) e.2

theorem records_start {t : Tactics} {b : Playbook} {now : Situation} {e : Encounter} (hb : b.Known)
    (h : (start t b now).outcome = .ok e) :
    (start t b now).records time =
      ((openIntents b).flatMap fun entry =>
          Notes.ofOrder time t now.offense now.overrides entry.1.opponent? entry.2) ++
        Notes.ofOrder time t now.offense now.overrides none b.defaultOrder ++
        [Notes.assembled time now.wanderers.length b.programs.length (openIntents b).length b.boss] := by
  have hprograms : (b.programs.flatMap fun e => (pure e.2 : Run (Option Program)).records time) = [] :=
    List.flatMap_eq_nil_iff.mpr fun _ _ => rfl
  obtain ⟨forced, p₁, p₂, last, hforced, h₁, h₂, hlast, -⟩ := start_eq_ok_iff.mp h
  unfold start
  rw [Run.records_bind time hforced, Run.records_bind time h₁, Run.records_bind time h₂, Run.records_bind time hlast,
    records_addBranches time h₁, hprograms, records_addBranches_of_known time (known_openIntents hb) h₂]
  have hnobody := records_realize time t now now.overrides none
  rw [show (realize t now now.overrides .nobody (.intent .killHard)).records time = [] from hnobody _,
    show (realize t now now.overrides .nobody b.defaultOrder).records time = _ from hnobody _, List.append_assoc]
  rfl

/-! ## Commands -/

theorem records_command {e : Encounter} {c : Command} (h : (e.command c).2.outcome = .ok ()) :
    ∃ o, c.subject = .opponent o ∧ (e.command c).2.records time =
      Notes.ofOrder time e.tactics c.now.offense e.overrides (some o) c.order ++ [Notes.prepended time c.order o] := by
  obtain ⟨o, body, ho, hbody, -⟩ := command_of_ok h
  have hopponent : c.subject.toOpponent = .valid o := by
    rw [ho]
    rfl
  have hplace := place_eq_ok_iff.mpr ⟨body, o, hbody, hopponent, rfl⟩
  have hrecords : (e.place c).records time =
      Notes.ofOrder time e.tactics c.now.offense e.overrides (some o) c.order := by
    unfold place
    rw [Run.records_bind_ofCheck, ho]
    exact records_realize time e.tactics c.now e.overrides (some o) c.order
  have hprepended : (notePrepended c.order (.opponent o)).records time = [Notes.prepended time c.order o] := by
    cases c.order <;> rfl
  refine ⟨o, ho, ?_⟩
  rw [command_of_place hplace, Run.records_bind time hplace, hrecords, ho, hprepended]

theorem records_commandAll : ∀ {cs : List Command} {e : Encounter}, e.Obeys cs →
    List.Forall₂ (fun c run => ∃ o, c.subject = .opponent o ∧ run.records time =
      Notes.ofOrder time e.tactics c.now.offense e.overrides (some o) c.order ++ [Notes.prepended time c.order o])
      cs (e.commandAll cs).2
  | [], _, _ => .nil
  | c :: cs, e, h => by
    obtain ⟨hc, hcs⟩ := obeys_cons.mp h
    have hrest := records_commandAll hcs
    -- a command does not change what the encounter goes by
    rw [tactics_command, overrides_command] at hrest
    exact .cons (records_command time hc) hrest

end

/-- **The record.** An encounter that begins notes the orders of those without a program of their own, then the default
order, then its counts of branches. Each command notes its order, in the situation of its time, and then its branch. -/
theorem log_start_commandAll (time : Moment) (t : Tactics) (b : Playbook) (hb : b.Known) (now : Situation) (e : Encounter)
    (h : (start t b now).outcome = .ok e) (cs : List Command) (hcs : e.Obeys cs) :
    let unplanned := b.intents.filter fun entry => !b.programs.has entry.1
    (start t b now).records time =
        (unplanned.flatMap fun entry => Notes.ofOrder time t now.offense now.overrides entry.1.opponent? entry.2) ++
          Notes.ofOrder time t now.offense now.overrides none b.defaultOrder ++
          [Notes.assembled time now.wanderers.length b.programs.length unplanned.length b.boss] ∧
      List.Forall₂ (fun c run => ∃ o, c.subject = .opponent o ∧ run.records time =
        Notes.ofOrder time t c.now.offense now.overrides (some o) c.order ++ [Notes.prepended time c.order o])
        cs (e.commandAll cs).2 := by
  intro unplanned
  have hstart := records_start time hb h
  have hcommands := records_commandAll time hcs
  obtain ⟨p, rfl⟩ := start_shape h
  exact ⟨hstart, hcommands⟩

theorem log_start_commandAll_bat :
    let time : Moment := .ofSeconds 0
    let t : Tactics := { openers := [], debuffs := [] }
    let bat : Opponent := { name := "bat", defense := 300 }
    let imp : Opponent := { name := "imp" }
    let ghost : Opponent := { name := "ghost" }
    let b : Playbook := {
      defaultOrder := .intent .banish
      intents := [(.opponent bat, .intent .kill), (.opponent ghost, .intent .banish), (.opponent imp, .intent .banish)]
      programs := [(.opponent ghost, some .done)] }
    let now : Situation := { wanderers := [⟨"fog", imp⟩] }
    let cs : List Command := [
      ⟨{ offense := 400 }, .opponent bat, .intent .kill⟩,
      ⟨{ banish := some ⟨"gong", .use .item "gong"⟩ }, .opponent bat, .intent .banish⟩,
      ⟨{}, .opponent imp, .program .done⟩]
    ∃ e, b.Known ∧ (start t b now).outcome = .ok e ∧ e.Obeys cs ∧
      ((start t b now).records time).map (fun r => (r.levelName, r.message)) = [
        ("DEBUG", "Escalating kill of bat to kill_hard (defense 300.0 x 1.25 > offense 0.0)"),
        ("WARNING", "No banish available for imp; banish degraded to abort"),
        ("WARNING", "No banish available for default opponent; banish degraded to abort"),
        ("DEBUG", "Built combat program: 1 wanderer, 1 program, 2 intent branches (boss=False)")] ∧
      (e.commandAll cs).2.map (fun run => (run.records time).map (·.message)) = [
        ["Prepended kill branch for bat"],
        ["No banish available for bat; banish degraded to abort", "Prepended banish branch for bat"],
        ["Prepended custom program branch for imp"]] := by
  intro time t bat imp ghost b now cs
  have hb : b.Known := ⟨by simp [b], by simp [b]⟩
  have heval : (start t b now).outcome.toOption.map (fun e => (e.commandAll cs).2.all (·.outcome.isOk)) =
      some true := by decide
  cases h : (start t b now).outcome with
  | error f =>
    rw [h] at heval
    cases heval
  | ok e =>
    rw [h] at heval
    have hcs : e.Obeys cs := fun run hrun => by
      have hok := List.all_eq_true.mp (Option.some.inj heval) run hrun
      cases hout : run.outcome with
      | ok => rfl
      | error f =>
        rw [hout] at hok
        cases hok
    obtain ⟨hstart, hcommands⟩ := log_start_commandAll time t b hb now e h cs hcs
    have hunplanned : (b.intents.filter fun entry => !b.programs.has entry.1) =
        [(.opponent bat, .intent .kill), (.opponent imp, .intent .banish)] := by
      show List.filter _ [_, _, _] = _
      rw [List.filter_cons_of_pos (by decide), List.filter_cons_of_neg (by decide),
        List.filter_cons_of_pos (by decide), List.filter_nil]
    have hweak : Notes.ofOrder time t now.offense now.overrides (some bat) (.intent .kill) =
        [Notes.escalation time t now.offense bat] := if_pos (by decide)
    have hstrong : Notes.ofOrder time t 400 now.overrides (some bat) (.intent .kill) = [] := if_neg (by decide)
    refine ⟨e, hb, rfl, hcs, ?_, ?_⟩
    · have hdefense : Number.fixed 1 bat.defense = "300.0" := by decide
      have hfactor : Number.fixed 2 t.escalationFactor = "1.25" := by decide
      have hoffense : Number.fixed 1 now.offense = "0.0" := by decide
      rw [hstart, hunplanned, List.flatMap_cons]
      dsimp only [Subject.opponent?]
      rw [hweak]
      dsimp only [Notes.escalation]
      rw [hdefense, hfactor, hoffense]
      decide
    · obtain ⟨⟨_, ⟨⟩, h₁⟩, hcommands⟩ := List.forall₂_cons.mp hcommands
      obtain ⟨⟨_, ⟨⟩, h₂⟩, hcommands⟩ := List.forall₂_cons.mp hcommands
      obtain ⟨⟨_, ⟨⟩, h₃⟩, -⟩ := List.forall₂_cons.mp hcommands
      show [(_ : List LogRecord).map _, (_ : List LogRecord).map _, (_ : List LogRecord).map _] = _
      rw [h₁, h₂, h₃, hstrong]
      decide

end Encounter
end CombatPlan
