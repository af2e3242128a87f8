import CombatPlan.Encounter
import CombatPlan.Proofs.Playbook.Register
import CombatPlan.Proofs.Program.Selection
import CombatPlan.Proofs.Realization.Dependence

/-!
# Priorities at the start of an encounter

The program of an encounter begins with rows of branches: wanderers, own programs, open intents. A row is a
register or list of wanderers with its bodies realized, so the first branch on an opponent is what the
register has for it (`Realizes.find?_of_get?`).
-/

namespace CombatPlan

namespace Encounter

/-! ## Tiers -/

inductive Tier where
  | forced
  | own (program : Option Program)
  | intended (order : Order)
  | standing (program : Option Program) (order : Order)

/-- A wanderer is forced, whatever the playbook says; else an opponent's own program counts, else the order
for it. Nobody in particular has neither. -/
def tier (b : Playbook) (ws : List Wanderer) : Option Opponent → Tier
  | none => .standing b.defaultProgram b.defaultOrder
  | some o =>
    if ws.any (o == ·.monster) then .forced
    else
      match b.programs.get? (.opponent o), b.intents.get? (.opponent o) with
      | some program, _ => .own program
      | none, some order => .intended order
      | none, none => .standing b.defaultProgram b.defaultOrder

/-- What a tier has against an opponent. The default program comes before the default order. -/
def Tier.Gives (t : Tactics) (now : Situation) (o? : Option Opponent) (p : Program) : Tier → Prop
  | .forced => (realize t now now.overrides .nobody (.intent .killHard)).outcome = .ok p
  | .own program => program = some p
  | .intended order => ∃ o ∈ o?, (realize t now now.overrides (.opponent o) order).outcome = .ok p
  | .standing program order => ∃ last, (realize t now now.overrides .nobody order).outcome = .ok last ∧
      p = program.getD .done ++ last

theorem Tier.Gives.unique {t : Tactics} {now : Situation} {o? : Option Opponent} {p q : Program} :
    ∀ {tier : Tier}, tier.Gives t now o? p → tier.Gives t now o? q → p = q
  | .forced, hp, hq => Except.ok.inj (hp.symm.trans hq)
  | .own _, hp, hq => Option.some.inj (hp.symm.trans hq)
  | .intended _, ⟨o, ho, hp⟩, ⟨o', ho', hq⟩ => by
    cases Option.mem_unique ho ho'
    exact Except.ok.inj (hp.symm.trans hq)
  | .standing _ _, ⟨last, hp, hlast⟩, ⟨last', hq, hlast'⟩ => by
    rw [hlast, hlast', Except.ok.inj (hp.symm.trans hq)]

theorem Tier.gives_wanderers {t : Tactics} {now : Situation} {o? : Option Opponent} {p : Program}
    (ws : List Wanderer) (tier : Tier) :
    tier.Gives t { now with wanderers := ws } o? p ↔ tier.Gives t now o? p := by
  have hrealize : ∀ s order, realize t { now with wanderers := ws } now.overrides s order =
      realize t now now.overrides s order := realize_eq_of_stats t now.overrides rfl rfl
  have hover : { now with wanderers := ws }.overrides = now.overrides := rfl
  cases tier <;> simp only [Gives, hover, hrealize]

/-! ## Rows of branches -/

section
variable {α : Type} {body : Subject → α → Run (Option Program)}

inductive Realizes (body : Subject → α → Run (Option Program)) : Register α → List (Opponent × Program) → Prop
  | nil : Realizes body [] []
  | cons {k : Opponent} {a : α} {p : Program} {r : Register α} {bs : List (Opponent × Program)} :
      (body (.opponent k) a).outcome = .ok (some p) → Realizes body r bs →
        Realizes body ((.opponent k, a) :: r) ((k, p) :: bs)

theorem addBranches_eq_ok : ∀ {r : Register α} {p q : Program}, (∀ e ∈ r, ∃ o : Opponent, e.1 = .opponent o) →
    (addBranches body r p).outcome = .ok q → ∃ bs, Realizes body r bs ∧ q = p ++ Program.ofBranches bs
  | [], p, q, _, h => by
    cases h
    exact ⟨[], .nil, (Program.append_done p).symm⟩
  | (s, a) :: r, p, q, hr, h => by
    rw [List.forall_mem_cons] at hr
    obtain ⟨⟨k, rfl⟩, hr⟩ := hr
    obtain ⟨c, hc, h⟩ := Run.outcome_bind_eq_ok.mp h
    obtain ⟨p', hp', h⟩ := Run.outcome_bind_eq_ok.mp h
    rw [Run.outcome_ofCheck_eq_ok] at hp'
    cases c with
    | none => cases hp'
    | some c =>
      cases hp'
      obtain ⟨bs, hbs, rfl⟩ := addBranches_eq_ok hr h
      exact ⟨(k, c) :: bs, .cons hc hbs, Program.append_assoc p (Program.ofBranch k c) _⟩

theorem find?_branches_cons (o k : Opponent) (p : Program) (bs : List (Opponent × Program)) :
    ((k, p) :: bs).find? (o == ·.1) = if k == o then some (k, p) else bs.find? (o == ·.1) := by
  rw [List.find?_cons, BEq.comm (a := o)]
  cases k == o <;> rfl

theorem Realizes.find?_of_get? {o : Opponent} {r : Register α} {bs : List (Opponent × Program)}
    (h : Realizes body r bs) {a : α} (ha : r.get? (.opponent o) = some a) :
    ∃ k p, (k == o) = true ∧ (body (.opponent k) a).outcome = .ok (some p) ∧
      bs.find? (o == ·.1) = some (k, p) := by
  induction h with
  | nil => cases ha
  | cons hp hbs ih =>
    rename_i k a' p r bs
    rw [Register.get?_cons] at ha
    rw [find?_branches_cons]
    by_cases hk : (k == o) = true
    · rw [if_pos hk] at ha
      cases ha
      exact ⟨k, p, hk, hp, if_pos hk⟩
    · rw [if_neg hk] at ha ⊢
      exact ih ha

theorem Realizes.find?_of_get?_eq_none {o : Opponent} {r : Register α} {bs : List (Opponent × Program)}
    (h : Realizes body r bs) (ha : r.get? (.opponent o) = none) : bs.find? (o == ·.1) = none := by
  induction h with
  | nil => rfl
  | cons hp hbs ih =>
    rename_i k a' p r bs
    rw [Register.get?_cons] at ha
    rw [find?_branches_cons]
    by_cases hk : (k == o) = true
    · rw [if_pos hk] at ha; cases ha
    · rw [if_neg hk] at ha ⊢
      exact ih ha

end

def wandererBranches (forced : Program) (ws : List Wanderer) : List (Opponent × Program) :=
  ws.map fun w => (w.monster, forced)

theorem addWanderers_eq (forced : Program) (ws : List Wanderer) :
    addWanderers forced ws = Program.ofBranches (wandererBranches forced ws) := by
  induction ws with
  | nil => rfl
  | cons w ws ih =>
    show Program.branch w.monster forced (addWanderers forced ws) = _
    rw [ih]
    rfl

theorem find?_wandererBranches (forced : Program) (ws : List Wanderer) (o : Opponent) :
    (ws.any (o == ·.monster) = true →
      ∃ k, (wandererBranches forced ws).find? (o == ·.1) = some (k, forced)) ∧
    (ws.any (o == ·.monster) = false → (wandererBranches forced ws).find? (o == ·.1) = none) := by
  induction ws with
  | nil => exact ⟨nofun, fun _ => rfl⟩
  | cons w ws ih =>
    rw [wandererBranches, List.map_cons, List.find?_cons, List.any_cons]
    cases o == w.monster with
    | true => exact ⟨fun _ => ⟨w.monster, rfl⟩, nofun⟩
    | false => exact ih

/-! ## The start -/

theorem start_eq_ok_iff {t : Tactics} {b : Playbook} {now : Situation} {e : Encounter} :
    (start t b now).outcome = .ok e ↔ ∃ forced p₁ p₂ last,
      (realize t now now.overrides .nobody (.intent .killHard)).outcome = .ok forced ∧
      (addBranches (fun _ program => pure program) b.programs (addWanderers forced now.wanderers)).outcome = .ok p₁ ∧
      (addBranches (fun s order => some <$> realize t now now.overrides s order) (openIntents b) p₁).outcome = .ok p₂ ∧
      (realize t now now.overrides .nobody b.defaultOrder).outcome = .ok last ∧
      e = ⟨t, now.overrides, p₂ ++ b.defaultProgram.getD .done ++ last⟩ := by
  unfold start
  constructor
  · intro h
    obtain ⟨forced, hforced, h⟩ := Run.outcome_bind_eq_ok.mp h
    obtain ⟨p₁, h₁, h⟩ := Run.outcome_bind_eq_ok.mp h
    obtain ⟨p₂, h₂, h⟩ := Run.outcome_bind_eq_ok.mp h
    obtain ⟨last, hlast, h⟩ := Run.outcome_bind_eq_ok.mp h
    exact ⟨forced, p₁, p₂, last, hforced, h₁, h₂, hlast, (Except.ok.inj h).symm⟩
  · rintro ⟨forced, p₁, p₂, last, hforced, h₁, h₂, hlast, rfl⟩
    refine Run.outcome_bind_eq_ok.mpr ⟨forced, hforced, ?_⟩
    refine Run.outcome_bind_eq_ok.mpr ⟨p₁, h₁, ?_⟩
    refine Run.outcome_bind_eq_ok.mpr ⟨p₂, h₂, ?_⟩
    exact Run.outcome_bind_eq_ok.mpr ⟨last, hlast, rfl⟩

theorem start_shape {t : Tactics} {b : Playbook} {now : Situation} {e : Encounter}
    (h : (start t b now).outcome = .ok e) : ∃ p, e = ⟨t, now.overrides, p⟩ := by
  obtain ⟨_, _, _, _, -, -, -, -, rfl⟩ := start_eq_ok_iff.mp h
  exact ⟨_, rfl⟩

theorem known_openIntents {b : Playbook} (hb : b.Known) : ∀ e ∈ openIntents b, ∃ o : Opponent, e.1 = .opponent o :=
  fun e he => hb.intents e (List.mem_filter.mp he).1

theorem start_eq_ok {t : Tactics} {b : Playbook} {now : Situation} {e : Encounter} (hb : b.Known)
    (h : (start t b now).outcome = .ok e) :
    ∃ forced own intended last,
      (realize t now now.overrides .nobody (.intent .killHard)).outcome = .ok forced ∧
      Realizes (fun _ program => pure program) b.programs own ∧
      Realizes (fun s order => some <$> realize t now now.overrides s order) (openIntents b) intended ∧
      (realize t now now.overrides .nobody b.defaultOrder).outcome = .ok last ∧
      e = ⟨t, now.overrides, Program.ofBranches (wandererBranches forced now.wanderers ++ own ++ intended) ++
        (b.defaultProgram.getD .done ++ last)⟩ := by
  obtain ⟨forced, p₁, p₂, last, hf, h₁, h₂, hl, rfl⟩ := start_eq_ok_iff.mp h
  obtain ⟨own, hown, rfl⟩ := addBranches_eq_ok hb.programs h₁
  obtain ⟨intended, hint, rfl⟩ := addBranches_eq_ok (known_openIntents hb) h₂
  refine ⟨forced, own, intended, last, hf, hown, hint, hl, ?_⟩
  rw [addWanderers_eq, ← Program.ofBranches_append, ← Program.ofBranches_append, Program.append_assoc]

theorem get?_openIntents {b : Playbook} {o : Opponent} (ho : b.programs.get? (.opponent o) = none) :
    Register.get? (.opponent o) (openIntents b) = b.intents.get? (.opponent o) := by
  have hnot : (!b.programs.has (.opponent o)) = true := by
    unfold Register.has
    rw [ho]; rfl
  exact Register.get?_filter (fun s => !b.programs.has s) hnot
    (fun k hk => by rw [Register.has_congr hk]) b.intents

theorem exists_gives {t : Tactics} {b : Playbook} {now : Situation} {e : Encounter} (hb : b.Known)
    (h : (start t b now).outcome = .ok e) (o? : Option Opponent) :
    ∃ p, (tier b now.wanderers o?).Gives t now o? p ∧ e.select o? = p.select o? := by
  obtain ⟨forced, own, intended, last, hf, hown, hint, hl, rfl⟩ := start_eq_ok hb h
  have hstand : (Tier.standing b.defaultProgram b.defaultOrder).Gives t now o?
      (b.defaultProgram.getD .done ++ last) := ⟨last, hl, rfl⟩
  cases o? with
  | none => exact ⟨_, hstand, Program.select_none_ofBranches_append _ _⟩
  | some o =>
    show ∃ p, _ ∧ Program.select (some o) (_ ++ _) = _
    rw [Program.select_ofBranches_append, List.find?_append, List.find?_append, tier]
    obtain ⟨hyes, hno⟩ := find?_wandererBranches forced now.wanderers o
    cases hw : now.wanderers.any (o == ·.monster) with
    | true =>
      obtain ⟨k, hk⟩ := hyes hw
      rw [hk]
      exact ⟨forced, hf, rfl⟩
    | false =>
      rw [hno hw, Option.none_or]
      cases hp : b.programs.get? (.opponent o) with
      | some program =>
        obtain ⟨k, p, -, hbody, hfind⟩ := hown.find?_of_get? hp
        rw [hfind]
        exact ⟨p, Except.ok.inj hbody, rfl⟩
      | none =>
        have hopen := get?_openIntents hp
        rw [hown.find?_of_get?_eq_none hp, Option.none_or]
        cases hi : b.intents.get? (.opponent o) with
        | some order =>
          obtain ⟨k, p, hk, hbody, hfind⟩ := hint.find?_of_get? (hopen.trans hi)
          rw [hfind]
          obtain ⟨p', hp', hsome⟩ := Run.outcome_map_eq_ok.mp hbody
          cases hsome
          -- the entry is for an equal opponent, and so is what it was realized for
          rw [realize_outcome_congr t now now.overrides hk] at hp'
          exact ⟨p, ⟨o, rfl, hp'⟩, rfl⟩
        | none =>
          rw [hint.find?_of_get?_eq_none (hopen.trans hi)]
          exact ⟨_, hstand, rfl⟩

/-- **Priorities.** Against `o?` an encounter begins with what the tier of `o?` gives. Nothing else in the
playbook or among the wanderers makes a difference. -/
theorem select_start (t : Tactics) (b : Playbook) (now : Situation) (e : Encounter) (hb : b.Known)
    (h : (start t b now).outcome = .ok e) (o? : Option Opponent) :
    (∃ p, (tier b now.wanderers o?).Gives t now o? p ∧ e.select o? = p.select o?) ∧
      ∀ (b' : Playbook) (ws : List Wanderer) (e' : Encounter), b'.Known →
        (start t b' { now with wanderers := ws }).outcome = .ok e' →
        tier b' ws o? = tier b now.wanderers o? → e'.select o? = e.select o? := by
  obtain ⟨p, hp, he⟩ := exists_gives hb h o?
  refine ⟨⟨p, hp, he⟩, ?_⟩
  intro b' ws e' hb' h' htier
  obtain ⟨p', hp', he'⟩ := exists_gives hb' h' o?
  rw [Tier.gives_wanderers, htier] at hp'
  rw [he, he', hp.unique hp']

theorem select_start_bat :
    let t : Tactics := { openers := [], debuffs := [] }
    let ghost : Opponent := { name := "ghost", monsterId := some 3 }
    let bat : Opponent := { name := "bat", monsterId := some 7 }
    let imp : Opponent := { name := "imp" }
    let b : Playbook := {
      defaultOrder := .intent .abort
      defaultProgram := some (.branch imp (.step .runaway .done) (.step .attack .done))
      intents := [(.opponent bat, .intent .abort), (.opponent imp, .intent .abort)]
      programs := [(.opponent ghost, some .done), (.opponent bat, some .done)] }
    let now : Situation := { wanderers := [⟨"a", ghost⟩, ⟨"b", ghost⟩] }
    ∃ e, b.Known ∧ (start t b now).outcome = .ok e ∧
      e.select (some ghost) = [.use .skill "Lunging Thrust-Smack", .again] ∧
      e.select (some bat) = [] ∧ e.select (some imp) = [.abort] ∧ e.select none = [.attack, .abort] ∧
      ∃ e', (start t { b with programs := [] } { now with wanderers := [] }).outcome = .ok e' ∧
        e'.select (some imp) = e.select (some imp) := by
  intro t ghost bat imp b now
  have hb : b.Known := ⟨by simp [b], by simp [b]⟩
  have hb' : Playbook.Known { b with programs := [] } := ⟨hb.intents, nofun⟩
  have hok : (start t b now).outcome.isOk = true := by decide
  have hok' : (start t { b with programs := [] } { now with wanderers := [] }).outcome.isOk = true := by decide
  have hforced : (realize t now now.overrides .nobody (.intent .killHard)).outcome.toOption.map
      (·.select (some ghost)) = some [.use .skill "Lunging Thrust-Smack", .again] := by decide
  have hsame : (bat == bat) = true ∧ (imp == imp) = true ∧ (ghost == ghost) = true := by decide
  have hdiff : (ghost == bat) = false ∧ (bat == ghost) = false ∧ (ghost == imp) = false ∧
      (imp == ghost) = false ∧ (bat == imp) = false := by decide
  have hghost : tier b now.wanderers (some ghost) = .forced := by
    simp [tier, now, hsame]
  have hbat : tier b now.wanderers (some bat) = .own (some .done) := by
    simp [tier, now, b, Register.get?_cons, hsame, hdiff]
  have himp : tier b now.wanderers (some imp) = .intended (.intent .abort) := by
    simp [tier, now, b, Register.get?_cons, Register.get?_nil, hsame, hdiff]
  have himp' : tier { b with programs := [] } [] (some imp) = .intended (.intent .abort) := by
    simp [tier, b, Register.get?_cons, Register.get?_nil, hsame, hdiff]
  cases h : (start t b now).outcome with
  | error f => rw [h] at hok; cases hok
  | ok e =>
    cases h' : (start t { b with programs := [] } { now with wanderers := [] }).outcome with
    | error f => rw [h'] at hok'; cases hok'
    | ok e' =>
      obtain ⟨⟨p, hp, hforced'⟩, -⟩ := select_start t b now e hb h (some ghost)
      obtain ⟨⟨q, hq, hown⟩, -⟩ := select_start t b now e hb h (some bat)
      obtain ⟨⟨r, hr, hintended⟩, hothers⟩ := select_start t b now e hb h (some imp)
      obtain ⟨⟨s, ⟨last, hlast, rfl⟩, hstanding⟩, -⟩ := select_start t b now e hb h none
      rw [hghost] at hp
      rw [hbat] at hq
      rw [himp] at hr
      obtain ⟨_, _, hr⟩ := hr
      change (realize t now now.overrides .nobody (.intent .killHard)).outcome = .ok p at hp
      rw [hp] at hforced
      cases Option.some.inj hq
      cases Except.ok.inj hr
      cases Except.ok.inj hlast
      exact ⟨e, hb, rfl, hforced'.trans (Option.some.inj hforced), hown, hintended, hstanding, e', rfl,
        hothers _ [] e' hb' h' (himp'.trans himp.symm)⟩

end Encounter
end CombatPlan
