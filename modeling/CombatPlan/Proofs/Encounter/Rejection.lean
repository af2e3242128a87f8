import CombatPlan.Proofs.Encounter.Priority
import CombatPlan.Proofs.Outcome
import CombatPlan.Proofs.Realization.Readiness
import CombatPlan.Proofs.Settings.Acceptance

/-!
# Playbooks that are rejected

A start fails with the first fault that it comes to (`fault?_start`). With tactics that are ready only orders that are
none make it fail (`fault?_start_of_ready`), and it never comes to those for whoever has a program of their own.
-/

namespace CombatPlan

def Order.stray? : Order → Option Datum
  | data d => some d
  | _ => none

theorem Order.stray?_eq_some_iff {order : Order} {d : Datum} : order.stray? = some d ↔ order = .data d := by
  cases order <;> simp [stray?]

theorem findSome?_congr {α β : Type} {f g : α → Option β} : ∀ {l : List α}, (∀ a ∈ l, f a = g a) →
    l.findSome? f = l.findSome? g
  | [], _ => rfl
  | a :: l, h => by
    obtain ⟨ha, hl⟩ := List.forall_mem_cons.mp h
    rw [List.findSome?_cons, List.findSome?_cons, ha, findSome?_congr hl]

namespace Run

variable {α β : Type}

theorem fault?_bind {x : Run α} {f : α → Run β} (e? : Option Failure) (h : ∀ a, fault? (f a).outcome = e?) :
    fault? (x >>= f).outcome = (fault? x.outcome).or e? := by
  rw [bind_outcome]
  exact CombatPlan.fault?_bind e? h

end Run

theorem fault?_realize {t : Tactics} (ht : t.Valid) (h : "" ∉ t.openers) (now : Situation) (overrides : Overrides)
    (o? : Option Opponent) (order : Order) :
    fault? (realize t now overrides (.of o?) order).outcome = order.stray?.map fun d => .notAnOrder d.className := by
  cases order with
  | program p => rfl
  | data d => rfl
  | intent i => exact fault?_eq_none_iff.mpr (realizeIntent_ok ht now overrides o? h i)

namespace Encounter

/-! ## How a start fails -/

def bodyFault? (x : Run (Option Program)) : Option Failure :=
  match x.outcome with
  | .error f => some f
  | .ok none => some (.invalid ⟨"Branch", [⟨[.field "body"], .notRecord "Program"⟩]⟩)
  | .ok (some _) => none

theorem bodyFault?_map (x : Run Program) : bodyFault? (some <$> x) = fault? x.outcome := by
  obtain ⟨es, f | p⟩ := x <;> rfl

theorem bodyFault?_pure_eq_none_iff (program : Option Program) : bodyFault? (pure program) = none ↔ program ≠ none := by
  cases program <;> simp [bodyFault?]

theorem fault?_addBranches {α : Type} {body : Subject → α → Run (Option Program)} : ∀ {r : Register α} (p : Program),
    (∀ e ∈ r, ∃ o : Opponent, e.1 = .opponent o) →
      fault? (addBranches body r p).outcome = r.findSome? fun e => bodyFault? (body e.1 e.2)
  | [], _, _ => rfl
  | (s, a) :: r, p, hr => by
    rw [List.forall_mem_cons] at hr
    obtain ⟨⟨o, rfl⟩, hr⟩ := hr
    unfold addBranches bodyFault?
    rw [Run.bind_outcome, List.findSome?_cons]
    cases (body (.opponent o) a).outcome with
    | error f => rfl
    | ok b? =>
      cases b? with
      | none => rfl
      | some b => exact fault?_addBranches (p ++ .ofBranch o b) hr

theorem fault?_start {t : Tactics} {b : Playbook} {now : Situation} (hb : b.Known) :
    fault? (start t b now).outcome =
      (fault? (realize t now now.overrides .nobody (.intent .killHard)).outcome).or
        ((b.programs.findSome? fun e => bodyFault? (pure e.2)).or
          (((openIntents b).findSome? fun e => fault? (realize t now now.overrides e.1 e.2).outcome).or
            (fault? (realize t now now.overrides .nobody b.defaultOrder).outcome))) := by
  have hown : ∀ p, fault? (addBranches (fun _ program => pure program) b.programs p).outcome =
      b.programs.findSome? fun e => bodyFault? (pure e.2) := fun p => fault?_addBranches p hb.programs
  have hintended : ∀ p, fault? (addBranches (fun s order => some <$> realize t now now.overrides s order)
      (openIntents b) p).outcome =
        (openIntents b).findSome? fun e => fault? (realize t now now.overrides e.1 e.2).outcome := by
    intro p
    rw [fault?_addBranches p (known_openIntents hb)]
    exact findSome?_congr fun e _ => bodyFault?_map _
  unfold start
  refine Run.fault?_bind _ fun forced => ?_
  rw [← hown (addWanderers forced now.wanderers)]
  refine Run.fault?_bind _ fun p₁ => ?_
  rw [← hintended p₁]
  refine Run.fault?_bind _ fun p₂ => ?_
  exact (Run.fault?_bind none fun last => rfl).trans Option.or_none

theorem start_ok_iff {t : Tactics} {b : Playbook} {now : Situation} (hb : b.Known) :
    (∃ e, (start t b now).outcome = .ok e) ↔
      (∃ p, (realize t now now.overrides .nobody (.intent .killHard)).outcome = .ok p) ∧
      (∀ e ∈ b.programs, e.2 ≠ none) ∧
      (∀ e ∈ openIntents b, ∃ p, (realize t now now.overrides e.1 e.2).outcome = .ok p) ∧
      ∃ p, (realize t now now.overrides .nobody b.defaultOrder).outcome = .ok p := by
  rw [← fault?_eq_none_iff, fault?_start hb]
  simp only [Option.or_eq_none_iff, List.findSome?_eq_none_iff, bodyFault?_pure_eq_none_iff, fault?_eq_none_iff]

/-! ## Orders that are none -/

/-- The first of the orders that a start realizes which is none: that of someone without a program of its own, or the
default one. -/
def stray? (b : Playbook) : Option Datum :=
  ((openIntents b).findSome? (·.2.stray?)).or b.defaultOrder.stray?

theorem fault?_start_of_ready {t : Tactics} (ht : t.Valid) (h : "" ∉ t.openers) {b : Playbook} (hb : b.Known)
    (hprograms : ∀ e ∈ b.programs, e.2 ≠ none) (now : Situation) :
    fault? (start t b now).outcome = (stray? b).map fun d => .notAnOrder d.className := by
  have hforced : fault? (realize t now now.overrides .nobody (.intent .killHard)).outcome = none :=
    fault?_realize ht h now now.overrides none _
  have hown : (b.programs.findSome? fun e => bodyFault? (pure e.2)) = none := by
    rw [List.findSome?_eq_none_iff]
    intro e he
    exact (bodyFault?_pure_eq_none_iff e.2).mpr (hprograms e he)
  have hintended : ((openIntents b).findSome? fun e => fault? (realize t now now.overrides e.1 e.2).outcome) =
      ((openIntents b).findSome? (·.2.stray?)).map fun d => .notAnOrder d.className := by
    rw [List.map_findSome?]
    refine findSome?_congr fun e he => ?_
    obtain ⟨o, ho⟩ := known_openIntents hb e he
    rw [ho]
    exact fault?_realize ht h now now.overrides (some o) e.2
  have hlast : fault? (realize t now now.overrides .nobody b.defaultOrder).outcome =
      b.defaultOrder.stray?.map fun d => .notAnOrder d.className := fault?_realize ht h now now.overrides none _
  rw [fault?_start hb, hforced, hown, hintended, hlast, Option.none_or, Option.none_or, stray?, Option.map_or]

/-! ## Which order is the first -/

theorem stray?_isSome_iff (b : Playbook) : (stray? b).isSome = true ↔
    (∃ d, b.defaultOrder = .data d) ∨ ∃ s d, (s, .data d) ∈ b.intents ∧ b.programs.has s = false := by
  unfold stray?
  rw [Option.isSome_or, Bool.or_eq_true, or_comm, List.findSome?_isSome_iff]
  simp only [Option.isSome_iff_exists, Order.stray?_eq_some_iff]
  refine or_congr_right ?_
  constructor
  · rintro ⟨⟨s, _⟩, he, d, rfl⟩
    obtain ⟨hmem, hhas⟩ := List.mem_filter.mp he
    exact ⟨s, d, hmem, by simpa using hhas⟩
  · rintro ⟨s, d, hmem, hhas⟩
    exact ⟨(s, .data d), List.mem_filter.mpr ⟨hmem, by simp [hhas]⟩, d, rfl⟩

theorem findSome?_stray?_eq_none {b : Playbook} {r : Register Order}
    (h : ∀ s d, (s, .data d) ∈ r → b.programs.has s = true) :
    (r.filter fun e => !b.programs.has e.1).findSome? (·.2.stray?) = none := by
  rw [List.findSome?_eq_none_iff]
  rintro ⟨s, order⟩ he
  obtain ⟨hmem, hhas⟩ := List.mem_filter.mp he
  rw [Option.eq_none_iff_forall_ne_some]
  intro d hd
  cases Order.stray?_eq_some_iff.mp hd
  rw [h s d hmem] at hhas
  cases hhas

theorem stray?_of_intent {b : Playbook} {before after : Register Order} {s : Subject} {d : Datum}
    (hsplit : b.intents = before ++ (s, .data d) :: after) (hs : b.programs.has s = false)
    (hbefore : ∀ s' d', (s', .data d') ∈ before → b.programs.has s' = true) : stray? b = some d := by
  have hnone := findSome?_stray?_eq_none hbefore
  unfold stray? openIntents
  rw [hsplit, List.filter_append, List.findSome?_append, hnone, List.filter_cons_of_pos (by simp [hs])]
  rfl

theorem stray?_of_default {b : Playbook} {d : Datum} (hd : b.defaultOrder = .data d)
    (hintents : ∀ s' d', (s', .data d') ∈ b.intents → b.programs.has s' = true) : stray? b = some d := by
  have hnone := findSome?_stray?_eq_none hintents
  unfold stray? openIntents
  rw [hnone, hd]
  rfl

/-! ## Orders that are never realized -/

theorem filter_eq_of_forall₂ (keep : Subject → Bool) {r r' : Register Order}
    (h : List.Forall₂ (fun e e' => e'.1 = e.1 ∧ (keep e.1 = true → e'.2 = e.2)) r r') :
    (r'.filter fun e => keep e.1) = r.filter fun e => keep e.1 := by
  induction h with
  | nil => rfl
  | @cons e e' r r' he _ ih =>
    obtain ⟨hkey, horder⟩ := he
    rw [List.filter_cons, List.filter_cons, hkey, ih]
    by_cases hkeep : keep e.1 = true
    · have hentry : e' = e := Prod.ext hkey (horder hkeep)
      rw [if_pos hkeep, if_pos hkeep, hentry]
    · rw [if_neg hkeep, if_neg hkeep]

/-- **Rejection.** A start fails exactly if an order that it realizes is neither an intent nor a program, and it tells the
type of the first of them. What is recorded for those with a program of their own makes no difference. -/
theorem start_stray (t : Tactics) (ht : t.Valid) (hopening : ∃ steps, t.opening = .ok steps) (b : Playbook)
    (hb : b.Known) (hprograms : ∀ e ∈ b.programs, e.2 ≠ none) (now : Situation) :
    ((∃ f, (start t b now).outcome = .error f) ↔
      (∃ d, b.defaultOrder = .data d) ∨ ∃ s d, (s, .data d) ∈ b.intents ∧ b.programs.has s = false) ∧
    (∀ before s d after, b.intents = before ++ (s, .data d) :: after → b.programs.has s = false →
      (∀ s' d', (s', .data d') ∈ before → b.programs.has s' = true) →
        (start t b now).outcome = .error (.notAnOrder d.className)) ∧
    (∀ d, b.defaultOrder = .data d → (∀ s' d', (s', .data d') ∈ b.intents → b.programs.has s' = true) →
      (start t b now).outcome = .error (.notAnOrder d.className)) ∧
    (∀ d : Datum, (Failure.notAnOrder d.className).message = "Cannot compile " ++ d.className ++ " into a combat program") ∧
    ∀ intents : Register Order,
      List.Forall₂ (fun e e' => e'.1 = e.1 ∧ (b.programs.has e.1 = false → e'.2 = e.2)) b.intents intents →
        start t { b with intents } now = start t b now := by
  have hnamed : "" ∉ t.openers := by
    intro hempty
    obtain ⟨steps, hsteps⟩ := hopening
    rw [Tactics.opening_of_valid ht, if_pos hempty] at hsteps
    cases hsteps
  have hstart := fault?_start_of_ready ht hnamed hb hprograms now
  refine ⟨?_, ?_, ?_, fun d => rfl, ?_⟩
  · rw [← fault?_isSome_iff, hstart, Option.isSome_map]
    exact stray?_isSome_iff b
  · intro before s d after hsplit hs hbefore
    rw [stray?_of_intent hsplit hs hbefore] at hstart
    exact fault?_eq_some_iff.mp hstart
  · intro d hd hintents
    rw [stray?_of_default hd hintents] at hstart
    exact fault?_eq_some_iff.mp hstart
  · intro intents hsame
    have hopen : openIntents { b with intents } = openIntents b := by
      refine filter_eq_of_forall₂ (fun s => !b.programs.has s) (hsame.imp ?_)
      rintro e e' ⟨hkey, horder⟩
      exact ⟨hkey, fun hkeep => horder (by simpa using hkeep)⟩
    unfold start
    rw [hopen]

theorem start_stray_imp :
    let t : Tactics := {}
    let bat : Subject := .opponent { name := "bat" }
    let ghost : Subject := .opponent { name := "ghost" }
    let imp : Subject := .opponent { name := "imp" }
    let today : Datum := .scalar (.date ⟨2024, 2, 29⟩)
    let b : Playbook := {
      defaultOrder := .data (.text "flee")
      intents := [(bat, .data (.text "kill")), (ghost, .intent .abort), (imp, .data today)]
      programs := [(bat, some .done)] }
    let spared : Playbook := { b with intents := [(bat, .data (.text "kill")), (ghost, .intent .abort)] }
    t.Valid ∧ (∃ steps, t.opening = .ok steps) ∧ b.Known ∧ spared.Known ∧ (∀ e ∈ b.programs, e.2 ≠ none) ∧
      (∃ f, (start t b {}).outcome = .error f) ∧ (start t b {}).outcome = .error (.notAnOrder "date") ∧
      start t { spared with intents := [(bat, .data .null), (ghost, .intent .abort)] } {} = start t spared {} ∧
      (start t spared {}).outcome = .error (.notAnOrder "str") := by
  intro t bat ghost imp today b spared
  have ht : t.Valid := Tactics.valid_default
  have hopening : ∃ steps, t.opening = .ok steps := ⟨_, Tactics.opening_of_valid ht⟩
  have hb : b.Known := ⟨by simp [b, bat, ghost, imp], by simp [b, bat]⟩
  have hspared : spared.Known := ⟨by simp [spared, bat, ghost], hb.programs⟩
  have hprograms : ∀ e ∈ b.programs, e.2 ≠ none := by simp [b]
  have hhas : b.programs.has bat = true ∧ b.programs.has ghost = false ∧ b.programs.has imp = false := by decide
  have hfirst : ∀ s' d', (s', .data d') ∈ spared.intents → b.programs.has s' = true := by
    intro s' d' h
    simp only [spared, List.mem_cons, Prod.mk.injEq, List.not_mem_nil, reduceCtorEq, and_false, or_false] at h
    rw [h.1]
    exact hhas.1
  have hsame : List.Forall₂ (fun e e' => e'.1 = e.1 ∧ (b.programs.has e.1 = false → e'.2 = e.2)) spared.intents
      [(bat, .data .null), (ghost, .intent .abort)] := by
    refine .cons ⟨rfl, fun h => ?_⟩ (.cons ⟨rfl, fun _ => rfl⟩ .nil)
    rw [hhas.1] at h
    cases h
  obtain ⟨hiff, hintent, -⟩ := start_stray t ht hopening b hb hprograms {}
  obtain ⟨-, -, hdefault, -, hnever⟩ := start_stray t ht hopening spared hspared hprograms {}
  have hfails := hiff.mpr (.inl ⟨_, rfl⟩)
  have himp := hintent spared.intents imp today [] rfl hhas.2.2 hfirst
  exact ⟨ht, hopening, hb, hspared, hprograms, hfails, himp, hnever _ hsame, hdefault _ rfl hfirst⟩

end Encounter
end CombatPlan
