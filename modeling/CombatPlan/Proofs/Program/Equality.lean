import CombatPlan.Macro.Statement
import CombatPlan.Proofs.Playbook.History
import CombatPlan.Proofs.Program.PlainForm
import CombatPlan.Proofs.Program.Sequence

/-!
# Equal programs

Two programs are equal if they are the same node by node, with equal targets and equal bodies (`beq_iff_equal`). This is
carried along by all that is done to programs. In a playbook the entries of equal opponents are one entry
(`oneEntry_of_beq`).
-/

namespace CombatPlan

open Schema

namespace Program

/-- The same steps and branches in the same places. Of two targets one may have a zero where the other has the negative
one. -/
inductive Equal : Program → Program → Prop
  | done : Equal done done
  | step (s : Step) {rest rest' : Program} : Equal rest rest' → Equal (step s rest) (step s rest')
  | branch {t t' : Opponent} {body body' rest rest' : Program} :
      (t == t') = true → Equal body body' → Equal rest rest' → Equal (branch t body rest) (branch t' body' rest')

theorem beq_iff_equal : ∀ {p q : Program}, (p == q) = true ↔ Equal p q
  | done, done => iff_of_true rfl .done
  | step s p, step s' q => by
    show (s == s' && p == q) = true ↔ _
    rw [Bool.and_eq_true, beq_iff_eq, beq_iff_equal]
    constructor
    · rintro ⟨rfl, h⟩
      exact .step s h
    · intro h
      cases h with
      | step _ h => exact ⟨rfl, h⟩
  | branch t b p, branch t' b' q => by
    show (t == t' && b == b' && p == q) = true ↔ _
    rw [Bool.and_eq_true, Bool.and_eq_true, beq_iff_equal, beq_iff_equal]
    constructor
    · rintro ⟨⟨ht, hb⟩, h⟩
      exact .branch ht hb h
    · intro h
      cases h with
      | branch ht hb h => exact ⟨⟨ht, hb⟩, h⟩
  | done, step .. | done, branch .. | step .., done | step .., branch .. | branch .., done | branch .., step .. =>
    iff_of_false nofun nofun

namespace Equal

variable {p q r b c : Program}

theorem symm (h : Equal p q) : Equal q p := by
  induction h with
  | done => exact .done
  | step s _ ih => exact .step s ih
  | branch ht _ _ ihbody ihrest => exact .branch (PartialEquivBEq.symm ht) ihbody ihrest

theorem trans (h : Equal p q) : Equal q r → Equal p r := by
  induction h generalizing r with
  | done => exact id
  | step s _ ih =>
    intro h'
    cases h' with
    | step _ h' => exact .step s (ih h')
  | branch ht _ _ ihbody ihrest =>
    intro h'
    cases h' with
    | branch ht' hbody' hrest' => exact .branch (PartialEquivBEq.trans ht ht') (ihbody hbody') (ihrest hrest')

theorem append (h : Equal p q) (hb : Equal b c) : Equal (p ++ b) (q ++ c) := by
  induction h with
  | done => exact hb
  | step s _ ih => exact .step s ih
  | branch ht hbody _ _ ihrest => exact .branch ht hbody ihrest

theorem select_eq (h : Equal p q) {o? o'? : Option Opponent} (ho : (o? == o'?) = true) : p.select o? = q.select o'? := by
  induction h with
  | done => rfl
  | step s _ ih => simp only [select, ih]
  | branch ht _ _ ihbody ihrest =>
    simp only [select, ihbody, ihrest, Opponent.any_beq_congr_left ho, Opponent.any_beq_congr_right ht]

end Equal
end Program

theorem Opponent.mark_congr {t t' : Opponent} (h : (t == t') = true) : t.mark = t'.mark := by
  obtain ⟨hname, hid, -, -⟩ := beq_iff.mp h
  rw [mark, mark, hname, hid]

namespace Program

theorem Equal.statements_eq {p q : Program} (h : Equal p q) : p.statements = q.statements := by
  induction h with
  | done => rfl
  | step s _ ih => simp only [statements, ih]
  | branch ht _ _ ihbody ihrest => simp only [statements, ihbody, ihrest, Opponent.mark_congr ht]

instance : PartialEquivBEq Program where
  symm h := beq_iff_equal.mpr (beq_iff_equal.mp h).symm
  trans h h' := beq_iff_equal.mpr ((beq_iff_equal.mp h).trans (beq_iff_equal.mp h'))

/-! ## Building -/

def BuiltEqual (x y : Except Report Program) : Prop :=
  ∃ p q, x = .ok p ∧ y = .ok q ∧ (p == q) = true

theorem extend_programs (p : Program) (bs : List Program) :
    p.extend (bs.map .program) = .ok (p ++ bs.foldr (· ++ ·) done) := by
  have hparts : ∀ bs : List Program, Part.programs? (bs.map .program) = some (bs.foldr (· ++ ·) done) := by
    intro bs
    induction bs with
    | nil => rfl
    | cons b bs ih =>
      rw [List.map_cons, Part.programs?, ih]
      rfl
  exact extend_eq_ok_iff.mpr ⟨_, hparts bs, rfl⟩

theorem equal_foldr {bs cs : List Program} (h : List.Forall₂ (fun b c => (b == c) = true) bs cs) :
    Equal (bs.foldr (· ++ ·) done) (cs.foldr (· ++ ·) done) := by
  induction h with
  | nil => exact .done
  | cons hb _ ih => exact (beq_iff_equal.mp hb).append ih

structure Interchangeable (p q : Program) : Prop where
  select : ∀ o? o'? : Option Opponent, (o? == o'?) = true → p.select o? = q.select o'?
  toMacro : p.toMacro = q.toMacro
  addBranch : ∀ (b c : Program) (o o' : Opponent), (b == c) = true → (o == o') = true →
    BuiltEqual (p.addBranch (.opponent o) (some b)) (q.addBranch (.opponent o') (some c))
  prepend : ∀ (b c : Program) (o o' : Opponent), (b == c) = true → (o == o') = true →
    BuiltEqual (p.prepend (.opponent o) (some b)) (q.prepend (.opponent o') (some c))
  extend : ∀ bs cs : List Program, List.Forall₂ (fun b c => (b == c) = true) bs cs →
    BuiltEqual (p.extend (bs.map .program)) (q.extend (cs.map .program))

theorem interchangeable_of_beq {p q : Program} (h : (p == q) = true) : Interchangeable p q := by
  have h := beq_iff_equal.mp h
  refine ⟨?_, ?_, ?_, ?_, ?_⟩
  · exact fun o? o'? ho => h.select_eq ho
  · rw [toMacro, toMacro, h.statements_eq]
  · intro b c o o' hb ho
    refine ⟨_, _, rfl, rfl, beq_iff_equal.mpr ?_⟩
    exact h.append (.branch ho (beq_iff_equal.mp hb) .done)
  · intro b c o o' hb ho
    exact ⟨_, _, rfl, rfl, beq_iff_equal.mpr (.branch ho (beq_iff_equal.mp hb) h)⟩
  · intro bs cs hbs
    exact ⟨_, _, extend_programs p bs, extend_programs q cs, beq_iff_equal.mpr (h.append (equal_foldr hbs))⟩

end Program

/-! ## Playbooks -/

namespace Playbook

structure OneEntry (o o' : Opponent) : Prop where
  order : ∀ (b : Playbook) (x y : Order),
    ((b.call (.order x [.opponent o])).1.call (.order y [.opponent o'])).1 = (b.call (.order y [.opponent o])).1
  prescribe : ∀ (b : Playbook) (x y : Option Program),
    ((b.call (.prescribe x [.opponent o])).1.call (.prescribe y [.opponent o'])).1 =
      (b.call (.prescribe y [.opponent o])).1
  intents : ∀ (boss : Bool) (calls : List Call), (∀ c ∈ calls, c.OfOpponents) →
    let intents := (({ boss } : Playbook).callAll calls).intents
    let last := Call.last Call.ordered? (fun c => c.lists o || c.lists o') calls
    intents.get? (.opponent o) = last ∧ intents.get? (.opponent o') = last
  programs : ∀ (boss : Bool) (calls : List Call), (∀ c ∈ calls, c.OfOpponents) →
    let programs := (({ boss } : Playbook).callAll calls).programs
    let last := Call.last Call.prescribed? (fun c => c.lists o || c.lists o') calls
    programs.get? (.opponent o) = last ∧ programs.get? (.opponent o') = last

theorem get?_of_records {α : Type} {f : Call → Option α} {calls : List Call} {r : Register α}
    (hr : Register.Records f calls r) {o o' : Opponent} (h : (o == o') = true) :
    r.get? (.opponent o) = Call.last f (fun c => c.lists o || c.lists o') calls ∧
      r.get? (.opponent o') = Call.last f (fun c => c.lists o || c.lists o') calls := by
  have hlists : ∀ c : Call, (c.lists o || c.lists o') = c.lists o := by
    intro c
    rw [Call.lists_congr h c, Bool.or_self]
  have hget : r.get? (.opponent o) = Call.last f (fun c => c.lists o || c.lists o') calls := by
    rw [hr.get?, Call.last_congr f hlists]
  exact ⟨hget, (Register.get?_congr h r).symm.trans hget⟩

theorem oneEntry_of_beq {o o' : Opponent} (h : (o == o') = true) : OneEntry o o' where
  order b x y := congrArg (fun intents => { b with intents }) (Register.put_put h x y b.intents)
  prescribe b x y := congrArg (fun programs => { b with programs }) (Register.put_put h x y b.programs)
  intents boss _ hcalls := get?_of_records (records_ordered boss hcalls) h
  programs boss _ hcalls := get?_of_records (records_prescribed boss hcalls) h

end Playbook

/-! ## Equality by value -/

open Playbook (Call)

/-- **Equality.** Equality of valid opponents and of valid programs is an equivalence, by value up to the sign of zeros, and
all that is selected, built, written or looked up respects it. -/
theorem equality_respected :
    Equivalence (fun a b : { o : Opponent // o.Valid } => (a.1 == b.1) = true) ∧
    Equivalence (fun p q : { p : Program // p.Valid } => (p.1 == q.1) = true) ∧
    (∀ a b : Opponent, a.Valid → b.Valid → ((a == b) = true ↔ a.name = b.name ∧ a.monsterId = b.monsterId ∧
      Number.Alike a.defense b.defense ∧ Number.Alike a.resistance b.resistance)) ∧
    (∀ p q : Program, (p == q) = true ↔ p.Equal q) ∧
    (∀ p q : Program, (p == q) = true → p.Interchangeable q) ∧
    ∀ o o' : Opponent, (o == o') = true → Playbook.OneEntry o o' := by
  refine ⟨?_, ?_, ?_, ?_, ?_, ?_⟩
  · exact ⟨fun a => a.2.beq_self, PartialEquivBEq.symm, PartialEquivBEq.trans⟩
  · exact ⟨fun p => p.2.beq_self, PartialEquivBEq.symm, PartialEquivBEq.trans⟩
  · exact fun a b ha hb => ha.beq_iff_alike hb
  · exact fun p q => Program.beq_iff_equal
  · exact fun p q => Program.interchangeable_of_beq
  · exact fun o o' => Playbook.oneEntry_of_beq

theorem equality_respected_zero :
    let bat : Opponent := { name := "bat" }
    let bat' : Opponent := { name := "bat", defense := -0 }
    let p : Program := .step .attack (.branch bat (.branch bat (.ofStep .abort) .done) (.ofStep .runaway))
    let q : Program := .step .attack (.branch bat' (.branch bat (.ofStep .abort) .done) (.ofStep .runaway))
    let calls : List Call := [.order (.intent .abort) [.opponent bat], .order (.intent .runAway) [.opponent bat']]
    (bat.Valid ∧ bat'.Valid) ∧ bat.defense ≠ bat'.defense ∧ (bat == bat') = true ∧ (p == q) = true ∧
      p.Interchangeable q ∧ q.select (some bat) = [.attack, .abort] ∧
      (({} : Playbook).callAll calls).intents.get? (.opponent bat) = some (.intent .runAway) := by
  intro bat bat' p q calls
  have hbat : bat.Valid := Opponent.valid_harmless (by decide) (by decide)
  have hbat' : bat'.Valid := ⟨hbat.name_ne, hbat.name_safe, by decide, hbat.resistance_nonneg, hbat.resistance_le⟩
  obtain ⟨-, hprograms, halike, hequal, hinterchangeable, hentry⟩ := equality_respected
  have hbeq : (bat == bat') = true :=
    (halike bat bat' hbat hbat').mpr ⟨rfl, rfl, .inr (.inl ⟨rfl, rfl⟩), .inl rfl⟩
  have hbody : (Program.branch bat (.ofStep .abort) .done).Valid := ⟨hbat, ⟨by decide, trivial⟩, trivial⟩
  have hpq : (p == q) = true :=
    (hequal p q).mpr (.step .attack (.branch hbeq ((hequal _ _).mp (hprograms.refl ⟨_, hbody⟩)) (.step .runaway .done)))
  have hcalls : ∀ c ∈ calls, c.OfOpponents := by
    simp [calls, Call.OfOpponents, Call.subjects]
  have hlast : Call.last Call.ordered? (fun c => c.lists bat || c.lists bat') calls = some (.intent .runAway) := by
    simp [calls, Call.last_cons, Call.last_nil, Call.lists, Call.opponents, Call.subjects, Subject.opponent?, Call.ordered?,
      hbat'.beq_self]
  refine ⟨⟨hbat, hbat'⟩, by decide, hbeq, hpq, hinterchangeable p q hpq, ?_, ?_⟩
  · rw [← (hinterchangeable p q hpq).select (some bat) (some bat) hbat.beq_self]
    decide
  · rw [((hentry bat bat' hbeq).intents false calls hcalls).1, hlast]

end CombatPlan
