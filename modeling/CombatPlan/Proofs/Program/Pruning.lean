import CombatPlan.Program.Reach
import CombatPlan.Proofs.Opponent.Equality

/-!
# Pruned programs

Selection comes to a branch only for an opponent who equals the targets around it and none of the targets asked about
before it (`select_prune_of`). Pruning leaves no node that this rules out (`trim_prune`), and leaves a program without
such nodes alone (`prune_of_trim`).
-/

namespace CombatPlan.Program

/-- Nothing stands behind a terminal step, no two branches of a level are on equal targets, and the branches within a
branch are on its target. -/
def Trim (around : List Opponent) : Program → Prop
  | done => True
  | step s rest => (s.isTerminal = true → rest = done) ∧ rest.Trim around
  | branch t body rest =>
    (∀ k ∈ around, (k == t) = true) ∧ (∀ b ∈ rest.branches, (t == b.1) = false) ∧
      body.Trim (t :: around) ∧ rest.Trim around

/-- Whether selection may come to a branch, by its target. -/
def Open (around asked : List Opponent) (t : Opponent) : Prop :=
  (∀ k ∈ around, (k == t) = true) ∧ ∀ k ∈ asked, (k == t) = false

instance (around asked : List Opponent) (t : Opponent) : Decidable (Open around asked t) :=
  inferInstanceAs (Decidable (_ ∧ _))

theorem prune_branch (around asked : List Opponent) (t : Opponent) (body rest : Program) :
    (branch t body rest).prune around asked =
      if Open around asked t then branch t (body.prune (t :: around) []) (rest.prune around (t :: asked))
      else rest.prune around (t :: asked) := by
  have h : (asked.any (· == t) || around.any (· != t)) = true ↔ ¬Open around asked t := by
    rw [Open, ← Bool.not_eq_false, not_iff_not]
    simp [List.any_eq_false, bne, and_comm]
  rw [prune]
  by_cases ht : Open around asked t
  · rw [if_pos ht, if_neg (mt h.mp (not_not.mpr ht))]
  · rw [if_neg ht, if_pos (h.mpr ht)]

/-! ## What is selected -/

theorem open_of_any {o? : Option Opponent} {around asked : List Opponent} {t : Opponent}
    (haround : ∀ k ∈ around, o?.any (· == k) = true) (hasked : ∀ k ∈ asked, o?.any (· == k) = false)
    (ht : o?.any (· == t) = true) : Open around asked t := by
  obtain ⟨o, rfl⟩ : ∃ o, o? = some o := Option.isSome_iff_exists.mp (Option.isSome_of_any ht)
  refine ⟨fun k hk => PartialEquivBEq.trans (PartialEquivBEq.symm (haround k hk)) ht, fun k hk => ?_⟩
  rw [← Bool.not_eq_true]
  intro hkt
  have hok := hasked k hk
  rw [Opponent.any_beq_congr_right hkt, ht] at hok
  cases hok

/-- What holds of the opponent on the way to a program is carried along: who goes into a branch equals one more target
around, who passes it differs from one more target asked about. -/
theorem select_prune_of (o? : Option Opponent) : ∀ (p : Program) (around asked : List Opponent),
    (∀ k ∈ around, o?.any (· == k) = true) → (∀ k ∈ asked, o?.any (· == k) = false) →
      (p.prune around asked).select o? = p.select o?
  | done, _, _, _, _ => rfl
  | step s rest, around, asked, haround, hasked => by
    rw [prune]
    cases hs : s.isTerminal with
    | true => simp only [ite_true, ofStep, select, hs]
    | false =>
      simp only [Bool.false_eq_true, ite_false, select, hs]
      rw [select_prune_of o? rest around asked haround hasked]
  | branch t body rest, around, asked, haround, hasked => by
    rw [prune_branch, select]
    cases ht : o?.any (· == t) with
    | true =>
      have haround' : ∀ k ∈ t :: around, o?.any (· == k) = true := List.forall_mem_cons.mpr ⟨ht, haround⟩
      rw [if_pos (open_of_any haround hasked ht), if_pos rfl, select, if_pos ht]
      exact select_prune_of o? body (t :: around) [] haround' (List.forall_mem_nil _)
    | false =>
      have hasked' : ∀ k ∈ t :: asked, o?.any (· == k) = false := List.forall_mem_cons.mpr ⟨ht, hasked⟩
      have hrest := select_prune_of o? rest around (t :: asked) haround hasked'
      rw [if_neg Bool.false_ne_true, ← hrest]
      split
      · rw [select, ht, if_neg Bool.false_ne_true]
      · rfl

/-! ## What is left -/

theorem branches_prune : ∀ (p : Program) (around asked : List Opponent),
    ∀ b ∈ (p.prune around asked).branches, ∀ k ∈ asked, (k == b.1) = false
  | done, _, _ => List.forall_mem_nil _
  | step s rest, around, asked => by
    rw [prune]
    split
    · exact List.forall_mem_nil _
    · exact branches_prune rest around asked
  | branch t body rest, around, asked => by
    have hrest : ∀ b ∈ (rest.prune around (t :: asked)).branches, ∀ k ∈ asked, (k == b.1) = false :=
      fun b hb k hk => branches_prune rest around (t :: asked) b hb k (List.mem_cons_of_mem _ hk)
    rw [prune_branch]
    split
    · next hopen => exact List.forall_mem_cons.mpr ⟨hopen.2, hrest⟩
    · exact hrest

theorem trim_prune : ∀ (p : Program) (around asked : List Opponent), (p.prune around asked).Trim around
  | done, _, _ => trivial
  | step s rest, around, asked => by
    rw [prune]
    split
    · exact ⟨fun _ => rfl, trivial⟩
    · next hs => exact ⟨fun h => absurd h hs, trim_prune rest around asked⟩
  | branch t body rest, around, asked => by
    rw [prune_branch]
    split
    · next hopen =>
      have hdistinct : ∀ b ∈ (rest.prune around (t :: asked)).branches, (t == b.1) = false :=
        fun b hb => branches_prune rest around (t :: asked) b hb t List.mem_cons_self
      exact ⟨hopen.1, hdistinct, trim_prune body (t :: around) [], trim_prune rest around (t :: asked)⟩
    · exact trim_prune rest around (t :: asked)

theorem prune_of_trim : ∀ {p : Program} {around asked : List Opponent}, p.Trim around →
    (∀ b ∈ p.branches, ∀ k ∈ asked, (k == b.1) = false) → p.prune around asked = p
  | done, _, _, _, _ => rfl
  | step s rest, _, _, h, hasked => by
    rw [prune]
    split
    · next hs => rw [h.1 hs, ofStep]
    · rw [prune_of_trim h.2 hasked]
  | branch t body rest, _, asked, ⟨haround, hdistinct, hbody, hrest⟩, hasked => by
    obtain ⟨ht, hothers⟩ := List.forall_mem_cons.mp hasked
    have hasked' : ∀ b ∈ rest.branches, ∀ k ∈ t :: asked, (k == b.1) = false :=
      fun b hb => List.forall_mem_cons.mpr ⟨hdistinct b hb, hothers b hb⟩
    rw [prune_branch, if_pos ⟨haround, ht⟩, prune_of_trim hrest hasked', prune_of_trim hbody]
    exact fun _ _ => List.forall_mem_nil _

/-- **Unreachable nodes.** Taking out what cannot be reached changes no selection, and exactly the trim programs are left as
they are. -/
theorem select_prune (p : Program) :
    (∀ o?, (p.prune [] []).select o? = p.select o?) ∧ (p.prune [] []).Trim [] ∧
      (p.prune [] [] = p ↔ p.Trim []) := by
  have htrim : (p.prune [] []).Trim [] := trim_prune p [] []
  refine ⟨fun o? => select_prune_of o? p [] [] (List.forall_mem_nil _) (List.forall_mem_nil _), htrim, ?_, ?_⟩
  · intro h
    rw [← h]
    exact htrim
  · exact fun h => prune_of_trim h fun _ _ => List.forall_mem_nil _

/-- Of two branches on the bat, and one on the imp within the first, a single one can be reached. -/
example :
    let bat : Opponent := { name := "bat" }
    let imp : Opponent := { name := "imp" }
    let p := branch bat (branch imp (ofStep .attack) (ofStep .again)) (branch bat (ofStep .runaway) (ofStep .abort))
    (p.prune [] []).walk = [.again, .abort] := by decide

end CombatPlan.Program
