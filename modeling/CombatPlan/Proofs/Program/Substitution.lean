import CombatPlan.Proofs.Program.Sequence

/-!
# Substitution

What is selected from a program depends on the bodies of its branches by what is selected from them alone
(`Exchanged.select_eq`). So programs that cannot be told apart may stand for each other within branches at any depth, in
front of which branches are put, and behind other programs. They may not stand in front of others: there it also
counts whether selection ends within them (`selectEqFor_append_iff`).
-/

namespace CombatPlan.Program

def SelectEqFor (who : Option Opponent → Prop) (p q : Program) : Prop :=
  ∀ o?, who o? → p.select o? = q.select o?

def BuiltEqFor (who : Option Opponent → Prop) (x y : Except Schema.Report Program) : Prop :=
  ∃ p q, x = .ok p ∧ y = .ok q ∧ p.SelectEqFor who q

/-- Two programs that are the same but for whole bodies of branches, at any depth: these are `p` in the one where they
are `q` in the other. -/
inductive Exchanged (p q : Program) : Program → Program → Prop
  | done : Exchanged p q done done
  | step (s : Step) {rest rest' : Program} :
      Exchanged p q rest rest' → Exchanged p q (step s rest) (step s rest')
  | branch (t : Opponent) {body body' rest rest' : Program} :
      Exchanged p q body body' → Exchanged p q rest rest' → Exchanged p q (branch t body rest) (branch t body' rest')
  | whole (t : Opponent) {rest rest' : Program} :
      Exchanged p q rest rest' → Exchanged p q (branch t p rest) (branch t q rest')

section
variable {o? : Option Opponent} {p q : Program}

theorem select_branch_congr {t : Opponent} {body body' rest rest' : Program}
    (hbody : body.select o? = body'.select o?) (hrest : rest.select o? = rest'.select o?) :
    (branch t body rest).select o? = (branch t body' rest').select o? := by
  simp only [select, hbody, hrest]

theorem select_append_congr (h : p.select o? = q.select o?) (r : Program) :
    (r ++ p).select o? = (r ++ q).select o? := by
  simp only [select_append, h]

theorem Exchanged.refl : ∀ x : Program, Exchanged p q x x
  | .done => .done
  | .step s rest => .step s (refl rest)
  | .branch t body rest => .branch t (refl body) (refl rest)

theorem Exchanged.select_eq (h : p.select o? = q.select o?) {x y : Program} (hx : Exchanged p q x y) :
    x.select o? = y.select o? := by
  induction hx with
  | done => rfl
  | step s _ ih => simp only [select, ih]
  | branch t _ _ ihbody ihrest => exact select_branch_congr ihbody ihrest
  | whole t _ ih => exact select_branch_congr h ih

end

/-- **Substitution.** Programs of which all those in question select the same can be exchanged for each other wherever
programs are put together, and as bodies of branches at any depth. -/
theorem selectEqFor_exchanged (who : Option Opponent → Prop) (p q : Program) (h : p.SelectEqFor who q) :
    (∀ (r : Program) (t : Opponent),
      BuiltEqFor who (r.addBranch (.opponent t) (some p)) (r.addBranch (.opponent t) (some q))) ∧
    (∀ (r : Program) (t : Opponent),
      BuiltEqFor who (r.prepend (.opponent t) (some p)) (r.prepend (.opponent t) (some q))) ∧
    (∀ (t : Opponent) (b : Program),
      BuiltEqFor who (p.prepend (.opponent t) (some b)) (q.prepend (.opponent t) (some b))) ∧
    (∀ r : Program, BuiltEqFor who (r.extend [.program p]) (r.extend [.program q])) ∧
    ∀ x y : Program, Exchanged p q x y → x.SelectEqFor who y := by
  refine ⟨?_, ?_, ?_, ?_, ?_⟩
  · intro r t
    refine ⟨r ++ ofBranch t p, r ++ ofBranch t q, rfl, rfl, ?_⟩
    intro o? ho
    exact select_append_congr (select_branch_congr (h o? ho) rfl) r
  · intro r t
    refine ⟨branch t p r, branch t q r, rfl, rfl, ?_⟩
    intro o? ho
    exact select_branch_congr (h o? ho) rfl
  · intro t b
    refine ⟨branch t b p, branch t b q, rfl, rfl, ?_⟩
    intro o? ho
    exact select_branch_congr rfl (h o? ho)
  · intro r
    refine ⟨r ++ p, r ++ q, extend_program r p, extend_program r q, ?_⟩
    intro o? ho
    exact select_append_congr (h o? ho) r
  · intro x y hx o? ho
    exact hx.select_eq (h o? ho)

theorem selectEqFor_exchanged_bat :
    let bat : Opponent := { name := "bat" }
    let imp : Opponent := { name := "imp" }
    let p := branch bat done done
    let x := step .runaway (branch imp (branch bat p (ofStep .again)) (branch imp p done))
    let y := step .runaway (branch imp (branch bat done (ofStep .again)) (branch imp done done))
    p.SelectEq done ∧
      BuiltEqFor (fun _ => True) ((ofStep .attack).addBranch (.opponent imp) (some p))
        ((ofStep .attack).addBranch (.opponent imp) (some done)) ∧
      Exchanged p done x y ∧ x.SelectEq y := by
  intro bat imp p x y
  have hp : p.SelectEq done := by
    intro o?
    simp [p, select]
  have hxy : Exchanged p done x y :=
    .step _ (.branch _ (.whole _ (.refl _)) (.whole _ .done))
  obtain ⟨hif, -, -, -, hexchanged⟩ := selectEqFor_exchanged (fun _ => True) p done fun o? _ => hp o?
  exact ⟨hp, hif _ _, hxy, fun o? => hexchanged x y hxy o? trivial⟩

theorem selectEqFor_append_iff {who : Option Opponent → Prop} {p q : Program} (h : p.SelectEqFor who q) :
    (∀ r : Program, BuiltEqFor who (p.extend [.program r]) (q.extend [.program r])) ↔
      ∀ o?, who o? → p.captures o? = q.captures o? := by
  constructor
  · intro hall o? ho
    obtain ⟨_, _, hx, hy, hxy⟩ := hall (ofStep .attack)
    rw [extend_program] at hx hy
    cases hx
    cases hy
    have hsame := hxy o? ho
    simp only [select_append, h o? ho] at hsame
    -- the attack behind is selected from one if and only if it is from the other
    have hattack : (ofStep .attack).select o? = [.attack] := rfl
    cases hp : p.captures o? <;> cases hq : q.captures o? <;> simp_all
  · intro hcaptures r
    refine ⟨p ++ r, q ++ r, extend_program p r, extend_program q r, ?_⟩
    intro o? ho
    simp only [select_append, h o? ho, hcaptures o? ho]

/-- Selection ends within an empty branch on the bat, so what stands behind counts only where it is left out. -/
example :
    let bat : Opponent := { name := "bat" }
    let p := branch bat done done
    p.captures (some bat) = true ∧ (p ++ ofStep .attack).select (some bat) = [] ∧
      (done ++ ofStep .attack).select (some bat) = [.attack] := by decide

end CombatPlan.Program
