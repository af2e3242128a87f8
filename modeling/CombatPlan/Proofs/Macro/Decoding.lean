import CombatPlan.Macro.Outline
import CombatPlan.Program.Reach
import CombatPlan.Proofs.Macro.Spelling

/-!
# Decoding macros

The statements of an outline are read back as that outline and as no other (`Outline.ofStatements?_eq_some_iff`).
So a program is told by its macro, up to what its targets have besides their marks, unless the name of
a step holds a semicolon.
-/

namespace CombatPlan

/-! ## Statements and outlines -/

namespace Outline

def statements : Outline → List Statement
  | done => []
  | step s rest => s.statements ++ rest.statements
  | branch m body rest => .ifMark m :: body.statements ++ .endIf :: rest.statements

def Reading.statements (r : Reading) : List Statement :=
  r.part.statements ++ r.around.flatMap fun rest => .endIf :: rest.statements

theorem Reading.statements_prepend? {r r' : Reading} {s : Statement} (h : r.prepend? s = some r') :
    r'.statements = s :: r.statements := by
  obtain ⟨part, around⟩ := r
  cases s with
  | ifMark m =>
    cases around with
    | nil => cases h
    | cons rest around =>
      cases h
      simp [Reading.statements, Outline.statements]
  | ifHas tool name =>
    cases around with
    | nil => cases h
    | cons rest around =>
      simp only [Reading.prepend?] at h
      split at h
      · next hp =>
        cases h
        simp [Reading.statements, Outline.statements, Step.statements, hp]
      · cases h
  | endIf => cases h; rfl
  | use tool name => cases h; rfl
  | attack => cases h; rfl
  | runaway => cases h; rfl
  | again => cases h; rfl
  | abort => cases h; rfl

theorem Reading.statements_ofStatements? : ∀ {ss : List Statement} {r : Reading},
    Reading.ofStatements? ss = some r → r.statements = ss
  | [], r, h => by cases h; rfl
  | s :: ss, r, h => by
    obtain ⟨r₀, h₀, h⟩ := Option.bind_eq_some_iff.mp h
    rw [Reading.statements_prepend? h, Reading.statements_ofStatements? h₀]

theorem Reading.ofStatements?_cons (s : Statement) {r : Reading} {ss : List Statement}
    (h : Reading.ofStatements? ss = some r) : Reading.ofStatements? (s :: ss) = r.prepend? s := by
  rw [Reading.ofStatements?, h, Option.bind_some]

theorem Reading.ofStatements?_step (s : Step) {rest : Outline} {around : List Outline} {ss : List Statement}
    (h : Reading.ofStatements? ss = some ⟨rest, around⟩) :
    Reading.ofStatements? (s.statements ++ ss) = some ⟨step s rest, around⟩ := by
  cases s with
  | attempt tool name =>
    have hend := Reading.ofStatements?_cons .endIf h
    have huse := Reading.ofStatements?_cons (.use tool name) hend
    refine (Reading.ofStatements?_cons (.ifHas tool name) huse).trans ?_
    simp only [Reading.prepend?, ite_true]
  | use tool name => exact Reading.ofStatements?_cons (.use tool name) h
  | attack => exact Reading.ofStatements?_cons .attack h
  | runaway => exact Reading.ofStatements?_cons .runaway h
  | again => exact Reading.ofStatements?_cons .again h
  | abort => exact Reading.ofStatements?_cons .abort h

/-- What stands behind an outline is the end of the part around it, or nothing. Either way the reading of it
has an empty part in hand. -/
theorem Reading.ofStatements?_statements (o : Outline) : ∀ {around : List Outline} {ss : List Statement},
    Reading.ofStatements? ss = some ⟨done, around⟩ →
      Reading.ofStatements? (o.statements ++ ss) = some ⟨o, around⟩ := by
  induction o with
  | done => exact fun h => h
  | step s rest ih =>
    intro around ss h
    rw [Outline.statements, List.append_assoc]
    exact Reading.ofStatements?_step s (ih h)
  | branch m body rest ihb ihr =>
    intro around ss h
    have hend : Reading.ofStatements? (.endIf :: (rest.statements ++ ss)) = some ⟨done, rest :: around⟩ :=
      Reading.ofStatements?_cons .endIf (ihr h)
    simp only [Outline.statements, List.cons_append, List.append_assoc]
    exact Reading.ofStatements?_cons (.ifMark m) (ihb hend)

theorem ofStatements?_eq_some_iff {ss : List Statement} {o : Outline} :
    ofStatements? ss = some o ↔ o.statements = ss := by
  constructor
  · intro h
    unfold ofStatements? at h
    split at h
    · next part hr =>
      cases h
      have := Reading.statements_ofStatements? hr
      rwa [Reading.statements, List.flatMap_nil, List.append_nil] at this
    · cases h
  · rintro rfl
    have hr : Reading.ofStatements? (o.statements ++ []) = some ⟨o, []⟩ :=
      Reading.ofStatements?_statements o rfl
    rw [List.append_nil] at hr
    rw [ofStatements?, hr]

end Outline

theorem Program.statements_outline : ∀ p : Program, p.outline.statements = p.statements
  | done => rfl
  | step s rest => by
    rw [outline, Outline.statements, statements, statements_outline rest]
  | branch t body rest => by
    rw [outline, Outline.statements, statements, statements_outline body, statements_outline rest]

/-! ## Semicolons -/

theorem Opponent.clear_mark {o : Opponent} (h : o.Valid) : o.mark.Clear := by
  unfold mark
  split
  · trivial
  · exact ⟨h.name_ne, (safeName_iff.mp h.name_safe).1⟩

theorem Opponent.semicolon_notMem_mark {o : Opponent} (h : o.Valid) : ';' ∉ o.mark.chars := by
  unfold mark
  split
  · next n _ =>
    rw [Mark.chars, List.mem_append, not_or]
    refine ⟨by decide, fun hd => ?_⟩
    exact absurd (Nat.isDigit_of_mem_toDigits (by decide) (by decide) hd) (by decide)
  · simp only [Mark.chars, List.mem_append, not_or]
    exact ⟨⟨by decide, (safeName_iff.mp h.name_safe).2⟩, by decide⟩

def Step.Unbroken (s : Step) : Prop :=
  ∀ name ∈ s.name?, ';' ∉ name.toList

instance (s : Step) : Decidable s.Unbroken :=
  inferInstanceAs (Decidable (∀ name ∈ s.name?, ';' ∉ name.toList))

def Program.Unbroken (p : Program) : Prop :=
  ∀ s ∈ p.walk, s.Unbroken

instance (p : Program) : Decidable p.Unbroken :=
  inferInstanceAs (Decidable (∀ s ∈ p.walk, s.Unbroken))

theorem Step.clear_statements {s : Step} (h : s.Valid) : ∀ x ∈ s.statements, x.Clear := by
  cases s with
  | use tool name =>
    have hne : name ≠ "" := fun he => h (congrArg some he)
    intro x hx
    rw [List.mem_singleton.mp hx]; exact hne
  | attempt tool name =>
    have hne : name ≠ "" := fun he => h (congrArg some he)
    intro x hx
    simp only [statements, List.mem_cons, List.not_mem_nil, or_false] at hx
    rcases hx with rfl | rfl | rfl
    · exact hne
    · exact hne
    · trivial
  | attack => intro x hx; rw [List.mem_singleton.mp hx]; trivial
  | runaway => intro x hx; rw [List.mem_singleton.mp hx]; trivial
  | again => intro x hx; rw [List.mem_singleton.mp hx]; trivial
  | abort => intro x hx; rw [List.mem_singleton.mp hx]; trivial

theorem Step.semicolon_notMem_iff (s : Step) : (∀ x ∈ s.statements, ';' ∉ x.chars) ↔ s.Unbroken := by
  have huse : ∀ tool name, ';' ∉ (Statement.use tool name).chars ↔ ';' ∉ name.toList := by
    intro tool name
    rw [Statement.chars_use, List.mem_append, not_or]
    exact and_iff_right (by cases tool <;> decide)
  have hhas : ∀ tool name, ';' ∉ (Statement.ifHas tool name).chars ↔ ';' ∉ name.toList := by
    intro tool name
    rw [Statement.chars_ifHas, List.mem_append, not_or]
    exact and_iff_right (by cases tool <;> decide)
  cases s with
  | use tool name => simp [statements, Unbroken, name?, huse]
  | attempt tool name =>
    have hend : ';' ∉ Statement.endIf.chars := by decide
    simp [statements, Unbroken, name?, huse, hhas, hend]
  | attack => exact ⟨fun _ => nofun, fun _ => by decide⟩
  | runaway => exact ⟨fun _ => nofun, fun _ => by decide⟩
  | again => exact ⟨fun _ => nofun, fun _ => by decide⟩
  | abort => exact ⟨fun _ => nofun, fun _ => by decide⟩

namespace Program

theorem unbroken_step {s : Step} {rest : Program} :
    (step s rest).Unbroken ↔ s.Unbroken ∧ rest.Unbroken :=
  List.forall_mem_cons

theorem unbroken_branch {t : Opponent} {body rest : Program} :
    (branch t body rest).Unbroken ↔ body.Unbroken ∧ rest.Unbroken :=
  List.forall_mem_append

theorem clear_statements : ∀ {p : Program}, p.Valid → ∀ x ∈ p.statements, x.Clear
  | done, _, x, hx => absurd hx List.not_mem_nil
  | step s rest, h, x, hx => by
    rcases List.mem_append.mp hx with hx | hx
    · exact Step.clear_statements h.1 x hx
    · exact clear_statements h.2 x hx
  | branch t body rest, h, x, hx => by
    simp only [statements, List.cons_append, List.mem_cons, List.mem_append] at hx
    rcases hx with rfl | hx | rfl | hx
    · exact Opponent.clear_mark h.1
    · exact clear_statements h.2.1 x hx
    · trivial
    · exact clear_statements h.2.2 x hx

theorem semicolon_notMem_iff : ∀ {p : Program}, p.Valid →
    ((∀ x ∈ p.statements, ';' ∉ x.chars) ↔ p.Unbroken)
  | done, _ => ⟨fun _ => List.forall_mem_nil _, fun _ => List.forall_mem_nil _⟩
  | step s rest, h => by
    rw [statements, List.forall_mem_append, unbroken_step, s.semicolon_notMem_iff, semicolon_notMem_iff h.2]
  | branch t body rest, h => by
    have hmark : ';' ∉ (Statement.ifMark t.mark).chars := by
      rw [Statement.chars_ifMark, List.mem_append, not_or]
      exact ⟨by decide, Opponent.semicolon_notMem_mark h.1⟩
    have hend : ';' ∉ Statement.endIf.chars := by decide
    rw [statements, List.cons_append, List.forall_mem_cons, List.forall_mem_append, List.forall_mem_cons,
      unbroken_branch, semicolon_notMem_iff h.2.1, semicolon_notMem_iff h.2.2]
    exact ⟨fun hp => ⟨hp.2.1, hp.2.2.2⟩, fun hp => ⟨hmark, hp.1, hend, hp.2⟩⟩

theorem split?_toMacro_iff {p : Program} (h : p.Valid) :
    Statement.split? p.toMacro = some p.statements ↔ p.Unbroken := by
  rw [toMacro, Statement.split?_eq_some_iff, ← semicolon_notMem_iff h]
  exact ⟨fun hp x hx => (hp.2 x hx).2, fun hp => ⟨rfl, fun x hx => ⟨clear_statements h x hx, hp x hx⟩⟩⟩

theorem ofMacro?_toMacro {p : Program} (h : p.Valid) (hp : p.Unbroken) :
    Outline.ofMacro? p.toMacro = some p.outline := by
  rw [Outline.ofMacro?, (split?_toMacro_iff h).mpr hp, Option.bind_some]
  exact Outline.ofStatements?_eq_some_iff.mpr p.statements_outline

/-- **Decoding.** A macro decodes to the outline of its program exactly if no step name holds a semicolon. Programs with the
same text then differ only in what their targets have besides their marks. -/
theorem ofMacro?_toMacro_iff (p : Program) (h : p.Valid) :
    (Outline.ofMacro? p.toMacro = some p.outline ↔ p.Unbroken) ∧
      (p.Unbroken → Statement.split? p.toMacro = some p.statements) ∧
      ∀ q : Program, q.Valid → p.Unbroken → q.Unbroken → p.toMacro = q.toMacro → p.outline = q.outline := by
  refine ⟨⟨fun hd => ?_, ofMacro?_toMacro h⟩, (split?_toMacro_iff h).mpr, fun q hq hp hqu heq => ?_⟩
  · obtain ⟨ss, hss, ho⟩ := Option.bind_eq_some_iff.mp hd
    -- the statements read are those of the program, since no others have its outline
    have hps : p.statements = ss := p.statements_outline.symm.trans (Outline.ofStatements?_eq_some_iff.mp ho)
    exact (split?_toMacro_iff h).mp (hps ▸ hss)
  · have hdp := ofMacro?_toMacro h hp
    rw [heq, ofMacro?_toMacro hq hqu] at hdp
    exact (Option.some.inj hdp).symm

theorem ofMacro?_toMacro_endif :
    let p (skill : String) : Program :=
      .branch { name := "drake" } (.step (.attempt .item "indigo cup") (.step (.use .skill skill) .done))
        (.branch { name := "bat", monsterId := some 7 } .done (.step .again .done))
    (∀ skill, skill ≠ "" → (p skill).Valid) ∧
      Outline.ofMacro? (p "endif").toMacro = some (p "endif").outline ∧
      Outline.ofMacro? (p "a;endif").toMacro ≠ some (p "a;endif").outline := by
  intro p
  have hv : ∀ skill, skill ≠ "" → (p skill).Valid := by
    intro skill hs
    have hd : Opponent.Valid { name := "drake" } := Opponent.valid_harmless (by decide) (by decide)
    have hb : Opponent.Valid { name := "bat", monsterId := some 7 } :=
      Opponent.valid_harmless (by decide) (by decide)
    exact ⟨hd, ⟨by decide, fun he => hs (Option.some.inj he), trivial⟩, hb, trivial, by decide, trivial⟩
  refine ⟨hv, (ofMacro?_toMacro_iff _ (hv _ (by decide))).1.mpr (by decide), fun h => ?_⟩
  exact absurd ((ofMacro?_toMacro_iff _ (hv _ (by decide))).1.mp h) (by decide)

end Program
end CombatPlan
