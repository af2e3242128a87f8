import Mathlib.Data.List.Forall2

/-!
# Outcomes

When something that may fail succeeds, and which fault it ends with if it does not.
-/

namespace CombatPlan

variable {ε α β : Type} {x : Except ε α} {f : α → Except ε β}

theorem bind_eq_ok_iff {b : β} : (x >>= f) = .ok b ↔ ∃ a, x = .ok a ∧ f a = .ok b := by
  cases x with
  | error e =>
    constructor
    · intro h
      cases h
    · rintro ⟨a, h, -⟩
      cases h
  | ok a =>
    constructor
    · intro h
      exact ⟨a, rfl, h⟩
    · rintro ⟨_, ⟨⟩, h⟩
      exact h

theorem map_eq_ok_iff {g : α → β} {b : β} : g <$> x = .ok b ↔ ∃ a, x = .ok a ∧ g a = b := by
  cases x with
  | error e =>
    constructor
    · intro h
      cases h
    · rintro ⟨a, h, -⟩
      cases h
  | ok a =>
    constructor
    · intro h
      cases h
      exact ⟨a, rfl, rfl⟩
    · rintro ⟨_, ⟨⟩, rfl⟩
      rfl

theorem forall_mem_of_mapM_eq_ok {P : β → Prop} (hf : ∀ a b, f a = .ok b → P b) :
    ∀ {as : List α} {bs : List β}, as.mapM f = .ok bs → ∀ b ∈ bs, P b
  | [], _, h => by
    cases h
    exact nofun
  | a :: as, _, h => by
    rw [List.mapM_cons] at h
    obtain ⟨b, hb, h⟩ := bind_eq_ok_iff.mp h
    obtain ⟨bs, hbs, h⟩ := bind_eq_ok_iff.mp h
    cases h
    exact List.forall_mem_cons.mpr ⟨hf a b hb, forall_mem_of_mapM_eq_ok hf hbs⟩

theorem map_fails_iff {g : α → β} : (∃ e, g <$> x = .error e) ↔ ∃ e, x = .error e := by
  cases x with
  | error e => exact iff_of_true ⟨e, rfl⟩ ⟨e, rfl⟩
  | ok a => exact iff_of_false nofun nofun

theorem mapM_fails_iff : ∀ {as : List α}, (∃ e, as.mapM f = .error e) ↔ ∃ a ∈ as, ∃ e, f a = .error e
  | [] => iff_of_false nofun nofun
  | a :: as => by
    rw [List.mapM_cons, List.exists_mem_cons_iff, ← mapM_fails_iff]
    cases ha : f a with
    | error e => exact iff_of_true ⟨e, rfl⟩ (Or.inl ⟨e, rfl⟩)
    | ok b =>
      show (∃ e, (as.mapM f >>= fun bs => pure (b :: bs)) = .error e) ↔ _
      rw [bind_pure_comp, map_fails_iff]
      exact (or_iff_right nofun).symm

theorem map_mapM {γ : Type} {g : β → γ} : ∀ as : List α, List.map g <$> as.mapM f = as.mapM fun a => g <$> f a
  | [] => rfl
  | a :: as => by
    rw [List.mapM_cons, List.mapM_cons, ← map_mapM as]
    cases f a with
    | error e => rfl
    | ok b => cases as.mapM f <;> rfl

theorem mapM_eq_of_forall₂ {γ : Type} {f' : γ → Except ε β} {as : List α} {cs : List γ}
    (h : List.Forall₂ (fun a c => f a = f' c) as cs) : as.mapM f = cs.mapM f' := by
  induction h with
  | nil => rfl
  | cons hac _ ih => rw [List.mapM_cons, List.mapM_cons, hac, ih]

def fault? : Except ε α → Option ε
  | .ok _ => none
  | .error e => some e

theorem fault?_map {g : α → β} : fault? (g <$> x) = fault? x := by
  cases x <;> rfl

theorem fault?_bind (e? : Option ε) (h : ∀ a, fault? (f a) = e?) : fault? (x >>= f) = (fault? x).or e? := by
  cases x with
  | error e => rfl
  | ok a => exact h a

theorem fault?_bind_map {γ : Type} {y : Except ε β} {g : α → β → γ} :
    fault? (x >>= fun a => g a <$> y) = (fault? x).or (fault? y) :=
  fault?_bind _ fun _ => fault?_map

theorem fault?_eq_none_iff : fault? x = none ↔ ∃ a, x = .ok a := by
  cases x <;> simp [fault?]

theorem fault?_isSome_iff : (fault? x).isSome = true ↔ ∃ e, x = .error e := by
  cases x <;> simp [fault?]

theorem fault?_eq_some_iff {e : ε} : fault? x = some e ↔ x = .error e := by
  cases x <;> simp [fault?]

theorem fault?_eq_iff {y : Except ε α} : fault? x = fault? y ↔ (fun _ => ()) <$> x = (fun _ => ()) <$> y := by
  cases x with
  | error e =>
    cases y with
    | error e' => exact ⟨fun h => congrArg Except.error (Option.some.inj h), fun h => congrArg some (Except.error.inj h)⟩
    | ok b => exact iff_of_false nofun nofun
  | ok a =>
    cases y with
    | error e' => exact iff_of_false nofun nofun
    | ok b => exact iff_of_true rfl rfl

end CombatPlan
