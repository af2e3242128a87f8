import CombatPlan.Proofs.Datum.Leaf
import CombatPlan.Proofs.Outcome
import CombatPlan.Proofs.Settings.Naming

/-!
# What the environment does to a document

Overriding goes through a document place by place, and what happens at a place depends on nothing but the keys that
lead there and the variable that they name (`settle`). So it fails if some place fails, and otherwise every leaf has
become what its variable says.
-/

namespace CombatPlan

namespace Environment

open Datum

/-! ## Place by place -/

/-- The outcome at the place that `keys` lead to from the path `p`. -/
def settle (env : Environment) (p : Scalar) (keys : List Scalar) (v : Datum) : Except OverrideFault Datum := do
  let q ← keys.foldlM path p
  if v.isRecord then return v else overrideLeaf env q v

section
variable {env env' : Environment}

theorem settle_cons {p q k : Scalar} (h : path p k = .ok q) (keys : List Scalar) (v : Datum) :
    settle env p (k :: keys) v = settle env q keys v := by
  unfold settle
  rw [List.foldlM_cons, h]
  rfl

theorem settle_of_path {p q : Scalar} {keys : List Scalar} (h : keys.foldlM path p = .ok q) (v : Datum) :
    settle env p keys v = if v.isRecord then .ok v else overrideLeaf env q v := by
  unfold settle
  rw [h]
  rfl

theorem settle_of_path_error {p : Scalar} {keys : List Scalar} {f : OverrideFault}
    (h : keys.foldlM path p = .error f) (v : Datum) : settle env p keys v = .error f := by
  unfold settle
  rw [h]
  rfl

theorem overrideFields_cons (p k : Scalar) (d : Datum) (fields : List (Scalar × Datum)) :
    overrideFields env p ((k, d) :: fields) =
      (path p k >>= (overrideValue env · d)) >>= fun d' => ((k, d') :: ·) <$> overrideFields env p fields := by
  rw [overrideFields]
  cases path p k <;> rfl

mutual

theorem overrideValue_fault?_congr : ∀ (d : Datum) (p : Scalar),
    (∀ keys v, d.Holds keys v → fault? (settle env p keys v) = fault? (settle env' p keys v)) →
      fault? (overrideValue env p d) = fault? (overrideValue env' p d)
  | .record fields, p, h => by
    have hfields := overrideFields_fault?_congr fields p fun k d hmem keys v hv => h (k :: keys) v (.field hmem hv)
    rw [overrideValue, overrideValue, fault?_map, fault?_map, hfields]
  | .list items, p, h => h [] (.list items) (.here _)
  | .scalar s, p, h => h [] (.scalar s) (.here _)

theorem overrideFields_fault?_congr : ∀ (fields : List (Scalar × Datum)) (p : Scalar),
    (∀ k d, (k, d) ∈ fields → ∀ keys v, d.Holds keys v →
      fault? (settle env p (k :: keys) v) = fault? (settle env' p (k :: keys) v)) →
      fault? (overrideFields env p fields) = fault? (overrideFields env' p fields)
  | [], _, _ => rfl
  | (k, d) :: fields, p, h => by
    have hrest := overrideFields_fault?_congr fields p fun k' d' hmem => h k' d' (List.mem_cons_of_mem _ hmem)
    rw [overrideFields_cons, overrideFields_cons]
    cases hq : path p k with
    | error f => rfl -- Paths do not depend on the environment.
    | ok q =>
      have hd : fault? (overrideValue env q d) = fault? (overrideValue env' q d) := by
        apply overrideValue_fault?_congr
        intro keys v hv
        have hplace := h k d (List.mem_cons_self ..) keys v hv
        rwa [settle_cons hq, settle_cons hq] at hplace
      show fault? (overrideValue env q d >>= _) = fault? (overrideValue env' q d >>= _)
      rw [fault?_bind_map, fault?_bind_map, hd, hrest]

end

mutual

theorem overrideValue_fails_iff : ∀ (d : Datum) (p : Scalar),
    (∃ f, overrideValue env p d = .error f) ↔ ∃ keys v, d.Holds keys v ∧ ∃ f, settle env p keys v = .error f
  | .record fields, p => by
    rw [overrideValue, map_fails_iff, overrideFields_fails_iff fields p]
    constructor
    · rintro ⟨k, d, hmem, keys, v, hv, hf⟩
      exact ⟨k :: keys, v, .field hmem hv, hf⟩
    · rintro ⟨keys, v, hv, f, hf⟩
      cases hv with
      | here => cases hf
      | field hmem hv => exact ⟨_, _, hmem, _, v, hv, f, hf⟩
  | .list items, p => by
    constructor
    · intro h
      exact ⟨[], .list items, .here _, h⟩
    · rintro ⟨keys, v, hv, hf⟩
      cases hv
      exact hf
  | .scalar s, p => by
    constructor
    · intro h
      exact ⟨[], .scalar s, .here _, h⟩
    · rintro ⟨keys, v, hv, hf⟩
      cases hv
      exact hf

theorem overrideFields_fails_iff : ∀ (fields : List (Scalar × Datum)) (p : Scalar),
    (∃ f, overrideFields env p fields = .error f) ↔
      ∃ k d, (k, d) ∈ fields ∧ ∃ keys v, d.Holds keys v ∧ ∃ f, settle env p (k :: keys) v = .error f
  | [], p => by simp [overrideFields]
  | (k, d) :: fields, p => by
    have hrest := overrideFields_fails_iff fields p
    have hfield : (∃ f, path p k >>= (overrideValue env · d) = .error f) ↔
        ∃ keys v, d.Holds keys v ∧ ∃ f, settle env p (k :: keys) v = .error f := by
      cases hq : path p k with
      | error f =>
        have hkey : [k].foldlM path p = .error f := by
          rw [List.foldlM_cons, hq]
          rfl
        exact iff_of_true ⟨f, rfl⟩ ⟨[], d, .here d, f, settle_of_path_error hkey d⟩
      | ok q =>
        simp only [settle_cons hq]
        exact overrideValue_fails_iff d q
    have hcons : (∃ f, overrideFields env p ((k, d) :: fields) = .error f) ↔
        (∃ f, path p k >>= (overrideValue env · d) = .error f) ∨ ∃ f, overrideFields env p fields = .error f := by
      rw [overrideFields_cons]
      cases path p k >>= (overrideValue env · d) with
      | error f => exact iff_of_true ⟨f, rfl⟩ (Or.inl ⟨f, rfl⟩)
      | ok d' =>
        refine map_fails_iff.trans ⟨Or.inr, ?_⟩
        rintro (⟨f, ⟨⟩⟩ | h)
        exact h
    rw [hcons, hfield, hrest]
    constructor
    · rintro (⟨keys, v, hv, hf⟩ | ⟨k', d', hmem, h⟩)
      · exact ⟨k, d, List.mem_cons_self .., keys, v, hv, hf⟩
      · exact ⟨k', d', List.mem_cons_of_mem _ hmem, h⟩
    · rintro ⟨k', d', hmem, keys, v, hv, hf⟩
      rcases List.mem_cons.mp hmem with heq | hmem
      · cases heq
        exact Or.inl ⟨keys, v, hv, hf⟩
      · exact Or.inr ⟨k', d', hmem, keys, v, hv, hf⟩

end

mutual

theorem overrideValue_eq_ok_iff : ∀ (d d' : Datum) (p : Scalar),
    (∀ keys v, d.Holds keys v → ∃ q, keys.foldlM path p = .ok q) →
      (overrideValue env p d = .ok d' ↔ Leafwise (fun keys v v' => settle env p keys v = .ok v') d d')
  | .record fields, d', p, h => by
    have hfields := fun fields' => overrideFields_eq_ok_iff fields fields' p fun k d hmem keys v hv =>
      h (k :: keys) v (.field hmem hv)
    rw [overrideValue, leafwise_record_iff, map_eq_ok_iff]
    simp only [hfields, eq_comm]
  | .list items, d', p, _ => by
    rw [leafwise_leaf_iff rfl]
    rfl
  | .scalar s, d', p, _ => by
    rw [leafwise_leaf_iff rfl]
    rfl

theorem overrideFields_eq_ok_iff : ∀ (fields fields' : List (Scalar × Datum)) (p : Scalar),
    (∀ k d, (k, d) ∈ fields → ∀ keys v, d.Holds keys v → ∃ q, (k :: keys).foldlM path p = .ok q) →
      (overrideFields env p fields = .ok fields' ↔
        LeafwiseFields (fun keys v v' => settle env p keys v = .ok v') fields fields')
  | [], fields', p, _ => by
    constructor
    · intro h
      cases h
      exact .nil
    · intro h
      cases h
      rfl
  | (k, d) :: fields, fields', p, h => by
    have hrest := fun rest => overrideFields_eq_ok_iff fields rest p fun k' d' hmem =>
      h k' d' (List.mem_cons_of_mem _ hmem)
    have hhead := h k d (List.mem_cons_self ..)
    obtain ⟨q, hq⟩ : ∃ q, path p k = .ok q := by
      obtain ⟨r, hr⟩ := hhead [] d (.here d)
      exact ⟨r, by simpa using hr⟩
    have hd := fun d' => overrideValue_eq_ok_iff d d' q fun keys v hv => by
      obtain ⟨r, hr⟩ := hhead keys v hv
      rw [List.foldlM_cons, hq] at hr
      exact ⟨r, hr⟩
    rw [overrideFields_cons, hq, leafwiseFields_cons_iff]
    simp only [settle_cons hq, ← hd, ← hrest]
    show (overrideValue env q d >>= _) = _ ↔ _
    simp only [bind_eq_ok_iff, map_eq_ok_iff]
    constructor
    · rintro ⟨d', hd', rest, hrest', rfl⟩
      exact ⟨d', rest, hd', hrest', rfl⟩
    · rintro ⟨d', rest, hd', hrest', rfl⟩
      exact ⟨d', hd', rest, hrest', rfl⟩

end

theorem overrideValue_congr {d : Datum} {p : Scalar} (hpaths : ∀ keys v, d.Holds keys v → ∃ q, keys.foldlM path p = .ok q)
    (h : ∀ keys v, d.Holds keys v → settle env p keys v = settle env' p keys v) :
    overrideValue env p d = overrideValue env' p d := by
  cases hv : overrideValue env p d with
  | error f =>
    have hfault := overrideValue_fault?_congr d p fun keys v hv => congrArg fault? (h keys v hv)
    rw [hv] at hfault
    exact (fault?_eq_some_iff.mp hfault.symm).symm
  | ok d' =>
    rw [overrideValue_eq_ok_iff d d' p hpaths] at hv
    symm
    rw [overrideValue_eq_ok_iff d d' p hpaths]
    apply hv.imp
    intro keys v v' hv _ hok
    rw [← h keys v hv]
    exact hok

end

end Environment
end CombatPlan
