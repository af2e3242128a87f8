import CombatPlan.Proofs.Datum.Memory
import CombatPlan.Proofs.Settings.Overriding

/-!
# Overriding data in memory

A memory is overridden place by place as well, but no deeper than calls can be nested. So overriding fails if it
fails at a place, or if there is a place too deep (`overrideAt_fails_iff`), and what is seen of the result depends
only on what is seen of the places (`overrideAt_congr`). Data that a memory shows are overridden as data are.
-/

namespace CombatPlan

namespace Environment

open Datum

section
variable {env env' : Environment}

/-! ## Leaves that are cut -/

theorem isText_cut (n : Nat) (d : Datum) : isText (d.cut n) = isText d := by
  cases n <;> cases d <;> rfl

theorem convert_cut (n : Nat) (d : Datum) (s : String) :
    cut (n + 1) <$> convert (d.cut (n + 1)) s = cut (n + 1) <$> convert d s := by
  cases d with
  | scalar _ => rfl
  | record fields => rfl
  | list items =>
    have hall : (items.map (cut n)).all isText = items.all isText := by
      simp [List.all_map, Function.comp_def, isText_cut]
    show cut (n + 1) <$> convert (.list (items.map (cut n))) s = _
    rw [convert, convert, hall]
    cases items.all isText with
    | true => rfl
    | false => exact congrArg Except.ok (cut_cut (.list items) (Nat.le_refl (n + 1)))

theorem overrideLeaf_cut (n : Nat) (p : Scalar) (d : Datum) :
    cut (n + 1) <$> overrideLeaf env p (d.cut (n + 1)) = cut (n + 1) <$> overrideLeaf env p d := by
  cases hname : variableName p with
  | error f => rw [overrideLeaf_of_unnamed hname, overrideLeaf_of_unnamed hname]
  | ok name =>
    rw [overrideLeaf_of_name hname, overrideLeaf_of_name hname]
    cases env.get? name with
    | some s => exact convert_cut n d s
    | none => exact congrArg Except.ok (cut_cut d (Nat.le_refl _))

theorem settle_cut (n : Nat) (p : Scalar) (keys : List Scalar) (v : Datum) :
    cut (n + 1) <$> settle env p keys (v.cut (n + 1)) = cut (n + 1) <$> settle env p keys v := by
  cases hpath : keys.foldlM path p with
  | error f => rw [settle_of_path_error hpath, settle_of_path_error hpath]
  | ok q =>
    rw [settle_of_path hpath, settle_of_path hpath, isRecord_cut]
    cases v.isRecord with
    | true => exact congrArg Except.ok (cut_cut v (Nat.le_refl _))
    | false => exact overrideLeaf_cut n q v

theorem fault?_settle_cut (n : Nat) (p : Scalar) (keys : List Scalar) (v : Datum) :
    fault? (settle env p keys (v.cut (n + 1))) = fault? (settle env p keys v) := by
  rw [← fault?_map, settle_cut, fault?_map]

variable {m : Memory} {n n' : Nat}

def overrideField (env : Environment) (m : Memory) (depth room : Nat) (p : Scalar) (x : Scalar × Address) :
    Except OverrideFault (Scalar × Datum) :=
  (x.1, ·) <$> (path p x.1 >>= fun q => overrideAt env m depth room q x.2)

theorem overrideAt_record {a : Address} {fields : List (Scalar × Address)} (h : m.cell a = .record fields)
    (room : Nat) (p : Scalar) :
    overrideAt env m n (room + 1) p a = .record <$> fields.mapM (overrideField env m n room p) := by
  have hfield : (fun x : Scalar × Address => (do
      let d ← overrideAt env m n room (← path p x.1) x.2
      return (x.1, d) : Except OverrideFault (Scalar × Datum))) = overrideField env m n room p := by
    funext x
    unfold overrideField
    cases path p x.1 <;> rfl
  unfold overrideAt
  simp only [h]
  show fields.mapM _ >>= _ = _
  rw [← hfield]
  rfl

theorem one_le_calls (c : Cell) : 1 ≤ calls c := by
  cases c <;> simp [calls]

theorem calls_leaf {a : Address} (h : ∀ fields, m.cell a ≠ .record fields) : calls (m.cell a) = 3 := by
  cases hcell : m.cell a with
  | record fields => exact absurd hcell (h fields)
  | _ => rfl

theorem overrideAt_leaf {a : Address} (h : ∀ fields, m.cell a ≠ .record fields) (room : Nat) (p : Scalar) :
    overrideAt env m n room p a =
      variableName p >>= fun _ => if room < 3 then .error (.tooDeep (room = 0)) else overrideLeaf env p (m.view n a) := by
  rw [overrideAt, calls_leaf h]
  · exact fun fields _ => h fields
  · exact fun _ fields _ => h fields

theorem settle_leaf {a : Address} (h : ∀ fields, m.cell a ≠ .record fields) (p : Scalar) :
    settle env p [] (m.view n a) = overrideLeaf env p (m.view n a) := by
  have hleaf : (m.view n a).isRecord = false := by
    cases n <;> rw [Memory.view] <;> cases hcell : m.cell a with
    | record fields => exact absurd hcell (h fields)
    | _ => rfl
  rw [settle_of_path rfl, hleaf]
  rfl

theorem settle_record {a : Address} {fields : List (Scalar × Address)} (h : m.cell a = .record fields) (p : Scalar) :
    settle env p [] (m.view n a) = .ok (m.view n a) := by
  have hrecord : (m.view n a).isRecord = true := by
    cases n <;> rw [Memory.view, h] <;> rfl
  rw [settle_of_path rfl, hrecord]
  rfl

theorem overrideAt_leaf_fails_iff {a : Address} (h : ∀ fields, m.cell a ≠ .record fields) (room : Nat) (p : Scalar) :
    (∃ f, overrideAt env m n room p a = .error f) ↔ room < 3 ∨ ∃ f, settle env p [] (m.view n a) = .error f := by
  rw [overrideAt_leaf h, settle_leaf h]
  cases hname : variableName p with
  | error f => exact iff_of_true ⟨f, rfl⟩ (Or.inr ⟨f, overrideLeaf_of_unnamed hname _⟩)
  | ok name =>
    show (∃ f, (if room < 3 then _ else _) = _) ↔ _
    by_cases hroom : room < 3
    · rw [if_pos hroom]
      exact iff_of_true ⟨_, rfl⟩ (Or.inl hroom)
    · rw [if_neg hroom]
      exact (or_iff_right hroom).symm

theorem overrideField_fails_iff {room : Nat} {p : Scalar} {x : Scalar × Address}
    (h : ∀ q, (∃ f, overrideAt env m n room q x.2 = .error f) ↔
      ∃ keys b, m.Reaches x.2 keys b ∧
        (room < keys.length + calls (m.cell b) ∨ ∃ f, settle env q keys (m.view n b) = .error f)) :
    (∃ f, overrideField env m n room p x = .error f) ↔
      ∃ keys b, m.Reaches x.2 keys b ∧
        (room < keys.length + calls (m.cell b) ∨ ∃ f, settle env p (x.1 :: keys) (m.view n b) = .error f) := by
  unfold overrideField
  rw [map_fails_iff]
  cases hq : path p x.1 with
  | error f =>
    have hkey : [x.1].foldlM path p = .error f := by
      rw [List.foldlM_cons, hq]
      rfl
    exact iff_of_true ⟨f, rfl⟩ ⟨[], x.2, .here _, Or.inr ⟨f, settle_of_path_error hkey _⟩⟩
  | ok q =>
    simp only [settle_cons hq]
    exact h q

/-- Overriding fails if it fails at a place, or if a place is too deep. -/
theorem overrideAt_fails_iff : ∀ (room : Nat) (p : Scalar) (a : Address),
    (∃ f, overrideAt env m n room p a = .error f) ↔
      ∃ keys b, m.Reaches a keys b ∧
        (room < keys.length + calls (m.cell b) ∨ ∃ f, settle env p keys (m.view n b) = .error f) := by
  intro room p a
  rcases m.leaf_or_record a with hleaf | ⟨fields, hcell⟩
  · rw [overrideAt_leaf_fails_iff hleaf]
    have hcalls : calls (m.cell a) = 3 := calls_leaf hleaf
    constructor
    · intro h
      refine ⟨[], a, .here a, ?_⟩
      rwa [hcalls]
    · rintro ⟨keys, b, hb, h⟩
      cases hb with
      | here => rwa [hcalls] at h
      | field hcell _ _ => exact absurd hcell (hleaf _)
  · cases room with
    | zero =>
      refine iff_of_true ⟨.tooDeep true, ?_⟩ ⟨[], a, .here a, Or.inl ?_⟩
      · unfold overrideAt
        simp only [hcell]
      · rw [hcell]
        exact Nat.zero_lt_one
    | succ room =>
      have hfield := fun x : Scalar × Address =>
        overrideField_fails_iff (p := p) (x := x) fun q => overrideAt_fails_iff room q x.2
      rw [overrideAt_record hcell, map_fails_iff, mapM_fails_iff]
      simp only [hfield]
      constructor
      · rintro ⟨⟨k, b⟩, hmem, keys, c, hc, h⟩
        refine ⟨k :: keys, c, .field hcell hmem hc, h.imp_left fun hroom => ?_⟩
        rw [List.length_cons]
        omega
      · rintro ⟨keys, c, hc, h⟩
        cases hc with
        | here =>
          rw [hcell, settle_record hcell] at h
          rcases h with h | ⟨f, ⟨⟩⟩
          exact absurd h (by simp [calls])
        | field hcell' hmem hc =>
          cases hcell.symm.trans hcell'
          refine ⟨_, hmem, _, c, hc, h.imp_left fun hroom => ?_⟩
          rw [List.length_cons] at hroom
          omega

/-! ## What is seen of the result -/

def Fieldwise {β : Type} (see : Datum → β) : Prop :=
  ∀ fields fields' : List (Scalar × Datum),
    fields.map (Prod.map id see) = fields'.map (Prod.map id see) → see (.record fields) = see (.record fields')

theorem fieldwise_cut : ∀ n, Fieldwise (cut n)
  | 0, _, _, _ => rfl
  | n + 1, fields, fields', h => by
    have hparts (fields : List (Scalar × Datum)) : fields.map (fun x => (x.1, x.2.cut n)) =
        (fields.map (Prod.map id (cut (n + 1)))).map (Prod.map id (cut n)) := by
      simp [cut_cut]
    show Datum.record _ = Datum.record _
    rw [hparts, hparts, h]

theorem Fieldwise.record_map {β : Type} {see : Datum → β} (hsee : Fieldwise see)
    {x x' : Except OverrideFault (List (Scalar × Datum))}
    (h : List.map (Prod.map id see) <$> x = List.map (Prod.map id see) <$> x') :
    see <$> (record <$> x) = see <$> (record <$> x') := by
  cases x with
  | error f =>
    cases x' with
    | error f' => cases h; rfl
    | ok fields' => cases h
  | ok fields =>
    cases x' with
    | error f' => cases h
    | ok fields' => exact congrArg Except.ok (hsee fields fields' (Except.ok.inj h))

theorem map_field_congr {β : Type} {see : Datum → β} {p k : Scalar} {f f' : Scalar → Except OverrideFault Datum}
    (h : ∀ q, path p k = .ok q → see <$> f q = see <$> f' q) :
    Prod.map id see <$> ((k, ·) <$> (path p k >>= f)) = Prod.map id see <$> ((k, ·) <$> (path p k >>= f')) := by
  cases hq : path p k with
  | error e => rfl
  | ok q =>
    have hmap (x : Except OverrideFault Datum) : Prod.map id see <$> ((k, ·) <$> x) = (k, ·) <$> (see <$> x) := by
      cases x <;> rfl
    show Prod.map id see <$> ((k, ·) <$> f q) = Prod.map id see <$> ((k, ·) <$> f' q)
    rw [hmap, hmap, h q hq]

/-- What is seen of the outcomes at the places makes what is seen of the result. -/
theorem overrideAt_congr {β : Type} {see : Datum → β} (hsee : Fieldwise see) :
    ∀ (room : Nat) (p : Scalar) (a : Address),
      (∀ keys b, m.Reaches a keys b →
        see <$> settle env p keys (m.view n b) = see <$> settle env' p keys (m.view n' b)) →
      see <$> overrideAt env m n room p a = see <$> overrideAt env' m n' room p a := by
  intro room p a h
  rcases m.leaf_or_record a with hleaf | ⟨fields, hcell⟩
  · have hself := h [] a (.here a)
    rw [settle_leaf hleaf, settle_leaf hleaf] at hself
    rw [overrideAt_leaf hleaf, overrideAt_leaf hleaf]
    cases variableName p with
    | error f => rfl
    | ok name =>
      show see <$> (if room < 3 then _ else _) = see <$> (if room < 3 then _ else _)
      by_cases hroom : room < 3
      · rw [if_pos hroom, if_pos hroom]
      · rw [if_neg hroom, if_neg hroom]
        exact hself
  · cases room with
    | zero =>
      unfold overrideAt
      simp only [hcell]
    | succ room =>
      rw [overrideAt_record hcell, overrideAt_record hcell]
      apply hsee.record_map
      rw [map_mapM, map_mapM]
      apply mapM_eq_of_forall₂
      rw [List.forall₂_same]
      rintro ⟨k, b⟩ hmem
      apply map_field_congr
      intro q hq
      apply overrideAt_congr hsee room q b
      intro keys c hc
      have hplace := h (k :: keys) c (.field hcell hmem hc)
      rwa [settle_cons hq, settle_cons hq] at hplace

/-! ## Data that a memory shows -/

theorem overrideFields_eq_mapM (p : Scalar) : ∀ fields : List (Scalar × Datum),
    overrideFields env p fields = fields.mapM fun x => (x.1, ·) <$> (path p x.1 >>= (overrideValue env · x.2))
  | [] => rfl
  | (k, d) :: fields => by
    rw [overrideFields_cons, List.mapM_cons, ← overrideFields_eq_mapM p fields]
    cases path p k >>= (overrideValue env · d) with
    | error f => rfl
    | ok d' => cases overrideFields env p fields <;> rfl

/-- Where no place is too deep, data that a memory shows become there what they become as data. -/
theorem overrideAt_of_shows : ∀ (room : Nat) (p : Scalar) (a : Address) (d : Datum), m.Shows a d →
    (∀ keys b, m.Reaches a keys b → keys.length + calls (m.cell b) ≤ room) →
      cut (n + 1) <$> overrideAt env m (n + 1) room p a = cut (n + 1) <$> overrideValue env p d := by
  intro room p a d hd hroom
  have hself := hroom [] a (.here a)
  cases hrecord : d.isRecord with
  | false =>
    have hleaf := hd.leaf hrecord
    rw [calls_leaf hleaf, List.length_nil] at hself
    have hvalue : overrideValue env p d = overrideLeaf env p d := by
      cases d with
      | record _ => cases hrecord
      | _ => rfl
    rw [overrideAt_leaf hleaf, hvalue, hd, ← overrideLeaf_cut n p d, if_neg (by omega)]
    unfold overrideLeaf
    cases variableName p <;> rfl
  | true =>
    cases d with
    | list _ => cases hrecord
    | scalar _ => cases hrecord
    | record fields =>
      obtain ⟨cells, hcell, hfields⟩ := hd.record
      rw [hcell] at hself
      obtain ⟨room, rfl⟩ : ∃ room', room = room' + 1 := Nat.exists_eq_add_of_le' hself
      rw [overrideAt_record hcell, overrideValue, overrideFields_eq_mapM]
      apply (fieldwise_cut (n + 1)).record_map
      rw [map_mapM, map_mapM]
      apply mapM_eq_of_forall₂
      refine ((List.forall₂_and_left cells fields).mpr ⟨fun x hx => hx, hfields⟩).imp ?_
      rintro ⟨k, b⟩ ⟨_, d⟩ ⟨hmem, rfl, hb⟩
      apply map_field_congr
      intro q _
      refine overrideAt_of_shows room q b d hb fun keys c hc => ?_
      have hplace := hroom (k :: keys) c (.field hcell hmem hc)
      rw [List.length_cons] at hplace
      omega

end
end Environment
end CombatPlan
