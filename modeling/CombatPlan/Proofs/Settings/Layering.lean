import CombatPlan.Proofs.Settings.Overriding

/-!
# Overrides on top of overrides

What a leaf becomes takes texts in the same way as the leaf did (`convert_convert`), so to override twice is to
override once, by the variables of the second environment and by those of the first that it leaves alone. Where the
second pass stops, the single one stops as well.
-/

namespace CombatPlan

namespace Datum

mutual

def places : Datum → List (List Scalar × Datum)
  | record fields => ([], record fields) :: placesOfFields fields
  | list items => [([], list items)]
  | scalar s => [([], scalar s)]

def placesOfFields : List (Scalar × Datum) → List (List Scalar × Datum)
  | [] => []
  | (k, d) :: fields => d.places.map (fun l => (k :: l.1, l.2)) ++ placesOfFields fields

end

theorem places_of_leaf {d : Datum} (h : d.isRecord = false) : d.places = [([], d)] := by
  cases d with
  | record fields => cases h
  | list items => rfl
  | scalar s => rfl

theorem exists_places (d : Datum) : ∃ rest, d.places = ([], d) :: rest := by
  cases d with
  | record fields => exact ⟨placesOfFields fields, rfl⟩
  | list items => exact ⟨[], rfl⟩
  | scalar s => exact ⟨[], rfl⟩

end Datum

namespace Environment

open Datum

theorem get?_append (env' env : Environment) (name : String) :
    Environment.get? (env' ++ env) name = (env'.get? name).or (env.get? name) :=
  List.lookup_append

/-! ## Where overriding stops -/

def stopAt (env : Environment) (p : Scalar) (l : List Scalar × Datum) : Option (List Scalar × OverrideFault) :=
  (fault? (settle env p l.1 l.2)).map (l.1, ·)

/-- The keys of the first place that is at fault, and the fault. -/
def stop? (env : Environment) (p : Scalar) (d : Datum) : Option (List Scalar × OverrideFault) :=
  d.places.findSome? (stopAt env p)

def stopOfFields? (env : Environment) (p : Scalar) (fields : List (Scalar × Datum)) :
    Option (List Scalar × OverrideFault) :=
  (placesOfFields fields).findSome? (stopAt env p)

section
variable {env env' both : Environment}

theorem overrideValue_of_leaf {d : Datum} (h : d.isRecord = false) (p : Scalar) :
    overrideValue env p d = overrideLeaf env p d := by
  cases d with
  | record fields => cases h
  | list items => rfl
  | scalar s => rfl

theorem override_of_isRecord {d : Datum} (h : d.isRecord = true) (above : String) :
    env.override above d = overrideValue env (.text above) d := by
  cases d with
  | record fields => rfl
  | list items => cases h
  | scalar s => cases h

theorem override_eq_ok_iff_overrideValue {above : String} {d d' : Datum} :
    env.override above d = .ok d' ↔ d.isRecord = true ∧ overrideValue env (.text above) d = .ok d' := by
  cases d with
  | record fields => exact (and_iff_right rfl).symm
  | list items => exact iff_of_false nofun nofun
  | scalar s => exact iff_of_false nofun nofun

theorem isRecord_of_override {above : String} {d d' : Datum} (h : env.override above d = .ok d') :
    d'.isRecord = true := by
  cases d with
  | record fields =>
    obtain ⟨fields', -, rfl⟩ := map_eq_ok_iff.mp h
    rfl
  | list items => cases h
  | scalar s => cases h

theorem stop?_of_leaf {d : Datum} (h : d.isRecord = false) (p : Scalar) :
    stop? env p d = (fault? (overrideLeaf env p d)).map ([], ·) := by
  have hsettle : settle env p [] d = overrideLeaf env p d := by rw [settle_of_path rfl, h]; rfl
  unfold stop?
  rw [places_of_leaf h, List.findSome?_singleton, stopAt, hsettle]

theorem stop?_record (p : Scalar) (fields : List (Scalar × Datum)) :
    stop? env p (record fields) = stopOfFields? env p fields := rfl

theorem stopOfFields?_cons {p k q : Scalar} (hq : path p k = .ok q) (d : Datum) (fields : List (Scalar × Datum)) :
    stopOfFields? env p ((k, d) :: fields) =
      ((stop? env q d).map fun s => (k :: s.1, s.2)).or (stopOfFields? env p fields) := by
  have hplace : ∀ l : List Scalar × Datum,
      stopAt env p (k :: l.1, l.2) = (stopAt env q l).map fun s => (k :: s.1, s.2) := by
    intro l
    unfold stopAt
    rw [settle_cons hq, Option.map_map]
    rfl
  unfold stopOfFields? stop?
  rw [placesOfFields, List.findSome?_append, List.findSome?_map, List.map_findSome?]
  congr 2
  funext l
  exact hplace l

theorem stopOfFields?_cons_of_error {p k : Scalar} {f : OverrideFault} (hq : path p k = .error f) (d : Datum)
    (fields : List (Scalar × Datum)) : stopOfFields? env p ((k, d) :: fields) = some ([k], f) := by
  have hkey : [k].foldlM path p = .error f := by
    rw [List.foldlM_cons, hq]
    rfl
  obtain ⟨rest, hrest⟩ := exists_places d
  unfold stopOfFields?
  rw [placesOfFields, hrest, List.map_cons, List.cons_append, List.findSome?_cons, stopAt,
    settle_of_path_error hkey]
  rfl

mutual

theorem fault?_overrideValue : ∀ (d : Datum) (p : Scalar),
    fault? (overrideValue env p d) = (stop? env p d).map (·.2)
  | .record fields, p => by
    rw [overrideValue, fault?_map, stop?_record, fault?_overrideFields fields p]
  | .list items, p => by
    rw [overrideValue_of_leaf rfl, stop?_of_leaf rfl, Option.map_map]
    exact Option.map_id'.symm
  | .scalar s, p => by
    rw [overrideValue_of_leaf rfl, stop?_of_leaf rfl, Option.map_map]
    exact Option.map_id'.symm

theorem fault?_overrideFields : ∀ (fields : List (Scalar × Datum)) (p : Scalar),
    fault? (overrideFields env p fields) = (stopOfFields? env p fields).map (·.2)
  | [], _ => rfl
  | (k, d) :: fields, p => by
    rw [overrideFields_cons]
    cases hq : path p k with
    | error f =>
      rw [stopOfFields?_cons_of_error hq]
      rfl
    | ok q =>
      show fault? (overrideValue env q d >>= _) = _
      rw [fault?_bind_map, fault?_overrideValue d q, fault?_overrideFields fields p, stopOfFields?_cons hq]
      cases stop? env q d <;> rfl

end

/-! ## A leaf that is overridden twice -/

theorem convert_convert {leaf leaf' : Datum} {t : String} (hleaf : leaf.isRecord = false)
    (h : convert leaf t = .ok leaf') (t' : String) : convert leaf' t' = convert leaf t' := by
  have htexts : ∀ s, ((parts s).map Datum.text).all isText = true := by
    intro s
    rw [List.all_map]
    exact List.all_eq_true.mpr fun _ _ => rfl
  cases (convert_eq_ok_iff hleaf).mp h with
  | texts hitems =>
    -- No list of texts is left out, not even the empty one.
    unfold convert
    dsimp only
    rw [htexts, List.all_eq_true.mpr hitems, if_pos rfl, if_pos rfl]
  | mixed _ _ => rfl
  | _ => rfl

theorem isRecord_of_convert {leaf leaf' : Datum} {t : String} (hleaf : leaf.isRecord = false)
    (h : convert leaf t = .ok leaf') : leaf'.isRecord = false := by
  cases (convert_eq_ok_iff hleaf).mp h <;> rfl

variable (hboth : ∀ name, both.get? name = (env'.get? name).or (env.get? name))
include hboth

theorem overrideLeaf_overrideLeaf {p : Scalar} {leaf leaf' : Datum} (hleaf : leaf.isRecord = false)
    (h : overrideLeaf env p leaf = .ok leaf') :
    leaf'.isRecord = false ∧ overrideLeaf env' p leaf' = overrideLeaf both p leaf := by
  cases hname : variableName p with
  | error f =>
    rw [overrideLeaf_of_unnamed hname] at h
    cases h
  | ok name =>
    rw [overrideLeaf_of_name hname] at h
    rw [overrideLeaf_of_name hname, overrideLeaf_of_name hname, hboth]
    cases ht : env.get? name with
    | none =>
      rw [ht] at h
      cases h
      rw [Option.or_none]
      exact ⟨hleaf, rfl⟩
    | some t =>
      rw [ht] at h
      refine ⟨isRecord_of_convert hleaf h, ?_⟩
      cases env'.get? name with
      | none => exact h.symm
      | some t' => exact convert_convert hleaf h t'

theorem settle_both (p : Scalar) (keys : List Scalar) (v : Datum) :
    settle both p keys v = settle env p keys v ∨ settle both p keys v = settle env' p keys v := by
  cases hq : keys.foldlM path p with
  | error f => exact Or.inl (by rw [settle_of_path_error hq, settle_of_path_error hq])
  | ok q =>
    simp only [settle_of_path hq]
    cases hv : v.isRecord with
    | true => exact Or.inl rfl
    | false =>
      cases hname : variableName q with
      | error f => exact Or.inl (by rw [overrideLeaf_of_unnamed hname, overrideLeaf_of_unnamed hname])
      | ok name =>
        simp only [overrideLeaf_of_name hname, hboth]
        cases env'.get? name with
        | none => exact Or.inl rfl
        | some t => exact Or.inr rfl

/-! ## Whole documents -/

theorem overrideValue_overrideValue_of_leaf {d d' : Datum} {p : Scalar} (hleaf : d.isRecord = false)
    (h : overrideValue env p d = .ok d') :
    overrideValue env' p d' = overrideValue both p d ∧ stop? env' p d' = stop? both p d := by
  rw [overrideValue_of_leaf hleaf] at h
  obtain ⟨hleaf', heq⟩ := overrideLeaf_overrideLeaf hboth hleaf h
  rw [overrideValue_of_leaf hleaf, overrideValue_of_leaf hleaf', stop?_of_leaf hleaf, stop?_of_leaf hleaf', heq]
  exact ⟨rfl, rfl⟩

omit hboth

mutual

theorem overrideValue_overrideValue (hboth : ∀ name, both.get? name = (env'.get? name).or (env.get? name)) :
    ∀ (d d' : Datum) (p : Scalar), overrideValue env p d = .ok d' →
      overrideValue env' p d' = overrideValue both p d ∧ stop? env' p d' = stop? both p d
  | .record fields, d', p, h => by
    rw [overrideValue] at h
    obtain ⟨fields', hfields, rfl⟩ := map_eq_ok_iff.mp h
    obtain ⟨hvalue, hstop⟩ := overrideFields_overrideFields hboth fields fields' p hfields
    rw [overrideValue, overrideValue, hvalue]
    exact ⟨rfl, hstop⟩
  | .list items, d', p, h => overrideValue_overrideValue_of_leaf hboth rfl h
  | .scalar s, d', p, h => overrideValue_overrideValue_of_leaf hboth rfl h

theorem overrideFields_overrideFields (hboth : ∀ name, both.get? name = (env'.get? name).or (env.get? name)) :
    ∀ (fields fields' : List (Scalar × Datum)) (p : Scalar), overrideFields env p fields = .ok fields' →
      overrideFields env' p fields' = overrideFields both p fields ∧
        stopOfFields? env' p fields' = stopOfFields? both p fields
  | [], fields', p, h => by
    cases h
    exact ⟨rfl, rfl⟩
  | (k, d) :: fields, fields', p, h => by
    rw [overrideFields_cons] at h
    obtain ⟨d', hd, h⟩ := bind_eq_ok_iff.mp h
    obtain ⟨q, hq, hd⟩ := bind_eq_ok_iff.mp hd
    obtain ⟨rest, hrest, rfl⟩ := map_eq_ok_iff.mp h
    obtain ⟨hvalue, hstop⟩ := overrideValue_overrideValue hboth d d' q hd
    obtain ⟨hvalues, hstops⟩ := overrideFields_overrideFields hboth fields rest p hrest
    constructor
    · rw [overrideFields_cons, overrideFields_cons, hq, hvalues]
      show (overrideValue env' q d' >>= _) = (overrideValue both q d >>= _)
      rw [hvalue]
    · rw [stopOfFields?_cons hq, stopOfFields?_cons hq, hstop, hstops]

end

include hboth

theorem override_both_ok {above : String} {d d₁ d₂ : Datum} (h₁ : env.override above d = .ok d₁)
    (h₂ : env'.override above d = .ok d₂) : ∃ r, both.override above d = .ok r := by
  obtain ⟨hd, h₁⟩ := override_eq_ok_iff_overrideValue.mp h₁
  obtain ⟨-, h₂⟩ := override_eq_ok_iff_overrideValue.mp h₂
  rw [override_of_isRecord hd]
  cases hr : overrideValue both (.text above) d with
  | ok r => exact ⟨r, rfl⟩
  | error f =>
    obtain ⟨keys, v, hv, g, hg⟩ := (overrideValue_fails_iff d _).mp ⟨f, hr⟩
    rcases settle_both hboth (.text above) keys v with heq | heq
    · obtain ⟨f', hf'⟩ := (overrideValue_fails_iff d _).mpr ⟨keys, v, hv, g, heq.symm.trans hg⟩
      rw [h₁] at hf'
      cases hf'
    · obtain ⟨f', hf'⟩ := (overrideValue_fails_iff d _).mpr ⟨keys, v, hv, g, heq.symm.trans hg⟩
      rw [h₂] at hf'
      cases hf'

theorem override_again {above : String} {d d' : Datum} (h : env.override above d = .ok d') :
    env'.override above d' = both.override above d ∧
      ∀ f, env'.override above d' = .error f →
        ∃ keys, stop? env' (.text above) d' = some (keys, f) ∧ stop? both (.text above) d = some (keys, f) := by
  obtain ⟨hd, hvalue⟩ := override_eq_ok_iff_overrideValue.mp h
  have hd' := isRecord_of_override h
  obtain ⟨heq, hstop⟩ := overrideValue_overrideValue hboth d d' _ hvalue
  rw [override_of_isRecord hd', override_of_isRecord hd]
  refine ⟨heq, fun f hf => ?_⟩
  have hfault := @fault?_overrideValue env' d' (.text above)
  rw [hf] at hfault
  obtain ⟨⟨keys, f'⟩, hs, hf'⟩ := Option.map_eq_some_iff.mp hfault.symm
  cases hf'
  exact ⟨keys, hs, hstop ▸ hs⟩

end

/-- **Overrides compose.** Overriding by `env` and then by `env'` is overriding by the variables of `env'` on top of those of
`env`, and stops at the same leaf where it fails. -/
theorem override_override (env env' both : Environment) (above : String) (d d' : Datum)
    (hboth : ∀ name, both.get? name = (env'.get? name).or (env.get? name)) (h : env.override above d = .ok d') :
    env'.override above d' = both.override above d ∧
      (∀ f, env'.override above d' = .error f →
        ∃ keys, stop? env' (.text above) d' = some (keys, f) ∧ stop? both (.text above) d = some (keys, f)) ∧
      env.override above d' = .ok d' ∧
      ∀ d'', (∀ name, env.get? name = none ∨ env'.get? name = none) → env'.override above d = .ok d'' →
        ∃ r, env'.override above d' = .ok r ∧ env.override above d'' = .ok r := by
  obtain ⟨heq, hstop⟩ := override_again hboth h
  have hself : ∀ name, env.get? name = (env.get? name).or (env.get? name) := fun name => Option.or_self.symm
  refine ⟨heq, hstop, (override_again hself h).1.trans h, fun d'' hdisjoint h'' => ?_⟩
  have hboth' : ∀ name, both.get? name = (env.get? name).or (env'.get? name) := by
    intro name
    rw [hboth]
    rcases hdisjoint name with hnone | hnone
    · rw [hnone, Option.or_none, Option.none_or]
    · rw [hnone, Option.or_none, Option.none_or]
  obtain ⟨r, hr⟩ := override_both_ok hboth h h''
  exact ⟨r, heq.trans hr, (override_again hboth' h'').1.trans hr⟩

theorem override_override_area :
    let d : Datum := .record [
      (.text "area", .record [(.text "note", .null), (.text "tags", .list [.text "a"]), (.text "size", .int 3)])]
    let result (note tags size : Datum) : Datum := .record [
      (.text "area", .record [(.text "note", note), (.text "tags", tags), (.text "size", size)])]
    let env : Environment := [("AUTOCOMBAT_AREA__NOTE", "1"), ("AUTOCOMBAT_AREA__TAGS", " , ")]
    let env' : Environment := [("AUTOCOMBAT_AREA__TAGS", "b, c"), ("AUTOCOMBAT_AREA__NOTE", "2")]
    let larger : Environment := [("AUTOCOMBAT_AREA__SIZE", "12")]
    let bad : Environment := [("AUTOCOMBAT_AREA__SIZE", "twelve")]
    let first := result (.text "1") (.list []) (.int 3)
    env.override "" d = .ok first ∧ env.override "" first = .ok first ∧
      env'.override "" first = .ok (result (.text "2") (.list [.text "b", .text "c"]) (.int 3)) ∧
      (∃ f, bad.override "" first = .error f ∧
        stop? bad (.text "") first = some ([.text "area", .text "size"], f) ∧
        stop? (bad ++ env) (.text "") d = some ([.text "area", .text "size"], f)) ∧
      larger.override "" first = .ok (result (.text "1") (.list []) (.int 12)) ∧
      env.override "" (result .null (.list [.text "a"]) (.int 12)) = larger.override "" first := by
  intro d result env env' larger bad first
  have h : env.override "" d = .ok first := rfl
  have hlarger : larger.override "" d = .ok (result .null (.list [.text "a"]) (.int 12)) := rfl
  obtain ⟨htwice, -, hsame, -⟩ := override_override env env' (env' ++ env) "" d first (get?_append env' env) h
  obtain ⟨-, hbad, -, -⟩ := override_override env bad (bad ++ env) "" d first (get?_append bad env) h
  obtain ⟨-, -, -, hswap⟩ := override_override env larger (larger ++ env) "" d first (get?_append larger env) h
  have hfault : bad.override "" first = .error (.unreadableInteger "twelve") := rfl
  obtain ⟨keys, hstop, hstop'⟩ := hbad _ hfault
  have hkeys : stop? bad (.text "") first = some ([.text "area", .text "size"], .unreadableInteger "twelve") := rfl
  rw [hkeys] at hstop
  cases hstop
  have hdisjoint : ∀ name, env.get? name = none ∨ larger.get? name = none := by
    intro name
    by_cases hname : name = "AUTOCOMBAT_AREA__SIZE"
    · subst hname
      exact Or.inl rfl
    · have hne : (name == "AUTOCOMBAT_AREA__SIZE") = false := beq_eq_false_iff_ne.mpr hname
      exact Or.inr (by simp [larger, Environment.get?, List.lookup_cons, hne])
  obtain ⟨r, hr, hr'⟩ := hswap _ hdisjoint hlarger
  have hvalue : larger.override "" first = .ok (result (.text "1") (.list []) (.int 12)) := rfl
  exact ⟨h, hsame, htwice.trans rfl, ⟨_, hfault, hkeys, hstop'⟩, hvalue, hr'.trans hr.symm⟩

end Environment
end CombatPlan
