import CombatPlan.Schema.Rule

/-!
# What rules ensure

A rule ensures what every value that it accepts satisfies. What the rules for the parts ensure carries over to the
rules for lists, fields and records.
-/

namespace CombatPlan.Schema

variable {α β : Type}

def Rule.Ensures (r : Rule α) (P : α → Prop) : Prop :=
  ∀ d a, r d = .valid a → P a

def Rule.Accepts (r : Rule α) (a : α) : Prop :=
  ∃ d, r d = .valid a

theorem Rule.Ensures.of_accepts {r : Rule α} {P : α → Prop} (hr : r.Ensures P) {a : α} (h : r.Accepts a) : P a := by
  obtain ⟨d, hd⟩ := h
  exact hr d a hd

theorem Rule.ensures_filledText : Rule.filledText.Ensures (· ≠ "") := by
  intro d a h
  obtain ⟨s, -, h⟩ := Checked.andThen_eq_valid.mp h
  by_cases hs : s = ""
  · rw [if_pos hs] at h; cases h
  · rw [if_neg hs] at h
    cases h
    exact hs

theorem Rule.ensures_oneOf (words : List String) : (Rule.oneOf words).Ensures (· ∈ words) := by
  intro d a h
  obtain ⟨s, -, h⟩ := Checked.andThen_eq_valid.mp h
  by_cases hs : s ∈ words
  · rw [if_pos hs] at h
    cases h
    exact hs
  · rw [if_neg hs] at h; cases h

theorem Rule.ensures_bounded (bounds : List Bound) :
    (Rule.bounded bounds).Ensures fun x => ∀ b ∈ bounds, Rule.keeps x b = true := by
  intro d a h
  obtain ⟨x, -, h⟩ := Checked.andThen_eq_valid.mp h
  cases hfind : bounds.find? (!Rule.keeps x ·) with
  | some b => rw [hfind] at h; cases h
  | none =>
    rw [hfind] at h
    cases h
    intro b hb
    simpa using List.find?_eq_none.mp hfind b hb

theorem Rule.bounded_float {bounds : List Bound} {x : Float} (h : ∀ b ∈ bounds, Rule.keeps x b = true) :
    Rule.bounded bounds (.float x) = .valid x := by
  have hnone : bounds.find? (!Rule.keeps x ·) = none := by
    simpa [List.find?_eq_none] using h
  simp only [Rule.bounded, Rule.number, Checked.andThen, hnone]

theorem Rule.ensures_items {r : Rule α} {P : α → Prop} (hr : r.Ensures P) : ∀ (ds : List Datum) (i : Nat) (as : List α),
    Rule.items r i ds = .valid as → ∀ a ∈ as, P a
  | [], _, _, h => by
    cases h
    exact List.forall_mem_nil _
  | d :: ds, i, as, h => by
    obtain ⟨g, rest, hg, hrest, rfl⟩ := Checked.seq_eq_valid.mp h
    obtain ⟨a, ha, rfl⟩ := Checked.map_eq_valid.mp hg
    exact List.forall_mem_cons.mpr
      ⟨hr d a (Checked.under_eq_valid.mp ha), ensures_items hr ds (i + 1) rest hrest⟩

theorem Rule.ensures_list {r : Rule α} {P : α → Prop} (hr : r.Ensures P) :
    (Rule.list r).Ensures fun as => ∀ a ∈ as, P a := by
  intro d as h
  cases d with
  | list ds => exact Rule.ensures_items hr ds 0 as h
  | _ => cases h

theorem required_eq_valid {name : String} {r : Rule α} {fields : List (Scalar × Datum)} {a : α} :
    required name r fields = .valid a ↔ ∃ d, Datum.find? (.text name) fields = some d ∧ r d = .valid a := by
  unfold required
  rw [Checked.under_eq_valid]
  cases Datum.find? (.text name) fields <;> simp [Checked.fail]

theorem required_ensures {name : String} {r : Rule α} {P : α → Prop} (hr : r.Ensures P)
    {fields : List (Scalar × Datum)} {a : α} (h : required name r fields = .valid a) : P a := by
  obtain ⟨d, -, hd⟩ := required_eq_valid.mp h
  exact hr d a hd

theorem optional_of_find? (name : String) {default : α} {r : Rule α} {fields : List (Scalar × Datum)} {d : Datum}
    (h : Datum.find? (.text name) fields = some d) :
    optional name default r fields = (r d).under (.field name) := by
  unfold optional
  rw [h]

theorem optional_ensures {name : String} {default : α} {r : Rule α} {P : α → Prop} (hr : r.Ensures P)
    (hdefault : P default) {fields : List (Scalar × Datum)} {a : α}
    (h : optional name default r fields = .valid a) : P a := by
  have h := Checked.under_eq_valid.mp h
  cases hd : Datum.find? (.text name) fields with
  | some d => rw [hd] at h; exact hr d a h
  | none => rw [hd] at h; cases h; exact hdefault

theorem Rule.ensures_model {name : String} {read : List (Scalar × Datum) → Checked α} {P : α → Prop}
    (h : ∀ fields a, read fields = .valid a → P a) : (Rule.model name read).Ensures P := by
  intro d a hd
  cases d with
  | record fields => exact h fields a hd
  | _ => cases hd

end CombatPlan.Schema
