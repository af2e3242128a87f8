import CombatPlan.Proofs.Datum.Memory
import CombatPlan.Settings

/-!
# How deep rules look

A rule looks to a depth if it reads a datum as it reads what is left of it when it is cut there. Rules for lists and
records look one level deeper than the rules for their parts, and the rule for settings looks four levels deep.
-/

namespace CombatPlan

namespace Schema

variable {α β : Type}

def Rule.Looks (depth : Nat) (r : Rule α) : Prop :=
  ∀ d, r (d.cut depth) = r d

theorem Rule.Looks.mono {n k : Nat} {r : Rule α} (h : r.Looks n) (hn : n ≤ k) : r.Looks k := by
  intro d
  rw [← h (d.cut k), Datum.cut_cut d hn, h]

theorem Rule.Looks.eq_of_cut_eq {n : Nat} {r : Rule α} (h : r.Looks n) {d d' : Datum} (heq : d.cut n = d'.cut n) :
    r d = r d' := by
  rw [← h d, heq, h]

theorem Rule.looks_text (n : Nat) : Rule.text.Looks n := by
  intro d
  cases n <;> cases d <;> rfl

theorem Rule.looks_filledText (n : Nat) : Rule.filledText.Looks n := by
  intro d
  rw [filledText, filledText, looks_text]

theorem Rule.looks_oneOf (n : Nat) (words : List String) : (Rule.oneOf words).Looks n := by
  intro d
  rw [oneOf, oneOf, looks_text]

theorem Rule.looks_choice (n : Nat) (choices : List (String × α)) : (Rule.choice choices).Looks n := by
  intro d
  cases n <;> cases d <;> rfl

theorem Rule.looks_bounded (n : Nat) (bounds : List Bound) : (Rule.bounded bounds).Looks n := by
  have hnumber : Rule.number.Looks n := by
    intro d
    cases n <;> cases d <;> rfl
  intro d
  rw [bounded, bounded, hnumber]

theorem Rule.items_map_cut {n : Nat} {r : Rule α} (h : r.Looks n) : ∀ (i : Nat) (ds : List Datum),
    Rule.items r i (ds.map (Datum.cut n)) = Rule.items r i ds
  | _, [] => rfl
  | i, d :: ds => by
    rw [List.map_cons, items, items, h, items_map_cut h (i + 1) ds]

theorem Rule.looks_list {n : Nat} {r : Rule α} (h : r.Looks n) : (Rule.list r).Looks (n + 1) := by
  intro d
  cases d with
  | list ds => exact items_map_cut h 0 ds
  | _ => rfl

/-! ## Records -/

def cutFields (depth : Nat) (fields : List (Scalar × Datum)) : List (Scalar × Datum) :=
  fields.map fun (k, d) => (k, d.cut depth)

theorem find?_cutFields (n : Nat) (k : Scalar) : ∀ fields : List (Scalar × Datum),
    Datum.find? k (cutFields n fields) = (Datum.find? k fields).map (Datum.cut n)
  | [] => rfl
  | (k', d) :: fields => by
    have hrest := find?_cutFields n k fields
    unfold cutFields at hrest ⊢
    rw [List.map_cons, Datum.find?, Datum.find?, hrest]
    split <;> rfl

theorem required_cutFields {n : Nat} {r : Rule α} (h : r.Looks n) (name : String) (fields : List (Scalar × Datum)) :
    required name r (cutFields n fields) = required name r fields := by
  unfold required
  rw [find?_cutFields]
  cases Datum.find? (.text name) fields with
  | some d => exact congrArg _ (h d)
  | none => rfl

theorem optional_cutFields {n : Nat} {r : Rule α} (h : r.Looks n) (name : String) (default : α)
    (fields : List (Scalar × Datum)) : optional name default r (cutFields n fields) = optional name default r fields := by
  unfold optional
  rw [find?_cutFields]
  cases Datum.find? (.text name) fields with
  | some d => exact congrArg _ (h d)
  | none => rfl

theorem Rule.looks_model {n : Nat} {name : String} {read : List (Scalar × Datum) → Checked α}
    (h : ∀ fields, read (cutFields n fields) = read fields) : (Rule.model name read).Looks (n + 1) := by
  intro d
  cases d with
  | record fields => exact h fields
  | _ => rfl

end Schema

/-! ## Settings -/

open Schema

theorem Debuff.looks_rule : Debuff.rule.Looks 1 := by
  refine Rule.looks_model fun fields => ?_
  have htool : Tool.rule.Looks 0 := Rule.looks_choice 0 _
  rw [required_cutFields htool, required_cutFields (Rule.looks_filledText 0)]

theorem Tactics.looks_rule : Tactics.rule.Looks 3 := by
  refine Rule.looks_model fun fields => ?_
  have hopeners : (Rule.list Rule.text).Looks 2 := Rule.looks_list (Rule.looks_text 1)
  have hdebuffs : (Rule.list Debuff.rule).Looks 2 := Rule.looks_list Debuff.looks_rule
  simp only [optional_cutFields (Rule.looks_bounded 2 _), optional_cutFields hopeners, optional_cutFields hdebuffs,
    optional_cutFields (Rule.looks_filledText 2)]

theorem LogSettings.looks_rule : LogSettings.rule.Looks 1 :=
  Rule.looks_model fun fields => by
    simp only [optional_cutFields (Rule.looks_oneOf 0 _)]

theorem Settings.looks_rule : Settings.rule.Looks Settings.reach :=
  Rule.looks_model fun fields => by
    rw [optional_cutFields Tactics.looks_rule, optional_cutFields (LogSettings.looks_rule.mono (by decide))]

end CombatPlan
