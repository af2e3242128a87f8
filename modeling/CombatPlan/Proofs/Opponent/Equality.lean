import CombatPlan.Realization
import Mathlib

/-!
# Equal opponents

Equality by value is symmetric and transitive. The two zeros are equal without being the same, but no question
that is asked of an opponent tells them apart.
-/

namespace CombatPlan

/-! ## Numbers -/

namespace Number

open Float.Model (UnpackedFloat)

theorem compare_zero (u : UnpackedFloat) (s s' : UnpackedFloat.Sign) :
    u.compare (.zero s) = u.compare (.zero s') := by
  cases u with
  | infinity s₀ => cases s₀ <;> rfl
  | notANumber => rfl
  | zero s₀ => rfl
  | finite s₀ => cases s₀ <;> rfl

theorem unpack_pack_zero (s : UnpackedFloat.Sign) : (Float.Model.pack (.zero s)).unpack = .zero s := by
  cases s <;> rfl

theorem mul_zero_cases (u : UnpackedFloat) :
    (∀ s, UnpackedFloat.mul .binary64 (.zero s) u = .notANumber) ∨
      ∀ s, ∃ s', UnpackedFloat.mul .binary64 (.zero s) u = .zero s' := by
  cases u with
  | infinity s₀ => exact Or.inl fun _ => rfl
  | notANumber => exact Or.inl fun _ => rfl
  | zero s₀ => exact Or.inr fun s => ⟨s * s₀, rfl⟩
  | finite s₀ => exact Or.inr fun s => ⟨s * s₀, rfl⟩

theorem le_iff (x y : Float) :
    x ≤ y ↔ (x.toModel.unpack.compare y.toModel.unpack).any (·.isLE) = true :=
  decide_eq_true_iff

theorem lt_iff (x y : Float) : x < y ↔ (x.toModel.unpack.compare y.toModel.unpack == some .lt) = true :=
  decide_eq_true_iff

theorem unpack_zero : (0 : Float).toModel.unpack = .zero .positive := rfl

theorem unpack_neg_zero : (-0 : Float).toModel.unpack = .zero .negative := rfl

theorem unpack_mul (x y : Float) : (x * y).toModel.unpack =
    (Float.Model.pack (UnpackedFloat.mul .binary64 x.toModel.unpack y.toModel.unpack)).unpack := rfl

theorem le_zero_iff (x : Float) : x ≤ 0 ↔ x ≤ -0 := by
  rw [le_iff, le_iff, unpack_zero, unpack_neg_zero, compare_zero _ .positive .negative]

theorem lt_zero_mul_iff (x y : Float) : x < 0 * y ↔ x < -0 * y := by
  rw [lt_iff, lt_iff, unpack_mul, unpack_mul, unpack_zero, unpack_neg_zero]
  rcases mul_zero_cases y.toModel.unpack with h | h
  · rw [h, h]
  · obtain ⟨s, hs⟩ := h .positive
    obtain ⟨s', hs'⟩ := h .negative
    rw [hs, hs', unpack_pack_zero, unpack_pack_zero, compare_zero _ s s']

theorem le_iff_of_beq {a b : Float} (h : (a == b) = true) (x : Float) : x ≤ a ↔ x ≤ b := by
  obtain ⟨-, -, rfl | ⟨rfl, rfl⟩ | ⟨rfl, rfl⟩⟩ := Float.beq_iff_ne_nan_and_eq.mp h
  · exact Iff.rfl
  · exact le_zero_iff x
  · exact (le_zero_iff x).symm

theorem lt_mul_iff_of_beq {a b : Float} (h : (a == b) = true) (x y : Float) : x < a * y ↔ x < b * y := by
  obtain ⟨-, -, rfl | ⟨rfl, rfl⟩ | ⟨rfl, rfl⟩⟩ := Float.beq_iff_ne_nan_and_eq.mp h
  · exact Iff.rfl
  · exact lt_zero_mul_iff x y
  · exact (lt_zero_mul_iff x y).symm

theorem ne_nan_of_nonneg {x : Float} (h : 0 ≤ x) : x ≠ Float.nan := by
  rintro rfl
  revert h
  decide

theorem isNaN_of_nonneg {x : Float} (h : 0 ≤ x) : x.isNaN = false := by
  rw [Float.isNaN_eq_decide_eq_nan, decide_eq_false_iff_not]
  exact ne_nan_of_nonneg h

theorem beq_self_of_nonneg {x : Float} (h : 0 ≤ x) : (x == x) = true :=
  Float.beq_iff_ne_nan_and_eq.mpr ⟨ne_nan_of_nonneg h, ne_nan_of_nonneg h, Or.inl rfl⟩

/-- The same number, if the two zeros are taken for one. -/
def Alike (x y : Float) : Prop :=
  x = y ∨ (x = 0 ∧ y = -0) ∨ (x = -0 ∧ y = 0)

theorem beq_iff_alike {x y : Float} (hx : 0 ≤ x) (hy : 0 ≤ y) : (x == y) = true ↔ Alike x y := by
  rw [Float.beq_iff_ne_nan_and_eq, and_iff_right (ne_nan_of_nonneg hx), and_iff_right (ne_nan_of_nonneg hy), Alike]

end Number

/-! ## Opponents -/

namespace Opponent

instance : PartialEquivBEq Opponent where
  symm h := by
    obtain ⟨hn, hi, hd, hr⟩ := beq_iff.mp h
    exact beq_iff.mpr ⟨hn.symm, hi.symm, PartialEquivBEq.symm hd, PartialEquivBEq.symm hr⟩
  trans h h' := by
    obtain ⟨hn, hi, hd, hr⟩ := beq_iff.mp h
    obtain ⟨hn', hi', hd', hr'⟩ := beq_iff.mp h'
    exact beq_iff.mpr ⟨hn.trans hn', hi.trans hi', PartialEquivBEq.trans hd hd', PartialEquivBEq.trans hr hr'⟩

theorem Valid.bounds {o : Opponent} (h : o.Valid) : 0 ≤ o.defense ∧ 0 ≤ o.resistance ∧ o.resistance ≤ 100 := by
  have hzero : Number.ofInt (0 : Nat) = 0 := by decide
  have hhundred : Number.ofInt (100 : Nat) = 100 := by decide
  refine ⟨?_, ?_, ?_⟩
  · rw [← hzero]
    exact of_decide_eq_true h.defense_nonneg
  · rw [← hzero]
    exact of_decide_eq_true h.resistance_nonneg
  · rw [← hhundred]
    exact of_decide_eq_true h.resistance_le

theorem Valid.beq_iff_alike {a b : Opponent} (ha : a.Valid) (hb : b.Valid) : (a == b) = true ↔
    a.name = b.name ∧ a.monsterId = b.monsterId ∧ Number.Alike a.defense b.defense ∧
      Number.Alike a.resistance b.resistance := by
  rw [beq_iff, Number.beq_iff_alike ha.bounds.1 hb.bounds.1, Number.beq_iff_alike ha.bounds.2.1 hb.bounds.2.1]

theorem any_beq_congr_left {o? o'? : Option Opponent} (h : (o? == o'?) = true) (t : Opponent) :
    o?.any (· == t) = o'?.any (· == t) := by
  cases o? with
  | none =>
    cases o'? with
    | none => rfl
    | some o' => cases h
  | some o =>
    cases o'? with
    | none => cases h
    | some o' => exact BEq.congr_left h

theorem any_beq_congr_right {k t : Opponent} (h : (k == t) = true) (o? : Option Opponent) :
    o?.any (· == k) = o?.any (· == t) := by
  simp only [BEq.congr_right h]

theorem Valid.beq_self {o : Opponent} (h : o.Valid) : (o == o) = true := by
  obtain ⟨hdefense, hresistance, -⟩ := h.bounds
  exact beq_iff.mpr ⟨rfl, rfl, Number.beq_self_of_nonneg hdefense, Number.beq_self_of_nonneg hresistance⟩

end Opponent

end CombatPlan
