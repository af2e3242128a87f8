import CombatPlan.Settings.Environment

/-!
# Names of variables

The keys on the way to a leaf are joined, from the first one on that is not empty (`foldlM_path`). Joined keys are
always a text. One that stands alone is kept as it is, so it names a variable only if it is a text itself.
-/

namespace CombatPlan.Environment

def joined (keys : List Scalar) : String :=
  "__".intercalate (keys.map (·.plainText))

def nameOf (keys : List Scalar) : String :=
  "AUTOCOMBAT_" ++ Text.capitals (joined keys)

def isLong : Scalar → Bool
  | .int n => Number.digitLimit < (Nat.toDigits 10 n.natAbs).length
  | _ => false

theorem isLong_of_isEmpty {k : Scalar} (h : k.isEmpty = true) : isLong k = false := by
  cases k with
  | int n =>
    have hn : n = 0 := by simpa [Scalar.isEmpty] using h
    subst hn
    decide
  | _ => rfl

theorem word_eq (k : Scalar) : word k = if isLong k then .error .oversizedKey else .ok k.plainText := by
  cases k with
  | int n => simp [word, isLong]
  | _ => rfl

theorem path_of_isEmpty {p : Scalar} (h : p.isEmpty = true) (k : Scalar) : path p k = .ok k := by
  unfold path
  rw [if_pos h]
  rfl

theorem path_of_not_isEmpty {p : Scalar} (h : p.isEmpty = false) (k : Scalar) :
    path p k = if [p, k].any isLong then .error .oversizedKey else .ok (.text (joined [p, k])) := by
  have hjoined : joined [p, k] = p.plainText ++ "__" ++ k.plainText := by
    simp [joined, String.intercalate_cons_cons]
  unfold path
  rw [word_eq, word_eq, hjoined, h]
  cases hp : isLong p
  · cases hk : isLong k
    · simp [hp, hk]; rfl
    · simp [hp, hk]; rfl
  · simp [hp]; rfl

theorem joined_text_cons (p k : Scalar) (keys : List Scalar) :
    joined (.text (joined [p, k]) :: keys) = joined (p :: k :: keys) := by
  cases keys with
  | nil => simp [joined, Scalar.plainText, String.intercalate_cons_cons]
  | cons k' keys => simp [joined, Scalar.plainText, String.intercalate_cons_cons, String.append_assoc]

theorem joined_pair_ne (p k : Scalar) : (joined [p, k]).isEmpty = false := by
  simp [joined, String.intercalate_cons_cons]

theorem foldlM_path_of_not_isEmpty : ∀ (keys : List Scalar) {p : Scalar}, p.isEmpty = false → keys ≠ [] →
    keys.foldlM path p =
      if (p :: keys).any isLong then .error .oversizedKey else .ok (.text (joined (p :: keys)))
  | [], _, _, h => absurd rfl h
  | [k], p, hp, _ => by
    rw [List.foldlM_cons, path_of_not_isEmpty hp]
    split <;> rfl
  | k :: k' :: keys, p, hp, _ => by
    -- What is joined has two underscores in it, so it is never forgotten again.
    have hjoined : (Scalar.text (joined [p, k])).isEmpty = false := joined_pair_ne p k
    have ih := foldlM_path_of_not_isEmpty (k' :: keys) hjoined (List.cons_ne_nil k' keys)
    rw [List.foldlM_cons, path_of_not_isEmpty hp]
    cases hlong : [p, k].any isLong with
    | true =>
      have hall : (p :: k :: k' :: keys).any isLong = true := by
        rw [show p :: k :: k' :: keys = [p, k] ++ k' :: keys from rfl, List.any_append, hlong, Bool.true_or]
      rw [hall]
      rfl
    | false =>
      have hall : (p :: k :: k' :: keys).any isLong = (k' :: keys).any isLong := by
        rw [show p :: k :: k' :: keys = [p, k] ++ k' :: keys from rfl, List.any_append, hlong, Bool.false_or]
      have htext : (Scalar.text (joined [p, k]) :: k' :: keys).any isLong = (k' :: keys).any isLong := by
        simp [isLong]
      rw [htext, joined_text_cons] at ih
      rw [hall]
      exact ih

/-- The path along keys, from an empty one on: a key behind empty ones only stands alone. -/
theorem foldlM_path : ∀ (above : List Scalar) (k : Scalar) {p : Scalar}, p.isEmpty = true →
    (above ++ [k]).foldlM path p =
      if above.all (·.isEmpty) then .ok k
      else if (above ++ [k]).any isLong then .error .oversizedKey
      else .ok (.text (joined ((above ++ [k]).dropWhile (·.isEmpty))))
  | [], k, p, hp => by
    simp only [List.nil_append, List.foldlM_cons, path_of_isEmpty hp]
    rfl
  | a :: above, k, p, hp => by
    rw [List.cons_append, List.foldlM_cons, path_of_isEmpty hp]
    show (above ++ [k]).foldlM path a = _
    cases ha : a.isEmpty with
    | true =>
      rw [foldlM_path above k ha]
      simp [ha, isLong_of_isEmpty ha]
    | false =>
      rw [foldlM_path_of_not_isEmpty (above ++ [k]) ha (by simp)]
      simp [ha]

end CombatPlan.Environment
