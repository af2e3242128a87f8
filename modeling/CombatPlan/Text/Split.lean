/-!
# Cutting a text at a separator

`cut` and `glue` are inverse to each other: a text falls into one more part than it has separators, and
no part contains one.
-/

namespace CombatPlan.Text

/-- The parts between the separators, the empty ones too. -/
def cut (sep : Char) : List Char → List (List Char)
  | [] => [[]]
  | c :: cs =>
    if c = sep then [] :: cut sep cs
    else
      match cut sep cs with
      | [] => [[c]]
      | part :: parts => (c :: part) :: parts

def glue (sep : Char) : List (List Char) → List Char
  | [] => []
  | [part] => part
  | part :: parts => part ++ sep :: glue sep parts

theorem cut_ne_nil (sep : Char) (cs : List Char) : cut sep cs ≠ [] := by
  cases cs with
  | nil => simp [cut]
  | cons c cs =>
    rw [cut]
    split
    · simp
    · split <;> simp

theorem glue_cons_cut (sep : Char) (part cs : List Char) :
    glue sep (part :: cut sep cs) = part ++ sep :: glue sep (cut sep cs) := by
  cases h : cut sep cs with
  | nil => exact absurd h (cut_ne_nil sep cs)
  | cons => rfl

theorem glue_cut (sep : Char) (cs : List Char) : glue sep (cut sep cs) = cs := by
  induction cs with
  | nil => rfl
  | cons c cs ih =>
    rw [cut]
    split
    · next h => rw [glue_cons_cut, ih, h, List.nil_append]
    · next h =>
      match hc : cut sep cs with
      | [] => exact absurd hc (cut_ne_nil sep cs)
      | [part] => rw [hc] at ih; simpa [glue] using ih
      | part :: other :: parts => rw [hc] at ih; simpa [glue] using ih

theorem cut_of_not_mem {sep : Char} {cs : List Char} (h : sep ∉ cs) : cut sep cs = [cs] := by
  induction cs with
  | nil => rfl
  | cons c cs ih =>
    simp only [List.mem_cons, not_or] at h
    simp [cut, Ne.symm h.1, ih h.2]

theorem cut_append {sep : Char} {part : List Char} (h : sep ∉ part) (cs : List Char) :
    cut sep (part ++ sep :: cs) = part :: cut sep cs := by
  induction part with
  | nil => simp [cut]
  | cons c part ih =>
    simp only [List.mem_cons, not_or] at h
    simp [cut, Ne.symm h.1, ih h.2]

theorem not_mem_of_mem_cut {sep : Char} : ∀ {cs part : List Char}, part ∈ cut sep cs → sep ∉ part
  | [], part, h => by
    rw [cut, List.mem_singleton] at h
    rw [h]; exact List.not_mem_nil
  | c :: cs, part, h => by
    rw [cut] at h
    split at h
    · rcases List.mem_cons.mp h with rfl | h
      · exact List.not_mem_nil
      · exact not_mem_of_mem_cut h
    · next hc =>
      have ih : ∀ p ∈ cut sep cs, sep ∉ p := fun p hp => not_mem_of_mem_cut hp
      split at h
      · rw [List.mem_singleton] at h
        rw [h, List.mem_singleton]; exact Ne.symm hc
      · next first rest hcut =>
        rw [hcut] at ih
        rcases List.mem_cons.mp h with rfl | h
        · rw [List.mem_cons, not_or]
          exact ⟨Ne.symm hc, ih first (List.mem_cons_self ..)⟩
        · exact ih part (List.mem_cons_of_mem _ h)

theorem cut_glue {sep : Char} : ∀ {parts : List (List Char)}, parts ≠ [] → (∀ p ∈ parts, sep ∉ p) →
    cut sep (glue sep parts) = parts
  | [], h, _ => absurd rfl h
  | [part], _, h => cut_of_not_mem (h part (List.mem_cons_self ..))
  | part :: other :: parts, _, h => by
    have ih : cut sep (glue sep (other :: parts)) = other :: parts :=
      cut_glue (List.cons_ne_nil other parts) fun p hp => h p (List.mem_cons_of_mem _ hp)
    show cut sep (part ++ sep :: glue sep (other :: parts)) = _
    rw [cut_append (h part (List.mem_cons_self ..)), ih]

/-! ## Glued texts as a whole -/

theorem glue_eq_intercalate (sep : Char) : ∀ parts : List (List Char), glue sep parts = [sep].intercalate parts
  | [] => rfl
  | [part] => by simp [glue]
  | part :: other :: parts => by
    rw [glue, glue_eq_intercalate sep (other :: parts)]
    · simp
    · exact List.cons_ne_nil other parts

theorem forall_mem_glue {P : Char → Prop} {sep : Char} (hsep : P sep) : ∀ {parts : List (List Char)},
    (∀ part ∈ parts, ∀ c ∈ part, P c) → ∀ c ∈ glue sep parts, P c
  | [], _ => nofun
  | [part], h => h part (List.mem_cons_self ..)
  | part :: other :: parts, h => by
    rw [List.forall_mem_cons] at h
    exact List.forall_mem_append.mpr ⟨h.1, List.forall_mem_cons.mpr ⟨hsep, forall_mem_glue hsep h.2⟩⟩

theorem length_le_glue (sep : Char) : ∀ {parts : List (List Char)}, (∀ part ∈ parts, part ≠ []) →
    parts.length ≤ (glue sep parts).length
  | [], _ => Nat.zero_le _
  | [part], h => List.length_pos_iff.mpr (h part (List.mem_cons_self ..))
  | part :: other :: parts, h => by
    have ih := length_le_glue sep fun p hp => h p (List.mem_cons_of_mem _ hp)
    show (part :: other :: parts).length ≤ (part ++ sep :: glue sep (other :: parts)).length
    rw [List.length_append, List.length_cons, List.length_cons (a := sep)]
    omega

end CombatPlan.Text
