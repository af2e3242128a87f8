import CombatPlan.Json.Text
import Mathlib.Data.List.Basic

/-!
# Texts in JSON and back

Each character is escaped in a way that is read back as this character, whatever stands behind it
(`exists_pieces`). So a text is read back as it was, and nothing but printable ASCII is needed to write it.
-/

namespace CombatPlan.Json

open Text (hex hexDigit)

def IsPlain (c : Char) : Prop :=
  0x20 ≤ c.toNat ∧ c.toNat ≤ 0x7E

/-! ## Digits -/

theorem hexValue?_hexDigit : ∀ n < 16, hexValue? (hexDigit n) = some n := by decide

theorem isPlain_hexDigit {n : Nat} (h : n < 16) : IsPlain (hexDigit n) := by
  have hall : ∀ n < 16, 0x20 ≤ (hexDigit n).toNat ∧ (hexDigit n).toNat ≤ 0x7E := by decide
  exact hall n h

theorem isPlain_hex : ∀ (width n : Nat), ∀ c ∈ hex width n, IsPlain c
  | 0, _ => List.forall_mem_nil _
  | width + 1, n => by
    rw [hex, List.forall_mem_append]
    exact ⟨isPlain_hex width (n / 16), List.forall_mem_singleton.mpr (isPlain_hexDigit (Nat.mod_lt n (by decide)))⟩

theorem isPlain_unitEscape (n : Nat) : ∀ c ∈ unitEscape n, IsPlain c := by
  rw [unitEscape, List.forall_mem_cons, List.forall_mem_cons]
  exact ⟨by unfold IsPlain; decide, by unfold IsPlain; decide, isPlain_hex 4 n⟩

theorem unit?_hex {n : Nat} (h : n < 0x10000) :
    unit? (hexDigit (n / 16 / 16 / 16 % 16)) (hexDigit (n / 16 / 16 % 16)) (hexDigit (n / 16 % 16)) (hexDigit (n % 16)) =
      some n := by
  have hdigit : ∀ m, hexValue? (hexDigit (m % 16)) = some (m % 16) := fun m =>
    hexValue?_hexDigit _ (Nat.mod_lt m (by decide))
  unfold unit?
  rw [hdigit, hdigit, hdigit, hdigit]
  show some ((((n / 16 / 16 / 16 % 16) * 16 + n / 16 / 16 % 16) * 16 + n / 16 % 16) * 16 + n % 16) = some n
  congr 1
  omega

theorem pieces?_unitEscape {n : Nat} (h : n < 0x10000) (cs : List Char) :
    pieces? (unitEscape n ++ cs) = (pieces? cs).map fun r => (.unit n :: r.1, r.2) := by
  show pieces? ('\\' :: 'u' :: hexDigit (n / 16 / 16 / 16 % 16) :: hexDigit (n / 16 / 16 % 16) ::
    hexDigit (n / 16 % 16) :: hexDigit (n % 16) :: cs) = _
  rw [pieces?, unit?_hex h]
  cases pieces? cs <;> rfl

/-! ## Short escapes -/

theorem mem_of_shortEscape? {c e : Char} (h : shortEscape? c = some e) :
    (c, e) ∈ [('"', '"'), ('\\', '\\'), ('\n', 'n'), ('\r', 'r'), ('\t', 't'), ('\x08', 'b'), ('\x0c', 'f')] := by
  obtain ⟨before, after, heq, -⟩ := List.lookup_eq_some_iff.mp h
  rw [heq]
  exact List.mem_append_right _ (List.mem_cons_self ..)

theorem pieces?_shortEscape {c e : Char} (h : shortEscape? c = some e) (cs : List Char) :
    pieces? ('\\' :: e :: cs) = (pieces? cs).map fun r => (.char c :: r.1, r.2) := by
  have hmem := mem_of_shortEscape? h
  simp only [List.mem_cons, List.not_mem_nil, or_false, Prod.mk.injEq] at hmem
  rcases hmem with ⟨rfl, rfl⟩ | ⟨rfl, rfl⟩ | ⟨rfl, rfl⟩ | ⟨rfl, rfl⟩ | ⟨rfl, rfl⟩ | ⟨rfl, rfl⟩ | ⟨rfl, rfl⟩
  all_goals
    rw [pieces?]
    · cases pieces? cs <;> rfl
    · simp

theorem pieces?_plain {c : Char} (h : 0x20 ≤ c.toNat) (hshort : shortEscape? c = none) (cs : List Char) :
    pieces? (c :: cs) = (pieces? cs).map fun r => (.char c :: r.1, r.2) := by
  have hquote : c ≠ '"' := by
    rintro rfl
    cases hshort
  have hslash : c ≠ '\\' := by
    rintro rfl
    cases hshort
  rw [pieces?]
  · rw [if_neg (Nat.not_lt.mpr h)]
    cases pieces? cs <;> rfl
  all_goals simp [hquote, hslash]

theorem isPlain_of_shortEscape? {c e : Char} (h : shortEscape? c = some e) : IsPlain e := by
  have hmem := mem_of_shortEscape? h
  simp only [List.mem_cons, List.not_mem_nil, or_false, Prod.mk.injEq] at hmem
  unfold IsPlain
  rcases hmem with ⟨-, rfl⟩ | ⟨-, rfl⟩ | ⟨-, rfl⟩ | ⟨-, rfl⟩ | ⟨-, rfl⟩ | ⟨-, rfl⟩ | ⟨-, rfl⟩ <;> decide

/-! ## Characters -/

theorem toNat_not_surrogate (c : Char) : c.toNat < 0xD800 ∨ 0xDFFF < c.toNat ∧ c.toNat < 0x110000 :=
  c.valid

theorem join?_unit {c : Char} (ps : List Piece) : join? (.unit c.toNat :: ps) = (join? ps).map (c :: ·) := by
  have hc := toNat_not_surrogate c
  rw [join?.eq_def]
  dsimp only
  rw [if_neg (by omega), if_neg (by omega), Char.ofNat_toNat]

theorem join?_pair {c : Char} (h : 0x10000 ≤ c.toNat) (ps : List Piece) :
    join? (.unit (0xD800 + (c.toNat - 0x10000) / 0x400) :: .unit (0xDC00 + (c.toNat - 0x10000) % 0x400) :: ps) =
      (join? ps).map (c :: ·) := by
  have hc := toNat_not_surrogate c
  have hsum : 0x10000 + (0xD800 + (c.toNat - 0x10000) / 0x400 - 0xD800) * 0x400 +
      (0xDC00 + (c.toNat - 0x10000) % 0x400 - 0xDC00) = c.toNat := by omega
  rw [join?, if_pos (by omega), if_pos (by omega), hsum, Char.ofNat_toNat]

theorem exists_pieces (c : Char) : ∃ ps : List Piece,
    (∀ cs, pieces? (encodeChar c ++ cs) = (pieces? cs).map fun r => (ps ++ r.1, r.2)) ∧
      ∀ qs, join? (ps ++ qs) = (join? qs).map (c :: ·) := by
  unfold encodeChar
  cases hshort : shortEscape? c with
  | some e => exact ⟨[.char c], pieces?_shortEscape hshort, fun _ => rfl⟩
  | none =>
    dsimp only
    split
    · next hplain => exact ⟨[.char c], pieces?_plain hplain.1 hshort, fun _ => rfl⟩
    · split
      · next hbasic => exact ⟨[.unit c.toNat], pieces?_unitEscape hbasic, join?_unit⟩
      · next hbasic =>
        have hc := toNat_not_surrogate c
        have hhigh : 0xD800 + (c.toNat - 0x10000) / 0x400 < 0x10000 := by omega
        have hlow : 0xDC00 + (c.toNat - 0x10000) % 0x400 < 0x10000 := by omega
        refine ⟨[.unit _, .unit _], fun cs => ?_, join?_pair (Nat.not_lt.mp hbasic)⟩
        rw [List.append_assoc, pieces?_unitEscape hhigh, pieces?_unitEscape hlow, Option.map_map]
        rfl

theorem isPlain_encodeChar (c : Char) : ∀ d ∈ encodeChar c, IsPlain d := by
  unfold encodeChar
  cases hshort : shortEscape? c with
  | some e =>
    rw [List.forall_mem_cons, List.forall_mem_singleton]
    exact ⟨by unfold IsPlain; decide, isPlain_of_shortEscape? hshort⟩
  | none =>
    dsimp only
    split
    · next hplain => exact List.forall_mem_singleton.mpr hplain
    · split
      · exact isPlain_unitEscape _
      · exact List.forall_mem_append.mpr ⟨isPlain_unitEscape _, isPlain_unitEscape _⟩

/-! ## Texts -/

theorem isPlain_encode (cs : List Char) : ∀ d ∈ encode cs, IsPlain d := by
  intro d hd
  obtain ⟨c, -, hd⟩ := List.mem_flatMap.mp hd
  exact isPlain_encodeChar c d hd

theorem isPlain_quote (s : String) : ∀ d ∈ quote s, IsPlain d := by
  have hquote : IsPlain '"' := by
    unfold IsPlain
    decide
  exact List.forall_mem_append.mpr ⟨List.forall_mem_cons.mpr ⟨hquote, isPlain_encode s.toList⟩,
    List.forall_mem_singleton.mpr hquote⟩

theorem exists_pieces_encode (rest : List Char) : ∀ cs : List Char, ∃ ps : List Piece,
    pieces? (encode cs ++ '"' :: rest) = some (ps, rest) ∧ join? ps = some cs
  | [] => ⟨[], rfl, rfl⟩
  | c :: cs => by
    obtain ⟨ps, hpieces, hjoin⟩ := exists_pieces c
    obtain ⟨qs, hqs, hcs⟩ := exists_pieces_encode rest cs
    refine ⟨ps ++ qs, ?_, ?_⟩
    · rw [encode, List.flatMap_cons, List.append_assoc, hpieces]
      exact congrArg _ hqs
    · rw [hjoin, hcs]
      rfl

theorem decode?_encode (cs rest : List Char) : decode? (encode cs ++ '"' :: rest) = some (cs, rest) := by
  obtain ⟨ps, hpieces, hjoin⟩ := exists_pieces_encode rest cs
  unfold decode?
  rw [hpieces]
  show (join? ps).bind (fun cs => some (cs, rest)) = _
  rw [hjoin]
  rfl

end CombatPlan.Json
