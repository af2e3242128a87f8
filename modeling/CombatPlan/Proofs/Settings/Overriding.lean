import CombatPlan.Proofs.Settings.Places

/-!
# Overriding named settings

If all keys of a document are texts with something in them, every leaf has a variable, spelled by the keys that lead
to it. Then nothing but a number can fail to be overridden, by a text that is none, and nothing but the variables of
leaves has a part in the outcome (`override_of_named`).
-/

namespace CombatPlan.Environment

open Datum

/-! ## One leaf -/

def Unreadable (t : String) : Datum → Prop
  | .int _ => ∃ f, Number.settingInt t = .error f
  | .float _ => Number.settingFloat? t = none
  | _ => False

theorem isRecord_of_unreadable {t : String} {v : Datum} (h : Unreadable t v) : v.isRecord = false := by
  cases v with
  | record fields => cases h
  | list items => rfl
  | scalar s => rfl

inductive Reads (t : String) : Datum → Datum → Prop
  | bool (b : Bool) :
      Reads t (.bool b) (.bool (decide (String.ofList (t.toList.map Char.toLower) ∈ ["true", "1", "yes"])))
  | int (m : Int) {n : Int} : Number.settingInt t = .ok n → Reads t (.int m) (.int n)
  | float (x : Float) {y : Float} : Number.settingFloat? t = some y → Reads t (.float x) (.float y)
  | texts {items : List Datum} : (∀ d ∈ items, isText d = true) → Reads t (.list items) (.list ((parts t).map .text))
  | mixed {items : List Datum} {d : Datum} : d ∈ items → isText d = false → Reads t (.list items) (.list items)
  | null : Reads t .null (.text t)
  | text (s : String) : Reads t (.text s) (.text t)
  | date (d : Date) : Reads t (.scalar (.date d)) (.text t)
  | timestamp (w : Timestamp) : Reads t (.scalar (.timestamp w)) (.text t)

theorem isTrue_eq (t : String) :
    isTrue t = decide (String.ofList (t.toList.map Char.toLower) ∈ ["true", "1", "yes"]) := by
  simp only [isTrue, List.mem_cons, List.not_mem_nil, or_false, Bool.decide_or, Bool.or_assoc]
  rfl

theorem convert_fails_iff {leaf : Datum} {t : String} : (∃ f, convert leaf t = .error f) ↔ Unreadable t leaf := by
  unfold convert Unreadable
  cases leaf with
  | scalar s =>
    cases s with
    | int n =>
      dsimp only
      cases Number.settingInt t with
      | ok m => simp
      | error f => cases f <;> simp
    | float x =>
      dsimp only
      cases Number.settingFloat? t <;> simp
    | _ => simp
  | list items => simp
  | record fields => simp

theorem convert_list_eq_ok_iff {items : List Datum} {t : String} {d : Datum} :
    convert (.list items) t = .ok d ↔ Reads t (.list items) d := by
  unfold convert
  dsimp only
  cases h : items.all isText with
  | true =>
    have hall := List.all_eq_true.mp h
    rw [if_pos rfl]
    constructor
    · intro hd
      cases hd
      exact .texts hall
    · intro hd
      cases hd with
      | texts _ => rfl
      | mixed hmem hd => rw [hall _ hmem] at hd; cases hd
  | false =>
    obtain ⟨d', hmem, hd'⟩ := List.all_eq_false.mp h
    rw [if_neg Bool.false_ne_true]
    constructor
    · intro hd
      cases hd
      exact .mixed hmem (Bool.eq_false_iff.mpr hd')
    · intro hd
      cases hd with
      | texts hall => exact absurd (hall d' hmem) hd'
      | mixed _ _ => rfl

theorem convert_eq_ok_iff {leaf d : Datum} {t : String} (h : leaf.isRecord = false) :
    convert leaf t = .ok d ↔ Reads t leaf d := by
  cases leaf with
  | record fields => cases h
  | list items => exact convert_list_eq_ok_iff
  | scalar s =>
    constructor
    · intro hd
      cases s with
      | int n =>
        simp only [convert] at hd
        cases hn : Number.settingInt t with
        | ok m => rw [hn] at hd; cases hd; exact .int n hn
        | error f => rw [hn] at hd; cases f <;> cases hd
      | float x =>
        simp only [convert] at hd
        cases hx : Number.settingFloat? t with
        | some y => rw [hx] at hd; cases hd; exact .float x hx
        | none => rw [hx] at hd; cases hd
      | bool b =>
        simp only [convert, isTrue_eq] at hd
        cases hd
        exact .bool b
      | null => cases hd; exact .null
      | text s => cases hd; exact .text s
      | date d => cases hd; exact .date d
      | timestamp w => cases hd; exact .timestamp w
    · intro hd
      cases hd with
      | bool b => simp [convert, isTrue_eq]
      | int m hn => simp [convert, hn]
      | float x hx => simp [convert, hx]
      | _ => rfl

theorem overrideLeaf_of_name {env : Environment} {p : Scalar} {name : String} (hname : variableName p = .ok name)
    (leaf : Datum) : overrideLeaf env p leaf = (env.get? name).elim (.ok leaf) (convert leaf) := by
  cases hget : env.get? name with
  | none =>
    simp only [overrideLeaf, hname, bind, Except.bind, hget]
    rfl
  | some t =>
    simp only [overrideLeaf, hname, bind, Except.bind, hget]
    rfl

theorem overrideLeaf_of_unnamed {env : Environment} {p : Scalar} {f : OverrideFault} (hname : variableName p = .error f)
    (leaf : Datum) : overrideLeaf env p leaf = .error f := by
  unfold overrideLeaf
  rw [hname]
  rfl

theorem overrideLeaf_fails_iff {env : Environment} {s : String} {leaf : Datum} :
    (∃ f, overrideLeaf env (.text s) leaf = .error f) ↔
      ∃ t, env.get? ("AUTOCOMBAT_" ++ Text.capitals s) = some t ∧ Unreadable t leaf := by
  have hname : variableName (.text s) = .ok ("AUTOCOMBAT_" ++ Text.capitals s) := rfl
  rw [overrideLeaf_of_name hname]
  cases env.get? ("AUTOCOMBAT_" ++ Text.capitals s) with
  | none => simp
  | some t => simp [convert_fails_iff]

/-- What becomes of the leaf that keys lead to. -/
inductive Becomes (env : Environment) (keys : List Scalar) : Datum → Datum → Prop
  | unset {leaf : Datum} : env.get? (nameOf keys) = none → Becomes env keys leaf leaf
  | set {leaf d : Datum} {t : String} : env.get? (nameOf keys) = some t → Reads t leaf d → Becomes env keys leaf d

theorem settle_fails_iff {env : Environment} {keys : List Scalar} {s : String} {v : Datum}
    (h : keys.foldlM path (.text "") = .ok (.text s)) :
    (∃ f, settle env (.text "") keys v = .error f) ↔
      ∃ t, env.get? ("AUTOCOMBAT_" ++ Text.capitals s) = some t ∧ Unreadable t v := by
  rw [settle_of_path h]
  cases hv : v.isRecord with
  | true =>
    refine iff_of_false nofun ?_
    rintro ⟨t, -, hu⟩
    rw [isRecord_of_unreadable hu] at hv
    cases hv
  | false => exact overrideLeaf_fails_iff

/-! ## Named settings -/

/-- All keys on the way to anything that the document holds are texts with something in them. -/
def Named (d : Datum) : Prop :=
  ∀ keys v, d.Holds keys v → ∀ k ∈ keys, ∃ s, s ≠ "" ∧ k = .text s

theorem named_scalar (s : Scalar) : Named (.scalar s) := by
  intro keys v hv k hk
  cases hv
  cases hk

theorem named_list (items : List Datum) : Named (.list items) := by
  intro keys v hv k hk
  cases hv
  cases hk

theorem named_record_iff {fields : List (Scalar × Datum)} :
    Named (.record fields) ↔ ∀ k d, (k, d) ∈ fields → (∃ s, s ≠ "" ∧ k = .text s) ∧ Named d := by
  constructor
  · intro h k d hmem
    refine ⟨h [k] d (.field hmem (.here d)) k (List.mem_cons_self ..), ?_⟩
    intro keys v hv k' hk'
    exact h (k :: keys) v (.field hmem hv) k' (List.mem_cons_of_mem _ hk')
  · intro h keys v hv k' hk'
    cases hv with
    | here => cases hk'
    | field hmem hv =>
      obtain ⟨hk, hd⟩ := h _ _ hmem
      rcases List.mem_cons.mp hk' with rfl | hk'
      · exact hk
      · exact hd _ _ hv k' hk'

section
variable {keys : List Scalar} (h : ∀ k ∈ keys, ∃ s, s ≠ "" ∧ k = .text s)
include h

theorem isEmpty_of_named {k : Scalar} (hk : k ∈ keys) : k.isEmpty = false := by
  obtain ⟨s, hs, rfl⟩ := h k hk
  simpa [Scalar.isEmpty] using hs

theorem isLong_of_named {k : Scalar} (hk : k ∈ keys) : isLong k = false := by
  obtain ⟨s, -, rfl⟩ := h k hk
  rfl

theorem foldlM_path_of_named : keys.foldlM path (.text "") = .ok (.text (joined keys)) := by
  rcases List.eq_nil_or_concat keys with rfl | ⟨above, k, rfl⟩
  · rfl
  · have hempty : (Scalar.text "").isEmpty = true := rfl
    rw [List.concat_eq_append] at h ⊢
    rw [foldlM_path above k hempty]
    cases above with
    | nil =>
      obtain ⟨s, -, hs⟩ := h k (List.mem_cons_self ..)
      subst hs
      rfl
    | cons a above =>
      have ha := isEmpty_of_named h (List.mem_cons_self ..)
      have hlong : (a :: above ++ [k]).any isLong = false := by
        rw [List.any_eq_false]
        intro k' hk'
        simp [isLong_of_named h hk']
      rw [hlong]
      simp [ha]

theorem settle_of_named (env : Environment) {leaf : Datum} (hleaf : leaf.isRecord = false) :
    settle env (.text "") keys leaf =
      match env.get? (nameOf keys) with
      | some t => convert leaf t
      | none => .ok leaf := by
  rw [settle_of_path (foldlM_path_of_named h), hleaf]
  rfl

theorem settle_of_isRecord (env : Environment) {v : Datum} (hv : v.isRecord = true) :
    settle env (.text "") keys v = .ok v := by
  rw [settle_of_path (foldlM_path_of_named h), if_pos hv]

theorem settle_eq_ok_iff_of_named {env : Environment} {leaf d : Datum} (hleaf : leaf.isRecord = false) :
    settle env (.text "") keys leaf = .ok d ↔ Becomes env keys leaf d := by
  rw [settle_of_named h env hleaf]
  cases ht : env.get? (nameOf keys) with
  | none =>
    constructor
    · intro hd
      cases hd
      exact .unset ht
    · intro hd
      cases hd with
      | unset _ => rfl
      | set ht' _ => rw [ht] at ht'; cases ht'
  | some t =>
    dsimp only
    rw [convert_eq_ok_iff hleaf]
    constructor
    · exact .set ht
    · intro hd
      cases hd with
      | unset ht' => rw [ht] at ht'; cases ht'
      | set ht' hd =>
        rw [ht] at ht'
        cases ht'
        exact hd

end

theorem override_record (env : Environment) (fields : List (Scalar × Datum)) :
    env.override "" (.record fields) = overrideValue env (.text "") (.record fields) := by
  rw [overrideValue]
  rfl

theorem override_eq_ok_iff {env : Environment} {fields : List (Scalar × Datum)} {d : Datum}
    (h : Named (.record fields)) :
    env.override "" (.record fields) = .ok d ↔ Leafwise (Becomes env) (.record fields) d := by
  rw [override_record, overrideValue_eq_ok_iff _ _ _ fun keys v hv => ⟨_, foldlM_path_of_named (h keys v hv)⟩]
  constructor
  · intro hd
    apply hd.imp
    intro keys leaf d' hv hleaf
    exact (settle_eq_ok_iff_of_named (h keys leaf hv) hleaf).mp
  · intro hd
    apply hd.imp
    intro keys leaf d' hv hleaf
    exact (settle_eq_ok_iff_of_named (h keys leaf hv) hleaf).mpr

/-- **Overrides.** A document of named settings cannot be overridden if some number has a variable that is none. Otherwise it
keeps its keys at every level, and every leaf becomes what its variable says. -/
theorem override_of_named (env : Environment) (fields : List (Scalar × Datum)) (h : Named (.record fields)) :
    ((∃ f, env.override "" (.record fields) = .error f) ↔
      ∃ keys leaf t, (record fields).Holds keys leaf ∧ env.get? (nameOf keys) = some t ∧ Unreadable t leaf) ∧
    (∀ d, env.override "" (.record fields) = .ok d ↔ Leafwise (Becomes env) (.record fields) d) ∧
    ∀ env' : Environment,
      (∀ keys leaf, (record fields).Holds keys leaf → leaf.isRecord = false →
        env'.get? (nameOf keys) = env.get? (nameOf keys)) →
      env'.override "" (.record fields) = env.override "" (.record fields) := by
  refine ⟨?_, fun d => override_eq_ok_iff h, fun env' hsame => ?_⟩
  · rw [override_record, overrideValue_fails_iff]
    constructor
    · rintro ⟨keys, leaf, hleaf, hf⟩
      obtain ⟨t, ht⟩ := (settle_fails_iff (foldlM_path_of_named (h keys leaf hleaf))).mp hf
      exact ⟨keys, leaf, t, hleaf, ht⟩
    · rintro ⟨keys, leaf, t, hleaf, ht⟩
      exact ⟨keys, leaf, hleaf, (settle_fails_iff (foldlM_path_of_named (h keys leaf hleaf))).mpr ⟨t, ht⟩⟩
  · rw [override_record, override_record]
    apply overrideValue_congr fun keys v hv => ⟨_, foldlM_path_of_named (h keys v hv)⟩
    intro keys v hv
    cases hleaf : v.isRecord with
    | true => rw [settle_of_isRecord (h keys v hv) _ hleaf, settle_of_isRecord (h keys v hv) _ hleaf]
    | false => rw [settle_of_named (h keys v hv) _ hleaf, settle_of_named (h keys v hv) _ hleaf, hsame keys v hv hleaf]

theorem override_of_named_area :
    let fields : List (Scalar × Datum) := [
      (.text "area", .record [(.text "size", .int 3), (.text "tags", .list []), (.text "wide", .bool true)])]
    let fields' : List (Scalar × Datum) := [
      (.text "area", .record [(.text "size", .int 12), (.text "tags", .list [.text "a", .text "b"]),
        (.text "wide", .bool true)])]
    let env : Environment :=
      [("AUTOCOMBAT_AREA", "x"), ("AUTOCOMBAT_AREA__SIZE", " 12 "), ("AUTOCOMBAT_AREA__TAGS", "a,, b")]
    let bad : Environment := [("AUTOCOMBAT_AREA__SIZE", "twelve")]
    Named (.record fields) ∧ env.override "" (.record fields) = .ok (.record fields') ∧
      (∃ f, bad.override "" (.record fields) = .error f) ∧
      Environment.override (("AUTOCOMBAT_AREA__DEPTH", "1") :: env) "" (.record fields) = .ok (.record fields') := by
  intro fields fields' env bad
  have hname : ∀ s : String, s ≠ "" → ∃ s', s' ≠ "" ∧ Scalar.text s = .text s' := fun s hs => ⟨s, hs, rfl⟩
  have hnamed : Named (.record fields) := by
    simp only [fields, named_record_iff, List.mem_cons, List.not_mem_nil, or_false, Prod.mk.injEq]
    rintro _ _ ⟨rfl, rfl⟩
    refine ⟨hname _ (by decide), named_record_iff.mpr ?_⟩
    simp only [List.mem_cons, List.not_mem_nil, or_false, Prod.mk.injEq]
    rintro _ _ (⟨rfl, rfl⟩ | ⟨rfl, rfl⟩ | ⟨rfl, rfl⟩)
    · exact ⟨hname _ (by decide), named_scalar _⟩
    · exact ⟨hname _ (by decide), named_list _⟩
    · exact ⟨hname _ (by decide), named_scalar _⟩
  have hsize : Becomes env [.text "area", .text "size"] (.int 3) (.int 12) := .set rfl (.int 3 rfl)
  have htags : Becomes env [.text "area", .text "tags"] (.list []) (.list [.text "a", .text "b"]) :=
    .set rfl (.texts (List.forall_mem_nil _))
  have hwide : Becomes env [.text "area", .text "wide"] (.bool true) (.bool true) := .unset rfl
  have hall : Leafwise (Becomes env) (.record fields) (.record fields') :=
    .record (.cons (.record (.cons (.leaf rfl hsize) (.cons (.leaf rfl htags) (.cons (.leaf rfl hwide) .nil)))) .nil)
  have hok := ((override_of_named env fields hnamed).2.1 _).mpr hall
  refine ⟨hnamed, hok, ?_, ?_⟩
  · have hholds : (record fields).Holds [.text "area", .text "size"] (.int 3) :=
      .field (List.mem_cons_self ..) (.field (List.mem_cons_self ..) (.here _))
    exact (override_of_named bad fields hnamed).1.mpr ⟨_, _, "twelve", hholds, rfl, .unreadable, rfl⟩
  · refine ((override_of_named env fields hnamed).2.2 _ ?_).trans hok
    intro keys leaf hv hleaf
    cases hv with
    | here => cases hleaf
    | field hmem hv =>
      cases List.mem_singleton.mp hmem
      cases hv with
      | here => cases hleaf
      | field hmem hv =>
        simp only [List.mem_cons, List.not_mem_nil, or_false, Prod.mk.injEq] at hmem
        rcases hmem with ⟨rfl, rfl⟩ | ⟨rfl, rfl⟩ | ⟨rfl, rfl⟩
        · cases hv; rfl
        · cases hv; rfl
        · cases hv; rfl

end CombatPlan.Environment
