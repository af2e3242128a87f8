import CombatPlan.Datum.Basic

/-!
# Leaves of plain data

A record holds further data under its keys; everything else is a leaf, lists included. Two data match leaf by leaf
if their records have the same keys in the same order at every level and their leaves are related. What relates two
leaves may depend on the keys that lead to them.
-/

namespace CombatPlan.Datum

def isRecord : Datum → Bool
  | record _ => true
  | list _ => false
  | scalar _ => false

/-- The keys lead from a datum through records to a value. -/
inductive Holds : Datum → List Scalar → Datum → Prop
  | here (d : Datum) : Holds d [] d
  | field {fields : List (Scalar × Datum)} {k : Scalar} {d v : Datum} {keys : List Scalar} :
      (k, d) ∈ fields → Holds d keys v → Holds (record fields) (k :: keys) v

mutual

inductive Leafwise : (List Scalar → Datum → Datum → Prop) → Datum → Datum → Prop
  | leaf {R d d'} : d.isRecord = false → R [] d d' → Leafwise R d d'
  | record {R fields fields'} : LeafwiseFields R fields fields' → Leafwise R (record fields) (record fields')

inductive LeafwiseFields :
    (List Scalar → Datum → Datum → Prop) → List (Scalar × Datum) → List (Scalar × Datum) → Prop
  | nil {R} : LeafwiseFields R [] []
  | cons {R k d d' fields fields'} : Leafwise (fun keys => R (k :: keys)) d d' →
      LeafwiseFields R fields fields' → LeafwiseFields R ((k, d) :: fields) ((k, d') :: fields')

end

variable {R S : List Scalar → Datum → Datum → Prop}

theorem leafwise_leaf_iff {d d' : Datum} (h : d.isRecord = false) : Leafwise R d d' ↔ R [] d d' := by
  constructor
  · intro hd
    cases hd with
    | leaf _ hR => exact hR
    | record _ => cases h
  · exact .leaf h

theorem leafwise_record_iff {fields : List (Scalar × Datum)} {d' : Datum} :
    Leafwise R (record fields) d' ↔ ∃ fields', LeafwiseFields R fields fields' ∧ d' = record fields' := by
  constructor
  · intro hd
    cases hd with
    | leaf h _ => cases h
    | record hfields => exact ⟨_, hfields, rfl⟩
  · rintro ⟨fields', hfields, rfl⟩
    exact .record hfields

theorem leafwiseFields_cons_iff {k : Scalar} {d : Datum} {fields fields' : List (Scalar × Datum)} :
    LeafwiseFields R ((k, d) :: fields) fields' ↔
      ∃ d' rest, Leafwise (fun keys => R (k :: keys)) d d' ∧ LeafwiseFields R fields rest ∧
        fields' = (k, d') :: rest := by
  constructor
  · intro h
    cases h with
    | cons hd hrest => exact ⟨_, _, hd, hrest, rfl⟩
  · rintro ⟨d', rest, hd, hrest, rfl⟩
    exact .cons hd hrest

mutual

theorem Leafwise.imp : ∀ {R S : List Scalar → Datum → Datum → Prop} {d d' : Datum}, Leafwise R d d' →
    (∀ keys v v', d.Holds keys v → v.isRecord = false → R keys v v' → S keys v v') → Leafwise S d d'
  | _, _, d, _, .leaf hleaf hR, h => .leaf hleaf (h [] d _ (.here d) hleaf hR)
  | _, _, _, _, .record hfields, h =>
    .record (hfields.imp fun _ _ hmem _ v v' hv => h _ v v' (.field hmem hv))

theorem LeafwiseFields.imp : ∀ {R S : List Scalar → Datum → Datum → Prop} {fields fields' : List (Scalar × Datum)},
    LeafwiseFields R fields fields' →
    (∀ k d, (k, d) ∈ fields → ∀ keys v v', d.Holds keys v → v.isRecord = false → R (k :: keys) v v' →
      S (k :: keys) v v') → LeafwiseFields S fields fields'
  | _, _, _, _, .nil, _ => .nil
  | _, _, _, _, .cons hd hrest, h =>
    .cons (hd.imp (h _ _ (List.mem_cons_self ..)))
      (hrest.imp fun k d hmem => h k d (List.mem_cons_of_mem _ hmem))

end

mutual

theorem Leafwise.and : ∀ {R S : List Scalar → Datum → Datum → Prop} {d d' : Datum}, Leafwise R d d' →
    Leafwise S d d' → Leafwise (fun keys v v' => R keys v v' ∧ S keys v v') d d'
  | _, _, _, _, .leaf hleaf hR, h => .leaf hleaf ⟨hR, (leafwise_leaf_iff hleaf).mp h⟩
  | _, _, _, _, .record hfields, h => by
    obtain ⟨fields', hfields', heq⟩ := leafwise_record_iff.mp h
    cases heq
    exact .record (hfields.and hfields')

theorem LeafwiseFields.and : ∀ {R S : List Scalar → Datum → Datum → Prop} {fields fields' : List (Scalar × Datum)},
    LeafwiseFields R fields fields' → LeafwiseFields S fields fields' →
      LeafwiseFields (fun keys v v' => R keys v v' ∧ S keys v v') fields fields'
  | _, _, _, _, .nil, _ => .nil
  | _, _, _, _, .cons hd hrest, h => by
    obtain ⟨d', rest, hd', hrest', heq⟩ := leafwiseFields_cons_iff.mp h
    cases heq
    exact .cons (hd.and hd') (hrest.and hrest')

end

theorem LeafwiseFields.of_mem {fields fields' : List (Scalar × Datum)} {k : Scalar} {d : Datum}
    (h : LeafwiseFields R fields fields') (hmem : (k, d) ∈ fields) :
    ∃ d', Leafwise (fun keys => R (k :: keys)) d d' ∧ (k, d') ∈ fields' := by
  induction fields generalizing fields' with
  | nil => cases hmem
  | cons e fields ih =>
    obtain ⟨d', rest, hd, hrest, rfl⟩ := leafwiseFields_cons_iff.mp h
    rcases List.mem_cons.mp hmem with rfl | hmem
    · exact ⟨d', hd, List.mem_cons_self ..⟩
    · obtain ⟨d'', hd'', hmem'⟩ := ih hrest hmem
      exact ⟨d'', hd'', List.mem_cons_of_mem _ hmem'⟩

theorem Leafwise.of_holds {d d' v : Datum} {keys : List Scalar} (h : Leafwise R d d') (hv : d.Holds keys v)
    (hleaf : v.isRecord = false) : ∃ v', R keys v v' ∧ d'.Holds keys v' := by
  induction hv generalizing R d' with
  | here d => exact ⟨d', (leafwise_leaf_iff hleaf).mp h, .here d'⟩
  | field hmem _ ih =>
    obtain ⟨fields', hfields, rfl⟩ := leafwise_record_iff.mp h
    obtain ⟨d'', hd, hmem'⟩ := hfields.of_mem hmem
    obtain ⟨v', hR, hv'⟩ := ih hd hleaf
    exact ⟨v', hR, .field hmem' hv'⟩

end CombatPlan.Datum
