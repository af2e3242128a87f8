import CombatPlan.Datum.Memory
import CombatPlan.Proofs.Datum.Leaf
import Mathlib.Data.List.Forall2

/-!
# Views of data in memory

A datum is cut at a depth by leaving out what is nested deeper. Views to different depths are cuts of one another, and
a memory shows a datum if its views are the cuts of it.
-/

namespace CombatPlan

namespace Datum

/-! ## Cutting -/

def cut : (depth : Nat) → Datum → Datum
  | 0, d => d.outline
  | _ + 1, scalar s => .scalar s
  | depth + 1, list items => .list (items.map (cut depth))
  | depth + 1, record fields => .record (fields.map fun (k, d) => (k, cut depth d))

theorem isRecord_cut (n : Nat) (d : Datum) : (d.cut n).isRecord = d.isRecord := by
  cases n <;> cases d <;> rfl

theorem isEmpty_cut (n : Nat) (d : Datum) : (d.cut (n + 1)).isEmpty = d.isEmpty := by
  cases d with
  | scalar s => rfl
  | list items => exact List.isEmpty_map
  | record fields => exact List.isEmpty_map

theorem cut_cut : ∀ {n k : Nat} (d : Datum), n ≤ k → (d.cut k).cut n = d.cut n
  | 0, k, d, _ => by
    cases k <;> cases d <;> rfl
  | n + 1, k + 1, d, h => by
    have hparts := fun d => cut_cut d (Nat.le_of_succ_le_succ h)
    cases d with
    | scalar s => rfl
    | list items => simp [cut, hparts]
    | record fields => simp [cut, hparts]

end Datum

theorem Cell.isEmpty_data (part : Address → Datum) (c : Cell) : (c.data part).isEmpty = c.isEmpty := by
  cases c with
  | scalar s => rfl
  | list items => exact List.isEmpty_map
  | record fields => exact List.isEmpty_map

namespace Memory

open Datum

variable {m : Memory}

/-! ## Places -/

inductive Reaches (m : Memory) : Address → List Scalar → Address → Prop
  | here (a : Address) : Reaches m a [] a
  | field {a b c : Address} {fields : List (Scalar × Address)} {k : Scalar} {keys : List Scalar} :
      m.cell a = .record fields → (k, b) ∈ fields → Reaches m b keys c → Reaches m a (k :: keys) c

theorem leaf_or_record (m : Memory) (a : Address) :
    (∀ fields, m.cell a ≠ .record fields) ∨ ∃ fields, m.cell a = .record fields := by
  cases m.cell a with
  | record fields => exact Or.inr ⟨fields, rfl⟩
  | _ => exact Or.inl nofun

theorem Reaches.append {a b c : Address} {keys keys' : List Scalar} (h : m.Reaches a keys b)
    (h' : m.Reaches b keys' c) : m.Reaches a (keys ++ keys') c := by
  induction h with
  | here a => exact h'
  | field hcell hmem _ ih => exact .field hcell hmem (ih h')

theorem Reaches.again {a : Address} {keys : List Scalar} (h : m.Reaches a keys a) (hne : keys ≠ []) :
    ∀ n, ∃ keys', n ≤ keys'.length ∧ m.Reaches a keys' a
  | 0 => ⟨[], Nat.le_refl _, .here a⟩
  | n + 1 => by
    obtain ⟨keys', hlength, h'⟩ := h.again hne n
    have hpos := List.length_pos_iff.mpr hne
    exact ⟨keys ++ keys', by rw [List.length_append]; omega, h.append h'⟩

theorem orNothing_of_reaches {a : Address} {keys : List Scalar} (h : m.Reaches m.root keys a) (hne : keys ≠ []) :
    m.orNothing = m := by
  have hfields : (m.cell m.root).isEmpty = false := by
    cases h with
    | here => exact absurd rfl hne
    | field hcell hmem _ =>
      rw [hcell]
      exact List.isEmpty_eq_false_iff_exists_mem.mpr ⟨_, hmem⟩
  unfold orNothing
  rw [hfields]
  rfl

/-! ## Views -/

theorem cut_view : ∀ {n k : Nat} (a : Address), n ≤ k → (m.view k a).cut n = m.view n a
  | 0, k, a, _ => by
    rw [view, cut]
    cases k <;> rw [view] <;> cases m.cell a <;> rfl
  | n + 1, k + 1, a, h => by
    have hparts := fun a => cut_view a (Nat.le_of_succ_le_succ h)
    rw [view, view]
    cases m.cell a with
    | scalar s => rfl
    | list items => simp [Cell.data, cut, hparts]
    | record fields => simp [Cell.data, cut, hparts]

/-- The datum at an address, which nothing in it refers back to. -/
def Shows (m : Memory) (a : Address) (d : Datum) : Prop :=
  ∀ n, m.view n a = d.cut n

theorem Shows.outline {a : Address} {d : Datum} (h : m.Shows a d) : (m.cell a).outline = d.outline :=
  h 0

theorem Shows.isEmpty {a : Address} {d : Datum} (h : m.Shows a d) : (m.cell a).isEmpty = d.isEmpty := by
  rw [← Cell.isEmpty_data (m.view 0), ← isEmpty_cut 0 d, ← h 1, view]

theorem Shows.leaf {a : Address} {d : Datum} (h : m.Shows a d) (hd : d.isRecord = false)
    (fields : List (Scalar × Address)) : m.cell a ≠ .record fields := by
  intro hcell
  have hrecord := congrArg Datum.isRecord (h 0)
  rw [isRecord_cut, hd, view, hcell] at hrecord
  cases hrecord

theorem forall₂_shows : ∀ {cells : List (Scalar × Address)} {fields : List (Scalar × Datum)},
    (∀ n, cells.map (fun x => (x.1, m.view n x.2)) = fields.map fun y => (y.1, y.2.cut n)) →
      List.Forall₂ (fun x y => x.1 = y.1 ∧ m.Shows x.2 y.2) cells fields
  | [], [], _ => .nil
  | [], _ :: _, h => nomatch h 0
  | _ :: _, [], h => nomatch h 0
  | _ :: _, _ :: _, h => by
    have hhead (n : Nat) := Prod.mk.inj (List.cons.inj (h n)).1
    exact .cons ⟨(hhead 0).1, fun n => (hhead n).2⟩ (forall₂_shows fun n => (List.cons.inj (h n)).2)

theorem Shows.record {a : Address} {fields : List (Scalar × Datum)} (h : m.Shows a (.record fields)) :
    ∃ cells, m.cell a = .record cells ∧ List.Forall₂ (fun x y => x.1 = y.1 ∧ m.Shows x.2 y.2) cells fields := by
  cases hcell : m.cell a with
  | record cells =>
    refine ⟨cells, rfl, forall₂_shows fun n => ?_⟩
    have h := h (n + 1)
    rw [view, hcell] at h
    exact Datum.record.inj h
  | _ =>
    have h := h 0
    rw [view, hcell] at h
    cases h

theorem exists_of_forall₂ {α β : Type} {R : α → β → Prop} {as : List α} {bs : List β} (h : List.Forall₂ R as bs) :
    (∀ a ∈ as, ∃ b ∈ bs, R a b) ∧ ∀ b ∈ bs, ∃ a ∈ as, R a b := by
  induction h with
  | nil => exact ⟨List.forall_mem_nil _, List.forall_mem_nil _⟩
  | cons hab _ ih =>
    refine ⟨List.forall_mem_cons.mpr ⟨⟨_, List.mem_cons_self .., hab⟩, fun a ha => ?_⟩,
      List.forall_mem_cons.mpr ⟨⟨_, List.mem_cons_self .., hab⟩, fun b hb => ?_⟩⟩
    · obtain ⟨b, hb, hab⟩ := ih.1 a ha
      exact ⟨b, List.mem_cons_of_mem _ hb, hab⟩
    · obtain ⟨a, ha, hab⟩ := ih.2 b hb
      exact ⟨a, List.mem_cons_of_mem _ ha, hab⟩

theorem Shows.of_reaches {a b : Address} {d : Datum} {keys : List Scalar} (h : m.Shows a d) (hb : m.Reaches a keys b) :
    ∃ v, d.Holds keys v ∧ m.Shows b v := by
  induction hb generalizing d with
  | here a => exact ⟨d, .here d, h⟩
  | @field a b c cells k keys hcell hmem _ ih =>
    cases hd : d.isRecord with
    | false => exact absurd hcell (h.leaf hd cells)
    | true =>
      cases d with
      | record fields =>
        obtain ⟨_, hcell', hfields⟩ := h.record
        cases hcell.symm.trans hcell'
        obtain ⟨⟨_, d⟩, hmem', rfl, hd⟩ := (exists_of_forall₂ hfields).1 _ hmem
        obtain ⟨v, hv, hshows⟩ := ih hd
        exact ⟨v, .field hmem' hv, hshows⟩
      | list _ => cases hd
      | scalar _ => cases hd

theorem Shows.of_holds {a : Address} {d v : Datum} {keys : List Scalar} (h : m.Shows a d) (hv : d.Holds keys v) :
    ∃ b, m.Reaches a keys b ∧ m.Shows b v := by
  induction hv generalizing a with
  | here d => exact ⟨a, .here a, h⟩
  | field hmem _ ih =>
    obtain ⟨cells, hcell, hfields⟩ := h.record
    obtain ⟨⟨_, b⟩, hmem', rfl, hb⟩ := (exists_of_forall₂ hfields).2 _ hmem
    obtain ⟨c, hc, hshows⟩ := ih hb
    exact ⟨c, .field hcell hmem' hc, hshows⟩

end Memory
end CombatPlan
