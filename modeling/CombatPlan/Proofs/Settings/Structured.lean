import CombatPlan.Proofs.Settings.Loading

/-!
# Lists of records under the environment

A list that holds a record is out of reach of its variable. An empty list holds none: it counts as a list of texts,
whatever it is a list of, and takes the texts that its variable offers.
-/

namespace CombatPlan.Environment

open Datum

def offered (env : Environment) (keys : List Scalar) : List String :=
  match env.get? (nameOf keys) with
  | some t => parts t
  | none => []

theorem becomes_empty_iff {env : Environment} {keys : List Scalar} {d : Datum} :
    Becomes env keys (.list []) d ↔ d = .list ((offered env keys).map .text) := by
  unfold offered
  cases ht : env.get? (nameOf keys) with
  | none =>
    constructor
    · intro h
      cases h with
      | unset _ => rfl
      | set ht' _ => rw [ht] at ht'; cases ht'
    · rintro rfl
      exact .unset ht
  | some t =>
    constructor
    · intro h
      cases h with
      | unset ht' => rw [ht] at ht'; cases ht'
      | set ht' hr =>
        rw [ht] at ht'
        cases ht'
        cases hr with
        | texts _ => rfl
        | mixed hmem _ => cases hmem
    · rintro rfl
      exact .set ht (.texts (List.forall_mem_nil _))

section
variable {env env' : Environment} {keys : List Scalar}
  (hkeys : ∀ k ∈ keys, ∃ s, s ≠ "" ∧ k = .text s)
include hkeys

theorem settle_structured {items : List Datum} (hitems : ∀ d ∈ items, d.isRecord = true) :
    settle env (.text "") keys (.list items) =
      .ok (if items = [] then .list ((offered env keys).map .text) else .list items) := by
  rw [settle_eq_ok_iff_of_named hkeys rfl]
  cases items with
  | nil => exact becomes_empty_iff.mpr rfl -- All of no items are texts.
  | cons d items =>
    rw [if_neg (List.cons_ne_nil d items)]
    cases ht : env.get? (nameOf keys) with
    | none => exact .unset ht
    | some t =>
      have hd := hitems d (List.mem_cons_self ..)
      have hmem : d ∈ d :: items := List.mem_cons_self ..
      refine .set ht (.mixed hmem ?_)
      cases d with
      | record fields => rfl
      | list _ => cases hd
      | scalar _ => cases hd

end

def AgreeBut (keys : List Scalar) (env env' : Environment) : Prop :=
  ∀ name, name ≠ nameOf keys → env'.get? name = env.get? name

section
variable {env env' : Environment} {fields : List (Scalar × Datum)} {own : List Scalar} {items : List Datum}
  (hnamed : Named (.record fields)) (hitems : ∀ d ∈ items, d.isRecord = true)
  (hown : ∀ keys leaf, (record fields).Holds keys leaf → leaf.isRecord = false → nameOf keys = nameOf own →
    keys = own ∧ leaf = .list items)
  (hagree : AgreeBut own env env')
include hnamed hown hagree

theorem settle_elsewhere {keys : List Scalar} {v : Datum} (hv : (record fields).Holds keys v) :
    settle env' (.text "") keys v = settle env (.text "") keys v ∨ keys = own ∧ v = .list items := by
  have hkeys := hnamed keys v hv
  cases hleaf : v.isRecord with
  | true => exact Or.inl (by rw [settle_of_isRecord hkeys env hleaf, settle_of_isRecord hkeys env' hleaf])
  | false =>
    by_cases hname : nameOf keys = nameOf own
    · exact Or.inr (hown keys v hv hleaf hname)
    · exact Or.inl (by rw [settle_of_named hkeys env hleaf, settle_of_named hkeys env' hleaf, hagree _ hname])

include hitems

theorem settle_fault?_eq {keys : List Scalar} {v : Datum} (hv : (record fields).Holds keys v) :
    fault? (settle env' (.text "") keys v) = fault? (settle env (.text "") keys v) := by
  rcases settle_elsewhere hnamed hown hagree hv with h | ⟨rfl, rfl⟩
  · rw [h]
  · rw [settle_structured (hnamed keys _ hv) hitems, settle_structured (hnamed keys _ hv) hitems]
    rfl

theorem settle_eq (h : items ≠ [] ∨ offered env' own = offered env own) {keys : List Scalar} {v : Datum}
    (hv : (record fields).Holds keys v) : settle env' (.text "") keys v = settle env (.text "") keys v := by
  rcases settle_elsewhere hnamed hown hagree hv with h' | ⟨rfl, rfl⟩
  · exact h'
  · rw [settle_structured (hnamed keys _ hv) hitems, settle_structured (hnamed keys _ hv) hitems]
    rcases h with h | h
    · rw [if_neg h, if_neg h]
    · rw [h]

theorem override_structured_fault? :
    fault? (env'.override "" (.record fields)) = fault? (env.override "" (.record fields)) := by
  rw [override_record, override_record]
  exact overrideValue_fault?_congr _ _ fun keys v hv => settle_fault?_eq hnamed hitems hown hagree hv

theorem override_structured_eq (h : items ≠ [] ∨ offered env' own = offered env own) :
    env'.override "" (.record fields) = env.override "" (.record fields) := by
  rw [override_record, override_record]
  exact overrideValue_congr (fun keys v hv => ⟨_, foldlM_path_of_named (hnamed keys v hv)⟩)
    fun keys v hv => settle_eq hnamed hitems hown hagree h hv

variable {m : Memory} {depth limit : Nat} (hshows : m.Shows m.root (.record fields))
include hshows

theorem overrideMemory_structured_of_fails (h : ∃ f, env.override "" (.record fields) = .error f) :
    env'.overrideMemory (depth + 1) limit m = env.overrideMemory (depth + 1) limit m := by
  -- A place of the document that fails is one of the memory.
  obtain ⟨f, hf⟩ : ∃ f, env.overrideMemory (depth + 1) limit m = .error f := by
    rw [override_record, overrideValue_fails_iff] at h
    obtain ⟨keys, v, hv, h⟩ := h
    obtain ⟨b, hb, hbv⟩ := hshows.of_holds hv
    obtain ⟨cells, hcell, -⟩ := hshows.record
    rw [Settings.overrideMemory_of_record hcell, overrideAt_fails_iff]
    refine ⟨keys, b, hb, Or.inr ?_⟩
    rwa [hbv, ← fault?_isSome_iff, fault?_settle_cut, fault?_isSome_iff]
  have hfault : fault? (env'.overrideMemory (depth + 1) limit m) = fault? (env.overrideMemory (depth + 1) limit m) := by
    rw [fault?_eq_iff]
    refine Settings.overrideMemory_congr (fun _ _ _ => rfl) fun keys b hb => ?_
    obtain ⟨v, hv, hbv⟩ := hshows.of_reaches hb
    rw [← fault?_eq_iff, hbv, fault?_settle_cut, fault?_settle_cut, settle_fault?_eq hnamed hitems hown hagree hv]
  rw [hf] at hfault ⊢
  exact fault?_eq_some_iff.mp hfault

theorem cut_overrideMemory_structured (h : items ≠ [] ∨ offered env' own = offered env own) :
    cut (depth + 1) <$> env'.overrideMemory (depth + 1) limit m =
      cut (depth + 1) <$> env.overrideMemory (depth + 1) limit m := by
  refine Settings.overrideMemory_congr (fieldwise_cut _) fun keys b hb => ?_
  obtain ⟨v, hv, hbv⟩ := hshows.of_reaches hb
  rw [hbv, settle_cut, settle_cut, settle_eq hnamed hitems hown hagree h hv]

end

theorem offered_eq_of_override_eq {env env' : Environment} {fields : List (Scalar × Datum)} {keys : List Scalar}
    {d : Datum} (hnamed : Named (.record fields)) (hheld : (record fields).Holds keys (.list []))
    (h : env.override "" (.record fields) = .ok d) (h' : env'.override "" (.record fields) = .ok d) :
    offered env' keys = offered env keys := by
  rw [override_eq_ok_iff hnamed] at h h'
  obtain ⟨v, ⟨hv, hv'⟩, -⟩ := (h.and h').of_holds hheld rfl
  rw [becomes_empty_iff] at hv hv'
  rw [hv] at hv'
  have hmap := Datum.list.inj hv'
  rw [List.map_inj_right fun _ _ heq => by cases heq; rfl] at hmap
  exact hmap.symm

def debuffKeys : List Scalar :=
  [.text "compiler", .text "debuff_prefix"]

/-- **Structured lists.** The variable of a list of records makes no difference to the document, nor to the settings loaded
from it, unless the list is empty and the variable offers it other texts than before. -/
theorem override_structured_iff (env env' : Environment) (fields : List (Scalar × Datum)) (items : List Datum)
    (hnamed : Named (.record fields)) (hheld : (record fields).Holds debuffKeys (.list items))
    (hitems : ∀ d ∈ items, d.isRecord = true)
    (hown : ∀ keys leaf, (record fields).Holds keys leaf → leaf.isRecord = false →
      nameOf keys = nameOf debuffKeys → keys = debuffKeys ∧ leaf = .list items)
    (hagree : AgreeBut debuffKeys env env') :
    (env'.override "" (.record fields) = env.override "" (.record fields) ↔
      items ≠ [] ∨ offered env' debuffKeys = offered env debuffKeys ∨ ∃ f, env.override "" (.record fields) = .error f) ∧
    (env'.override "" (.record fields) = env.override "" (.record fields) →
      ∀ {ε : Type} (safeLoad : String → Except ε Memory) (limit : Nat) (disk : Disk) (path? : Option String)
        (document : String) (m : Memory), disk.file? (disk.settingsPath path?) = some document →
        safeLoad document = .ok m → m.Shows m.root (.record fields) →
          Settings.load safeLoad limit disk env' path? = Settings.load safeLoad limit disk env path?) := by
  have hiff : env'.override "" (.record fields) = env.override "" (.record fields) ↔
      items ≠ [] ∨ offered env' debuffKeys = offered env debuffKeys ∨ ∃ f, env.override "" (.record fields) = .error f := by
    constructor
    · intro h
      cases hok : env.override "" (.record fields) with
      | error f => exact Or.inr (Or.inr ⟨f, rfl⟩)
      | ok d =>
        by_cases hempty : items = []
        · subst hempty
          exact Or.inr (Or.inl (offered_eq_of_override_eq hnamed hheld hok (h.trans hok)))
        · exact Or.inl hempty
    · rintro (h | h | ⟨f, hf⟩)
      · exact override_structured_eq hnamed hitems hown hagree (Or.inl h)
      · exact override_structured_eq hnamed hitems hown hagree (Or.inr h)
      · have hfault := override_structured_fault? hnamed hitems hown hagree
        rw [hf] at hfault
        rw [hf]
        exact fault?_eq_some_iff.mp hfault
  refine ⟨hiff, fun h ε safeLoad limit disk path? document m hfile hread hshows => ?_⟩
  obtain ⟨b, hb, -⟩ := hshows.of_holds hheld
  have hroot := Memory.orNothing_of_reaches hb (List.cons_ne_nil _ _)
  rw [Settings.load_of_memory hfile hread, Settings.load_of_memory hfile hread]
  unfold Settings.ofMemory
  rw [hroot]
  rcases hiff.mp h with h | h | h
  · exact Settings.ofOverridden_congr (cut_overrideMemory_structured hnamed hitems hown hagree hshows (Or.inl h))
  · exact Settings.ofOverridden_congr (cut_overrideMemory_structured hnamed hitems hown hagree hshows (Or.inr h))
  · exact congrArg _ (overrideMemory_structured_of_fails hnamed hitems hown hagree hshows h)

theorem override_structured_iff_tooth :
    let tooth : Datum := .record [(.text "kind", .text "item"), (.text "name", .text "seal tooth")]
    let document (items : List Datum) : List (Scalar × Datum) :=
      [(.text "compiler", .record [(.text "debuff_prefix", .list items), (.text "area_skill", .text "Wave")])]
    let crumbs : Environment := [("AUTOCOMBAT_COMPILER__DEBUFF_PREFIX", "Pocket Crumbs")]
    let blank : Environment := [("AUTOCOMBAT_COMPILER__DEBUFF_PREFIX", " , ")]
    crumbs.override "" (.record (document [tooth])) = Environment.override [] "" (.record (document [tooth])) ∧
      blank.override "" (.record (document [])) = Environment.override [] "" (.record (document [])) ∧
      crumbs.override "" (.record (document [])) ≠ Environment.override [] "" (.record (document [])) := by
  intro tooth document crumbs blank
  have hnamed : ∀ items, Named (.record (document items)) := by
    intro items
    simp only [document, named_record_iff, List.mem_cons, List.not_mem_nil, or_false, Prod.mk.injEq]
    rintro _ _ ⟨rfl, rfl⟩
    refine ⟨⟨_, by decide, rfl⟩, named_record_iff.mpr ?_⟩
    simp only [List.mem_cons, List.not_mem_nil, or_false, Prod.mk.injEq]
    rintro _ _ (⟨rfl, rfl⟩ | ⟨rfl, rfl⟩)
    · exact ⟨⟨_, by decide, rfl⟩, named_list _⟩
    · exact ⟨⟨_, by decide, rfl⟩, named_scalar _⟩
  have hheld : ∀ items, (record (document items)).Holds debuffKeys (.list items) := fun items =>
    .field (List.mem_cons_self ..) (.field (List.mem_cons_self ..) (.here _))
  have hown : ∀ items keys leaf, (record (document items)).Holds keys leaf → leaf.isRecord = false →
      nameOf keys = nameOf debuffKeys → keys = debuffKeys ∧ leaf = .list items := by
    intro items keys leaf hv hleaf hname
    cases hv with
    | here => cases hleaf
    | field hmem hv =>
      cases List.mem_singleton.mp hmem
      cases hv with
      | here => cases hleaf
      | field hmem hv =>
        simp only [List.mem_cons, List.not_mem_nil, or_false, Prod.mk.injEq] at hmem
        rcases hmem with ⟨rfl, rfl⟩ | ⟨rfl, rfl⟩
        · cases hv
          exact ⟨rfl, rfl⟩
        · cases hv
          exact absurd hname (by decide)
  have hagree : ∀ t, AgreeBut debuffKeys [] [("AUTOCOMBAT_COMPILER__DEBUFF_PREFIX", t)] := by
    intro t name hne
    have hne : (name == "AUTOCOMBAT_COMPILER__DEBUFF_PREFIX") = false := beq_eq_false_iff_ne.mpr hne
    simp [Environment.get?, List.lookup_cons, hne]
  have htooth : ∀ d ∈ [tooth], d.isRecord = true := List.forall_mem_singleton.mpr rfl
  have hiff := fun items env' hitems ht =>
    (override_structured_iff [] env' (document items) items (hnamed items) (hheld items) hitems (hown items) ht).1
  refine ⟨?_, ?_, ?_⟩
  · exact (hiff [tooth] crumbs htooth (hagree _)).mpr (Or.inl (List.cons_ne_nil _ _))
  · exact (hiff [] blank (List.forall_mem_nil _) (hagree _)).mpr (Or.inr (Or.inl (by decide)))
  · rw [Ne, hiff [] crumbs (List.forall_mem_nil _) (hagree _)]
    rintro (h | h | ⟨f, hf⟩)
    · exact h rfl
    · exact absurd h (by decide)
    · cases hf

/-- A valid file that its environment keeps from being loaded: it asks for no debuffs, and the variable for them is
set. -/
theorem load_no_debuffs_fails :
    let document := "compiler:\n  debuff_prefix: []\n"
    let m : Memory := {
      cells := #[.record [(.text "compiler", 1)], .record [(.text "debuff_prefix", 2)], .list []]
      root := 0 }
    let safeLoad : String → Except Unit Memory := fun text => if text = document then .ok m else .error ()
    let disk := Settings.diskWith document
    let crumbs : Environment := [("AUTOCOMBAT_COMPILER__DEBUFF_PREFIX", "Pocket Crumbs")]
    (∃ s, Settings.load safeLoad 100 disk [] "combat.yaml" = .ok s ∧ s.tactics.debuffs = []) ∧
      ∃ r, Settings.load safeLoad 100 disk crumbs "combat.yaml" = .error (.invalid r) := by
  intro document m safeLoad disk crumbs
  have hfile := Settings.file?_diskWith document
  have hread : safeLoad document = .ok m := if_pos rfl
  rw [Settings.load_of_memory hfile hread, Settings.load_of_memory hfile hread]
  exact ⟨⟨_, rfl, rfl⟩, _, rfl⟩

end CombatPlan.Environment
