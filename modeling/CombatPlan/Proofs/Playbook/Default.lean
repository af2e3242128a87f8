import CombatPlan.Playbook

/-!
# The default order

Only an order without subjects sets the default, whatever else is called and whether it fails or not, so the
default after many calls is what the last such order says (`defaultOrder_callAll`). Banishing is refused when
nobody is named; an order to banish is not.
-/

namespace CombatPlan.Playbook

namespace Call

def default? : Call → Option Order
  | order wanted [] => some wanted
  | _ => none

theorem default?_eq_some_iff {c : Call} {wanted : Order} : c.default? = some wanted ↔ c = .order wanted [] := by
  constructor
  · intro h
    unfold default? at h
    split at h
    · rw [Option.some.inj h]
    · cases h
  · rintro rfl
    rfl

theorem getLast?_default_eq_some_iff {calls : List Call} {wanted : Order} :
    (calls.filterMap default?).getLast? = some wanted ↔
      ∃ before after, calls = before ++ .order wanted [] :: after ∧ ∀ c ∈ after, c.default? = none := by
  rw [List.getLast?_eq_some_iff]
  constructor
  · rintro ⟨earlier, h⟩
    obtain ⟨before, rest, rfl, -, hrest⟩ := List.filterMap_eq_append_iff.mp h
    obtain ⟨silent, c, after, rfl, -, hc, hafter⟩ := List.filterMap_eq_cons_iff.mp hrest
    rw [default?_eq_some_iff.mp hc]
    exact ⟨before ++ silent, after, (List.append_assoc ..).symm, List.filterMap_eq_nil_iff.mp hafter⟩
  · rintro ⟨before, after, rfl, hafter⟩
    refine ⟨before.filterMap default?, ?_⟩
    rw [List.filterMap_append, List.filterMap_cons, List.filterMap_eq_nil_iff.mpr hafter]
    rfl

end Call

theorem defaultOrder_setOrder (b : Playbook) (wanted : Order) (ss : List Subject) :
    (b.setOrder wanted ss).1.defaultOrder = if ss.isEmpty then wanted else b.defaultOrder := by
  unfold setOrder
  split <;> rfl

theorem defaultOrder_setProgram (b : Playbook) (program : Option Program) (ss : List Subject) :
    (b.setProgram program ss).1.defaultOrder = b.defaultOrder := by
  unfold setProgram
  split <;> rfl

theorem defaultOrder_call (b : Playbook) (c : Call) :
    (b.call c).1.defaultOrder = c.default?.getD b.defaultOrder := by
  cases c with
  | order wanted ss =>
    show (b.setOrder wanted ss).1.defaultOrder = _
    rw [defaultOrder_setOrder]
    cases ss <;> rfl
  | banish ss =>
    cases ss with
    | nil => rfl
    | cons s ss => exact defaultOrder_setOrder b _ (s :: ss)
  | prescribe program ss => exact defaultOrder_setProgram b program ss
  | useItem item ss =>
    unfold call
    dsimp only
    split
    · exact defaultOrder_setProgram b _ ss
    · rfl

theorem defaultOrder_callAll : ∀ (calls : List Call) (b : Playbook),
    (b.callAll calls).defaultOrder = (calls.filterMap Call.default?).getLast?.getD b.defaultOrder
  | [], _ => rfl
  | c :: calls, b => by
    show ((b.call c).1.callAll calls).defaultOrder = _
    rw [defaultOrder_callAll calls, defaultOrder_call, List.filterMap_cons]
    cases c.default? with
    | none => rfl
    | some wanted =>
      rw [List.getLast?_cons]
      rfl

/-- **Banishing by default.** The default is to banish exactly if nothing set the default after an order to banish that
named nobody. -/
theorem defaultOrder_banish_iff (boss : Bool) (calls : List Call) :
    ((({ boss } : Playbook).callAll calls).defaultOrder = .intent .banish ↔
      ∃ before after, calls = before ++ .order (.intent .banish) [] :: after ∧ ∀ c ∈ after, c.default? = none) ∧
    ((∀ reached, reached <+: calls → (({ boss } : Playbook).callAll reached).defaultOrder ≠ .intent .banish) ↔
      .order (.intent .banish) [] ∉ calls) := by
  have hlast : ∀ calls : List Call, (({ boss } : Playbook).callAll calls).defaultOrder = .intent .banish ↔
      ∃ before after, calls = before ++ .order (.intent .banish) [] :: after ∧ ∀ c ∈ after, c.default? = none := by
    intro calls
    rw [defaultOrder_callAll, ← Call.getLast?_default_eq_some_iff]
    -- a new playbook says to run away, so the default must come from a call
    cases (calls.filterMap Call.default?).getLast? with
    | none => exact iff_of_false nofun nofun
    | some wanted => exact (Option.some_inj).symm
  refine ⟨hlast calls, ?_, ?_⟩
  · intro hnever hmem
    obtain ⟨before, after, rfl⟩ := List.append_of_mem hmem
    refine hnever (before ++ [.order (.intent .banish) []]) ⟨after, by rw [List.append_assoc]; rfl⟩ ?_
    exact (hlast _).mpr ⟨before, [], rfl, List.forall_mem_nil _⟩
  · intro hnot reached hreached hbanish
    obtain ⟨before, after, rfl, -⟩ := (hlast reached).mp hbanish
    exact hnot (hreached.subset (List.mem_append_right _ List.mem_cons_self))

/-- Banishing nobody is refused, ordering to banish nobody is not: it makes banishing the default. -/
theorem callAll_banish_by_default :
    (({} : Playbook).call (.banish [])).2 = some .nobodyToBanish ∧
      (({} : Playbook).call (.order (.intent .banish) [])).2 = none ∧
      (({} : Playbook).callAll [.order (.intent .banish) []]).defaultOrder = .intent .banish :=
  ⟨rfl, rfl, rfl⟩

end CombatPlan.Playbook
