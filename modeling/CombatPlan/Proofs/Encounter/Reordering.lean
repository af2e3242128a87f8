import CombatPlan.Proofs.Encounter.Readiness

/-!
# Calls in another order

A playbook is asked for its defaults and for single opponents only, so calls that write different slots may
change places. The branches then stand in another order, but no two of a row are about equal opponents.
-/

namespace CombatPlan

/-! ## Lists in another order -/

section
variable {α β : Type} {R : α → α → Prop} {l l' : List α}

/-- The entries of `l` in other places, related ones in the order that they had. Entries are known by their old
places, so that one may occur more than once. -/
def Reordered (R : α → α → Prop) (l l' : List α) : Prop :=
  ∃ placed : List (α × Nat), placed.Perm l.zipIdx ∧ placed.map (·.1) = l' ∧
    placed.Pairwise fun a b => R a.1 b.1 → a.2 < b.2

theorem Reordered.perm (h : Reordered R l l') : l'.Perm l := by
  obtain ⟨placed, hperm, rfl, -⟩ := h
  have hmap := hperm.map (·.1)
  rwa [List.zipIdx_map_fst] at hmap

theorem pairwise_zipIdx (l : List α) : l.zipIdx.Pairwise fun a b => a.2 < b.2 := by
  have hplaces : (l.zipIdx.map (·.2)).Pairwise (· < ·) := by
    rw [List.zipIdx_map_snd]
    exact List.pairwise_lt_range'
  exact List.pairwise_map.mp hplaces

theorem Reordered.filterMap_eq (h : Reordered R l l') {g : α → Option β}
    (hg : ∀ a b, (g a).isSome = true → (g b).isSome = true → R a b) : l'.filterMap g = l.filterMap g := by
  obtain ⟨placed, hperm, rfl, hplaced⟩ := h
  let yields : α × Nat → Bool := fun a => (g a.1).isSome
  have hsorted : (placed.filter yields).Pairwise fun a b => a.2 < b.2 := by
    refine (hplaced.filter yields).imp_of_mem fun ha hb hab => hab ?_
    exact hg _ _ (List.mem_filter.mp ha).2 (List.mem_filter.mp hb).2
  -- old places are pairwise different, so there is only one list with them in order
  have heq : placed.filter yields = l.zipIdx.filter yields :=
    (hperm.filter yields).eq_of_pairwise (fun _ _ _ _ hab hba => absurd hab (Nat.lt_asymm hba)) hsorted
      ((pairwise_zipIdx l).filter yields)
  have hyields : ∀ placed : List (α × Nat), (placed.map (·.1)).filterMap g =
      (placed.filter yields).filterMap (g ∘ (·.1)) := by
    intro placed
    rw [List.filterMap_map, List.filterMap_filter]
    congr 1
    funext a
    show g a.1 = if (g a.1).isSome = true then g a.1 else none
    cases g a.1 <;> rfl
  rw [hyields, heq, ← hyields, List.zipIdx_map_fst]

end

/-! ## Playbooks that answer alike -/

namespace Playbook

def Call.Meets (c c' : Call) : Prop :=
  (c.opponents = [] ∧ c'.opponents = []) ∨ ∃ o ∈ c.opponents, ∃ o' ∈ c'.opponents, (o == o') = true

structure Call.SameSlot (c c' : Call) : Prop where
  kind : (c.intent?.isSome = true ∧ c'.intent?.isSome = true) ∨ (c.program?.isSome = true ∧ c'.program?.isSome = true)
  meets : c.Meets c'

structure Alike (b b' : Playbook) : Prop where
  defaultOrder : b'.defaultOrder = b.defaultOrder
  defaultProgram : b'.defaultProgram = b.defaultProgram
  intents : ∀ o : Opponent, b'.intents.get? (.opponent o) = b.intents.get? (.opponent o)
  programs : ∀ o : Opponent, b'.programs.get? (.opponent o) = b.programs.get? (.opponent o)

theorem Call.meets_of_isEmpty {c c' : Call} (h : c.opponents.isEmpty = true) (h' : c'.opponents.isEmpty = true) :
    c.Meets c' :=
  Or.inl ⟨List.isEmpty_iff.mp h, List.isEmpty_iff.mp h'⟩

theorem Call.meets_of_lists {o : Opponent} {c c' : Call} (h : c.lists o = true) (h' : c'.lists o = true) :
    c.Meets c' := by
  obtain ⟨k, hk, hko⟩ := List.any_eq_true.mp h
  obtain ⟨k', hk', hko'⟩ := List.any_eq_true.mp h'
  exact Or.inr ⟨k, hk, k', hk', PartialEquivBEq.trans hko (PartialEquivBEq.symm hko')⟩

section
variable {p : Call → Bool} {calls calls' : List Call} (hre : Reordered Call.SameSlot calls calls')
include hre

theorem Call.last_reordered {α : Type} {f : Call → Option α}
    (h : ∀ c c', p c = true → p c' = true → (f c).isSome = true → (f c').isSome = true → c.SameSlot c') :
    last f p calls' = last f p calls := by
  unfold last
  rw [List.filterMap_filter, List.filterMap_filter, hre.filterMap_eq]
  intro c c' hc hc'
  by_cases hp : p c = true
  · by_cases hp' : p c' = true
    · rw [if_pos hp] at hc
      rw [if_pos hp'] at hc'
      exact h c c' hp hp' hc hc'
    · rw [if_neg hp'] at hc'; cases hc'
  · rw [if_neg hp] at hc; cases hc

variable (hp : ∀ {c c'}, p c = true → p c' = true → Call.Meets c c')
include hp

theorem Call.last_intent?_reordered : last intent? p calls' = last intent? p calls :=
  last_reordered hre fun _ _ hc hc' hi hi' => ⟨Or.inl ⟨hi, hi'⟩, hp hc hc'⟩

theorem Call.last_program?_reordered : last program? p calls' = last program? p calls :=
  last_reordered hre fun _ _ hc hc' hi hi' => ⟨Or.inr ⟨hi, hi'⟩, hp hc hc'⟩

end

theorem alike_callAll (boss : Bool) {calls calls' : List Call} (h : ∀ c ∈ calls, c.Known)
    (hre : Reordered Call.SameSlot calls calls') :
    (({ boss } : Playbook).callAll calls).Alike (({ boss } : Playbook).callAll calls') := by
  have h' : ∀ c ∈ calls', c.Known := fun c hc => h c (hre.perm.mem_iff.mp hc)
  refine ⟨?_, ?_, fun o => ?_, fun o => ?_⟩
  · rw [callAll_of_known _ h, callAll_of_known _ h']
    show Option.getD _ _ = Option.getD _ _
    rw [Call.last_intent?_reordered hre Call.meets_of_isEmpty]
  · rw [callAll_of_known _ h, callAll_of_known _ h']
    show Option.or _ _ = Option.or _ _
    rw [Call.last_program?_reordered hre Call.meets_of_isEmpty]
  · rw [(records_intents boss h').get?, (records_intents boss h).get?, Call.last_map, Call.last_map,
      Call.last_intent?_reordered hre Call.meets_of_lists]
  · rw [(records_programs boss h').get?, (records_programs boss h).get?, Call.last_map, Call.last_map,
      Call.last_program?_reordered hre Call.meets_of_lists]

end Playbook

namespace Encounter

/-! ## The start -/

section
variable {b b' : Playbook} (h : b.Alike b')
include h

theorem tier_alike (ws : List Wanderer) (o? : Option Opponent) : tier b' ws o? = tier b ws o? := by
  cases o? with
  | none => simp only [tier, h.defaultOrder, h.defaultProgram]
  | some o => simp only [tier, h.defaultOrder, h.defaultProgram, h.intents, h.programs]

theorem mem_openIntents_alike {k : Opponent} {order : Order} (hk : (.opponent k, order) ∈ openIntents b')
    (hget : b'.intents.get? (.opponent k) = some order) :
    ∃ k' : Opponent, (.opponent k', order) ∈ openIntents b ∧ (k' == k) = true := by
  -- the entry may have been made for another opponent that is equal
  obtain ⟨k', hk', heq⟩ := Register.mem_of_get? ((h.intents k).symm.trans hget)
  have hhas : b'.programs.has (.opponent k) = b.programs.has (.opponent k') := by
    rw [Register.has_congr heq]
    exact congrArg Option.isSome (h.programs k)
  refine ⟨k', List.mem_filter.mpr ⟨hk', ?_⟩, heq⟩
  show (!b.programs.has (.opponent k')) = true
  rw [← hhas]
  exact (List.mem_filter.mp hk).2

theorem start_alike {t : Tactics} {now : Situation} {e : Encounter} (hb : b.Known) (hb' : b'.Proper)
    (hget : ∀ {s : Subject} {order : Order}, (s, order) ∈ b'.intents →
      ∃ k : Opponent, s = .opponent k ∧ b'.intents.get? (.opponent k) = some order)
    (he : (start t b now).outcome = .ok e) : ∃ e', (start t b' now).outcome = .ok e' := by
  obtain ⟨hforced, -, hopen, hlast⟩ := (start_ok_iff hb).mp ⟨e, he⟩
  refine (start_ok_iff hb'.known).mpr ⟨hforced, hb'.programs, fun entry hentry => ?_, ?_⟩
  · obtain ⟨s, order⟩ := entry
    obtain ⟨k, rfl, hk⟩ := hget (List.mem_filter.mp hentry).1
    obtain ⟨k', hk', heq⟩ := mem_openIntents_alike h hentry hk
    obtain ⟨p, hp⟩ := hopen _ hk'
    exact ⟨p, (realize_outcome_congr t now now.overrides heq order).symm.trans hp⟩
  · rw [h.defaultOrder]
    exact hlast

theorem selectEq_alike {t : Tactics} {now : Situation} {e e' : Encounter} (hb : b.Known) (hb' : b'.Known)
    (he : (start t b now).outcome = .ok e) (he' : (start t b' now).outcome = .ok e') :
    e'.program.SelectEq e.program := by
  intro o?
  obtain ⟨p, hp, hsel⟩ := exists_gives hb he o?
  obtain ⟨p', hp', hsel'⟩ := exists_gives hb' he' o?
  rw [tier_alike h] at hp'
  show e'.select o? = e.select o?
  rw [hsel, hsel', hp.unique hp']

end

/-! ## Commands

Whether a command succeeds and what it puts in front does not depend on the program. -/

section
variable (t : Tactics) (overrides : Overrides) {p q : Program}

theorem place_cases (c : Command) :
    (∃ es o body, ∀ p, place ⟨t, overrides, p⟩ c = ⟨es, .ok (.branch o body p)⟩) ∨
      ∃ es f, ∀ p, place ⟨t, overrides, p⟩ c = ⟨es, .error f⟩ := by
  unfold place Program.prepend Program.prependOf
  dsimp only
  obtain ⟨es, f | body⟩ := realize t c.now overrides c.subject c.order
  · exact Or.inr ⟨es, f, fun p => rfl⟩
  · cases h : Program.branchOf c.subject (.ofBody (some body)) with
    | ok b =>
      refine Or.inl ⟨es ++ [], b.1, b.2, fun p => ?_⟩
      rw [Run.ok_bind, h]
      rfl
    | error r =>
      refine Or.inr ⟨es ++ [], .invalid r, fun p => ?_⟩
      rw [Run.ok_bind, h]
      rfl

theorem command_selectEq (h : p.SelectEq q) (c : Command) :
    ∃ p' q' run, p'.SelectEq q' ∧ command ⟨t, overrides, p⟩ c = (⟨t, overrides, p'⟩, run) ∧
      command ⟨t, overrides, q⟩ c = (⟨t, overrides, q'⟩, run) := by
  unfold command
  rcases place_cases t overrides c with ⟨es, o, body, hc⟩ | ⟨es, f, hc⟩
  · let run : Run Unit := ⟨es, .ok ()⟩ >>= fun _ => notePrepended c.order c.subject
    refine ⟨.branch o body p, .branch o body q, run, h.branch o body, ?_, ?_⟩
    · rw [hc]
      rfl
    · rw [hc]
      rfl
  · refine ⟨p, q, ⟨es, .error f⟩, h, ?_, ?_⟩
    · rw [hc]
    · rw [hc]

theorem commandAll_selectEq : ∀ (cs : List Command) {p q : Program}, p.SelectEq q →
    ∃ p' q' runs, p'.SelectEq q' ∧ commandAll ⟨t, overrides, p⟩ cs = (⟨t, overrides, p'⟩, runs) ∧
      commandAll ⟨t, overrides, q⟩ cs = (⟨t, overrides, q'⟩, runs)
  | [], p, q, h => ⟨p, q, [], h, rfl, rfl⟩
  | c :: cs, p, q, h => by
    obtain ⟨p₁, q₁, run, h₁, hp₁, hq₁⟩ := command_selectEq t overrides h c
    obtain ⟨p', q', runs, h', hp', hq'⟩ := commandAll_selectEq cs h₁
    refine ⟨p', q', run :: runs, h', ?_, ?_⟩
    · rw [commandAll, hp₁]
      dsimp only
      rw [hp']
    · rw [commandAll, hq₁]
      dsimp only
      rw [hq']

end

/-- **Calls commute.** Calls in another order, in which those that write the same slot stay in order, start an encounter
that selection does not tell from the first, whatever commands follow. -/
theorem select_reordered (t : Tactics) (now : Situation) (boss : Bool) (calls calls' : List Playbook.Call)
    (hcalls : ∀ c ∈ calls, c.Known) (hre : Reordered Playbook.Call.SameSlot calls calls') (e : Encounter)
    (he : (start t (({ boss } : Playbook).callAll calls) now).outcome = .ok e) :
    ∃ e', (start t (({ boss } : Playbook).callAll calls') now).outcome = .ok e' ∧
      ∀ cs : List Command, (e'.commandAll cs).2 = (e.commandAll cs).2 ∧
        ∀ o?, (e'.commandAll cs).1.select o? = (e.commandAll cs).1.select o? := by
  have hcalls' : ∀ c ∈ calls', c.Known := fun c hc => hcalls c (hre.perm.mem_iff.mp hc)
  have hb := Playbook.proper_callAll boss hcalls
  have hb' := Playbook.proper_callAll boss hcalls'
  have halike := Playbook.alike_callAll boss hcalls hre
  obtain ⟨e', he'⟩ := start_alike halike hb.known hb' ((Playbook.records_intents boss hcalls').get?_of_mem hcalls') he
  have hsel := selectEq_alike halike hb.known hb'.known he he'
  refine ⟨e', he', fun cs => ?_⟩
  obtain ⟨p, rfl⟩ := start_shape he
  obtain ⟨p', rfl⟩ := start_shape he'
  obtain ⟨q', q, runs, hq, hrun', hrun⟩ := commandAll_selectEq t now.overrides cs hsel
  rw [hrun, hrun']
  exact ⟨rfl, hq⟩

theorem select_reordered_bat :
    let bat : Opponent := { name := "bat", monsterId := some 7 }
    let imp : Opponent := { name := "imp" }
    let kill : Playbook.Call := .order (.intent .killHard) ([bat].map .opponent)
    let abort : Playbook.Call := .order (.intent .abort) ([imp].map .opponent)
    let flee : Playbook.Call := .order (.intent .runAway) ([bat].map .opponent)
    let cs : List Command := [⟨{}, .opponent { name := "ghost" }, .intent .abort⟩]
    (∀ c ∈ [kill, abort, flee], c.Known) ∧ Reordered Playbook.Call.SameSlot [kill, abort, flee] [abort, kill, flee] ∧
      ∃ e e', (start {} (({} : Playbook).callAll [kill, abort, flee]) {}).outcome = .ok e ∧
        (start {} (({} : Playbook).callAll [abort, kill, flee]) {}).outcome = .ok e' ∧
        e.program.branches.map (·.1.name) = ["bat", "imp"] ∧ e'.program.branches.map (·.1.name) = ["imp", "bat"] ∧
        ∀ o?, (e'.commandAll cs).1.select o? = (e.commandAll cs).1.select o? := by
  intro bat imp kill abort flee cs
  have hbat : ∀ o ∈ [bat], o.Valid := List.forall_mem_singleton.mpr (Opponent.valid_harmless (by decide) (by decide))
  have himp : ∀ o ∈ [imp], o.Valid := List.forall_mem_singleton.mpr (Opponent.valid_harmless (by decide) (by decide))
  have hknown : ∀ c ∈ [kill, abort, flee], c.Known := by
    simp only [List.forall_mem_cons]
    exact ⟨.order _ _ hbat, .order _ _ himp, .order _ _ hbat, List.forall_mem_nil _⟩
  have hother : ¬abort.SameSlot kill := by
    rintro ⟨-, ⟨h, -⟩ | ⟨o, ho, o', ho', h⟩⟩
    · cases h
    · cases List.mem_singleton.mp ho
      cases List.mem_singleton.mp ho'
      revert h
      decide
  have hre : Reordered Playbook.Call.SameSlot [kill, abort, flee] [abort, kill, flee] := by
    refine ⟨[(abort, 1), (kill, 0), (flee, 2)], .swap _ _ _, rfl, ?_⟩
    simp [hother]
  have hok : (start {} (({} : Playbook).callAll [kill, abort, flee]) {}).outcome.toOption.map
      (·.program.branches.map (·.1.name)) = some ["bat", "imp"] := by decide
  have hok' : (start {} (({} : Playbook).callAll [abort, kill, flee]) {}).outcome.toOption.map
      (·.program.branches.map (·.1.name)) = some ["imp", "bat"] := by decide
  cases he : (start {} (({} : Playbook).callAll [kill, abort, flee]) {}).outcome with
  | error f => rw [he] at hok; cases hok
  | ok e =>
    obtain ⟨e', he', hsel⟩ := select_reordered {} {} false _ _ hknown hre e he
    rw [he] at hok
    rw [he'] at hok'
    exact ⟨hknown, hre, e, e', rfl, he', Option.some.inj hok, Option.some.inj hok', (hsel cs).2⟩

end Encounter
end CombatPlan
