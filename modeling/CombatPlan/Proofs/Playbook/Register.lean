import CombatPlan.Playbook
import CombatPlan.Proofs.Opponent.Equality

/-!
# Looking up registers

Equal opponents look up the same entry. A write is seen by the opponents equal to its subject and by no others
(`get?_put`); a new subject comes last (`subjects_put`).
-/

namespace CombatPlan

/-! ## Lists without equal entries -/

section
variable {α : Type} [BEq α]

theorem eraseDups_sublist : ∀ l : List α, l.eraseDups.Sublist l
  | [] => .slnil
  | a :: l => by
    rw [List.eraseDups_cons]
    exact ((eraseDups_sublist _).trans List.filter_sublist).cons_cons a
termination_by l => l.length
decreasing_by exact Nat.lt_succ_of_le (List.length_filter_le _ _)

theorem pairwise_eraseDups [PartialEquivBEq α] : ∀ l : List α, l.eraseDups.Pairwise fun a b => (a == b) = false
  | [] => .nil
  | a :: l => by
    rw [List.eraseDups_cons]
    refine List.Pairwise.cons (fun b hb => ?_) (pairwise_eraseDups _)
    have hne := (List.mem_filter.mp ((eraseDups_sublist _).subset hb)).2
    rw [BEq.comm]
    simpa using hne
termination_by l => l.length
decreasing_by exact Nat.lt_succ_of_le (List.length_filter_le _ _)

theorem countP_beq [PartialEquivBEq α] (a : α) : ∀ {l : List α}, (l.Pairwise fun b c => (b == c) = false) →
    l.countP (· == a) = if l.any (· == a) then 1 else 0
  | [], _ => rfl
  | b :: l, h => by
    obtain ⟨hb, hl⟩ := List.pairwise_cons.mp h
    rw [List.countP_cons, List.any_cons, countP_beq a hl]
    cases hba : b == a with
    | false => rfl
    | true =>
      -- whoever equals `a` as well would equal `b`
      have hnone : l.any (· == a) = false := List.any_eq_false.mpr fun c hc hca =>
        Bool.false_ne_true ((hb c hc).symm.trans (PartialEquivBEq.trans hba (PartialEquivBEq.symm hca)))
      rw [hnone]
      rfl

end

namespace Register

variable {α : Type}

/-! ## Looking up -/

theorem get?_nil (s : Subject) : get? s ([] : Register α) = none := rfl

theorem get?_cons (k o : Opponent) (a : α) (r : Register α) :
    get? (.opponent o) ((.opponent k, a) :: r) = if k == o then some a else get? (.opponent o) r := rfl

theorem get?_cons_data (d : Datum) (o : Opponent) (a : α) (r : Register α) :
    get? (.opponent o) ((.data d, a) :: r) = get? (.opponent o) r := rfl

theorem get?_congr {k o : Opponent} (h : (k == o) = true) : ∀ r : Register α,
    r.get? (.opponent k) = r.get? (.opponent o)
  | [] => rfl
  | (.opponent x, a) :: r => by rw [get?_cons, get?_cons, BEq.congr_right h, get?_congr h r]
  | (.data d, a) :: r => by rw [get?_cons_data, get?_cons_data, get?_congr h r]

theorem has_congr {k o : Opponent} (h : (k == o) = true) (r : Register α) :
    r.has (.opponent k) = r.has (.opponent o) :=
  congrArg Option.isSome (get?_congr h r)

theorem has_eq_any (s : Subject) : ∀ r : Register α, r.has s = r.subjects.any (· == s)
  | [] => rfl
  | (s', a) :: r => by
    have ih := has_eq_any s r
    unfold has at ih ⊢
    rw [get?]
    show _ = (s' == s || (subjects r).any (· == s))
    rw [← ih]
    cases s' == s <;> rfl

theorem get?_filter (keep : Subject → Bool) {o : Opponent} (hk : keep (.opponent o) = true)
    (hc : ∀ k : Opponent, (k == o) = true → keep (.opponent k) = keep (.opponent o)) : ∀ r : Register α,
    get? (.opponent o) (r.filter fun e => keep e.1) = r.get? (.opponent o)
  | [] => rfl
  | (.opponent x, a) :: r => by
    rw [List.filter_cons]
    cases hx : x == o with
    | true => rw [hc x hx, hk, if_pos rfl, get?_cons, get?_cons, hx, if_pos rfl, if_pos rfl]
    | false =>
      split
      · rw [get?_cons, get?_cons, get?_filter keep hk hc r]
      · rw [get?_cons, hx, get?_filter keep hk hc r, if_neg Bool.false_ne_true]
  | (.data d, a) :: r => by
    rw [List.filter_cons]
    split
    · rw [get?_cons_data, get?_cons_data, get?_filter keep hk hc r]
    · rw [get?_cons_data, get?_filter keep hk hc r]

theorem mem_of_get? {o : Opponent} {a : α} : ∀ {r : Register α}, r.get? (.opponent o) = some a →
    ∃ k : Opponent, (.opponent k, a) ∈ r ∧ (k == o) = true
  | [], h => nomatch h
  | (.opponent x, a') :: r, h => by
    rw [get?_cons] at h
    by_cases hx : (x == o) = true
    · rw [if_pos hx] at h
      cases h
      exact ⟨x, List.mem_cons_self, hx⟩
    · rw [if_neg hx] at h
      obtain ⟨k, hk, hko⟩ := mem_of_get? h
      exact ⟨k, List.mem_cons_of_mem _ hk, hko⟩
  | (.data d, a') :: r, h => by
    obtain ⟨k, hk, hko⟩ := mem_of_get? (r := r) h
    exact ⟨k, List.mem_cons_of_mem _ hk, hko⟩

theorem get?_of_mem {k : Opponent} {a : α} (hk : (k == k) = true) : ∀ {r : Register α},
    r.subjects.Pairwise (fun s s' => (s == s') = false) → (.opponent k, a) ∈ r → r.get? (.opponent k) = some a
  | (s, a') :: r, hr, h => by
    obtain ⟨hs, hr⟩ := List.pairwise_cons.mp hr
    rcases List.mem_cons.mp h with h | h
    · cases h
      rw [get?_cons, if_pos hk]
    · have hne : (s == .opponent k) = false := hs _ (List.mem_map.mpr ⟨_, h, rfl⟩)
      have ih := get?_of_mem hk hr h
      cases s with
      | opponent x =>
        change (x == k) = false at hne
        rw [get?_cons, hne, if_neg Bool.false_ne_true, ih]
      | data d => rw [get?_cons_data, ih]

/-! ## Writing -/

theorem put_cons (x k : Opponent) (a a' : α) (r : Register α) :
    put (.opponent k) a ((.opponent x, a') :: r) =
      if x == k then (.opponent x, a) :: r else (.opponent x, a') :: put (.opponent k) a r := rfl

theorem put_cons_data (d : Datum) (k : Opponent) (a a' : α) (r : Register α) :
    put (.opponent k) a ((.data d, a') :: r) = (.data d, a') :: put (.opponent k) a r := rfl

theorem get?_put (k o : Opponent) (a : α) : ∀ r : Register α,
    (r.put (.opponent k) a).get? (.opponent o) = if k == o then some a else r.get? (.opponent o)
  | [] => rfl
  | (.opponent x, a') :: r => by
    rw [put_cons]
    by_cases hx : (x == k) = true
    · rw [if_pos hx, get?_cons, get?_cons, BEq.congr_left hx]
      split <;> rfl
    · rw [if_neg hx, get?_cons, get?_cons, get?_put k o a r]
      by_cases hk : (k == o) = true
      · -- whoever equals both `x` and `k` would make them equal
        have hxo : ¬(x == o) = true := fun h => hx (PartialEquivBEq.trans h (PartialEquivBEq.symm hk))
        rw [if_neg hxo, if_pos hk, if_pos hk]
      · rw [if_neg hk, if_neg hk]
  | (.data d, a') :: r => by rw [put_cons_data, get?_cons_data, get?_cons_data, get?_put k o a r]

theorem put_put {k o : Opponent} (h : (k == o) = true) (a a' : α) : ∀ r : Register α,
    (r.put (.opponent k) a).put (.opponent o) a' = r.put (.opponent k) a'
  | [] => by
    show put (.opponent o) a' [(.opponent k, a)] = _
    rw [put_cons, if_pos h]
    rfl
  | (.opponent x, b) :: r => by
    rw [put_cons, put_cons]
    by_cases hx : (x == k) = true
    · rw [if_pos hx, if_pos hx, put_cons, if_pos (PartialEquivBEq.trans hx h)]
    · have hxo : ¬(x == o) = true := fun hxo => hx (PartialEquivBEq.trans hxo (PartialEquivBEq.symm h))
      rw [if_neg hx, if_neg hx, put_cons, if_neg hxo, put_put h a a' r]
  | (.data d, b) :: r => by rw [put_cons_data, put_cons_data, put_cons_data, put_put h a a' r]

theorem has_put (k o : Opponent) (a : α) (r : Register α) :
    (r.put (.opponent k) a).has (.opponent o) = (r.has (.opponent o) || k == o) := by
  unfold has
  rw [get?_put]
  cases k == o <;> simp

theorem subjects_put (k : Opponent) (a : α) : ∀ r : Register α,
    (r.put (.opponent k) a).subjects =
      if r.has (.opponent k) then r.subjects else r.subjects ++ [.opponent k]
  | [] => rfl
  | (.opponent x, a') :: r => by
    have ih := subjects_put k a r
    unfold subjects has at ih ⊢
    rw [put_cons, get?_cons]
    cases x == k with
    | true => rfl
    | false =>
      rw [if_neg Bool.false_ne_true, if_neg Bool.false_ne_true, List.map_cons, ih]
      split <;> rfl
  | (.data d, a') :: r => by
    have ih := subjects_put k a r
    unfold subjects has at ih ⊢
    rw [put_cons_data, get?_cons_data, List.map_cons, ih]
    split <;> rfl

theorem forall_mem_put {P : Subject → Prop} {Q : α → Prop} {s : Subject} {a : α} (hs : P s) (ha : Q a) :
    ∀ {r : Register α}, (∀ e ∈ r, P e.1 ∧ Q e.2) → ∀ e ∈ r.put s a, P e.1 ∧ Q e.2
  | [], _ => List.forall_mem_singleton.mpr ⟨hs, ha⟩
  | (s', a') :: r, h => by
    rw [List.forall_mem_cons] at h
    unfold put
    split
    · exact List.forall_mem_cons.mpr ⟨⟨h.1.1, ha⟩, h.2⟩
    · exact List.forall_mem_cons.mpr ⟨h.1, forall_mem_put hs ha h.2⟩

theorem forall_mem_putAll {P : Subject → Prop} {Q : α → Prop} {a : α} (ha : Q a) : ∀ {ss : List Subject} {r : Register α},
    (∀ s ∈ ss, P s) → (∀ e ∈ r, P e.1 ∧ Q e.2) → ∀ e ∈ (putAll a ss r).1, P e.1 ∧ Q e.2
  | [], _, _, h => h
  | s :: ss, r, hss, h => by
    rw [List.forall_mem_cons] at hss
    have hput := forall_mem_put hss.1 ha h
    cases s with
    | opponent o => exact forall_mem_putAll ha (r := r.put (.opponent o) a) hss.2 hput
    | data d =>
      unfold putAll
      dsimp only
      split
      · exact forall_mem_putAll ha (r := r.put (.data d) a) hss.2 hput
      · exact h

/-! ## Many writes -/

def enter (r : Register α) (ws : List (Opponent × α)) : Register α :=
  ws.foldl (fun r w => r.put (.opponent w.1) w.2) r

theorem enter_append (r : Register α) (ws ws' : List (Opponent × α)) :
    r.enter (ws ++ ws') = (r.enter ws).enter ws' :=
  List.foldl_append

theorem forall_mem_enter {P : Subject → Prop} {Q : α → Prop} (hP : ∀ o : Opponent, P (.opponent o)) :
    ∀ {ws : List (Opponent × α)} {r : Register α}, (∀ w ∈ ws, Q w.2) → (∀ e ∈ r, P e.1 ∧ Q e.2) →
      ∀ e ∈ r.enter ws, P e.1 ∧ Q e.2
  | [], _, _, hr => hr
  | w :: ws, r, hw, hr => by
    rw [List.forall_mem_cons] at hw
    exact forall_mem_enter hP (r := r.put (.opponent w.1) w.2) hw.2 (forall_mem_put (hP w.1) hw.1 hr)

theorem opponent_of_mem_enter (ws : List (Opponent × α)) : ∀ e ∈ enter [] ws, ∃ o : Opponent, e.1 = .opponent o := by
  have hall : ∀ e ∈ enter [] ws, (∃ o : Opponent, e.1 = .opponent o) ∧ True :=
    forall_mem_enter (P := fun s => ∃ o : Opponent, s = .opponent o) (Q := fun _ => True) (fun o => ⟨o, rfl⟩)
      (fun _ _ => trivial) (List.forall_mem_nil _)
  exact fun e he => (hall e he).1

theorem putAll_opponents (a : α) : ∀ (os : List Opponent) (r : Register α),
    putAll a (os.map .opponent) r = (r.enter (os.map (·, a)), none)
  | [], _ => rfl
  | o :: os, r => putAll_opponents a os (r.put (.opponent o) a)

theorem get?_enter_map (a : α) (o : Opponent) : ∀ (os : List Opponent) (r : Register α),
    (r.enter (os.map (·, a))).get? (.opponent o) =
      if os.any (· == o) then some a else r.get? (.opponent o)
  | [], _ => rfl
  | k :: os, r => by
    rw [List.any_cons]
    refine (get?_enter_map a o os (r.put (.opponent k) a)).trans ?_
    rw [get?_put]
    cases k == o <;> cases os.any (· == o) <;> rfl

theorem subjects_enter : ∀ (ws : List (Opponent × α)) (r : Register α),
    (r.enter ws).subjects =
      r.subjects ++ (((ws.map (·.1)).filter fun o => !r.has (.opponent o)).eraseDups).map .opponent
  | [], r => (List.append_nil _).symm
  | (k, a) :: ws, r => by
    refine (subjects_enter ws (r.put (.opponent k) a)).trans ?_
    rw [subjects_put, List.map_cons, List.filter_cons]
    cases hk : r.has (.opponent k) with
    | true =>
      -- whoever equals `k` is there already
      have hkeep : ∀ o, (!(r.put (.opponent k) a).has (.opponent o)) = !r.has (.opponent o) := by
        intro o
        rw [has_put]
        cases ho : k == o with
        | true => rw [← has_congr ho, hk]; rfl
        | false => rw [Bool.or_false]
      simp only [hkeep]
      rfl
    | false =>
      have hkeep : ∀ o, (!(r.put (.opponent k) a).has (.opponent o)) = (!(o == k) && !r.has (.opponent o)) := by
        intro o
        rw [has_put, Bool.not_or, Bool.and_comm, BEq.comm]
      simp only [hkeep, ← List.filter_filter]
      show r.subjects ++ [.opponent k] ++ _ = r.subjects ++ List.map .opponent (List.eraseDups (k :: _))
      rw [List.eraseDups_cons, List.map_cons, List.append_assoc, List.singleton_append]

end Register

structure Playbook.Known (b : Playbook) : Prop where
  intents : ∀ e ∈ b.intents, ∃ o : Opponent, e.1 = .opponent o
  programs : ∀ e ∈ b.programs, ∃ o : Opponent, e.1 = .opponent o

end CombatPlan
