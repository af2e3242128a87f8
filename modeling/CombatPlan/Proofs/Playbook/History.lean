import CombatPlan.Proofs.Playbook.Register

/-!
# What calls leave in a playbook

A call records an intent or a program: for the opponents that it lists, or as the default if it lists none.
What a call does to the four parts of a playbook is said once (`call_of_opponents`); a playbook after many
calls is then told from the calls alone (`callAll_of_opponents`), in the order of first writes and by last writes.
-/

namespace CombatPlan

namespace Playbook

/-! ## What a call records -/

namespace Call

variable {α β : Type}

def subjects : Call → List Subject
  | order _ ss => ss
  | banish ss => ss
  | prescribe _ ss => ss
  | useItem _ ss => ss

def opponents (c : Call) : List Opponent :=
  c.subjects.filterMap (·.opponent?)

def lists (o : Opponent) (c : Call) : Bool :=
  c.opponents.any (· == o)

def intent? : Call → Option Intent
  | order (.intent i) _ => some i
  | banish (_ :: _) => some .banish
  | _ => none

def program? : Call → Option Program
  | prescribe program _ => program
  | useItem (.text name) _ => if name = "" then none else some (.ofStep (.use .item name))
  | _ => none

def ordered? : Call → Option Order
  | order wanted _ => some wanted
  | banish (_ :: _) => some (.intent .banish)
  | _ => none

def prescribed? : Call → Option (Option Program)
  | prescribe program _ => some program
  | useItem item _ => (Program.done.addStep (.use .item) item).toOption.map some
  | _ => none

def OfOpponents (c : Call) : Prop :=
  ∀ s ∈ c.subjects, ∃ o : Opponent, s = .opponent o

/-- A call about opponents that the catalog keeps its promises of, with an intent or a program. What is to be
used as an item may be anything. -/
inductive Known : Call → Prop
  | order (i : Intent) (os : List Opponent) (h : ∀ o ∈ os, o.Valid) : Known (order (.intent i) (os.map .opponent))
  | banish (os : List Opponent) (h : ∀ o ∈ os, o.Valid) : Known (banish (os.map .opponent))
  | prescribe (p : Program) (os : List Opponent) (h : ∀ o ∈ os, o.Valid) :
      Known (prescribe (some p) (os.map .opponent))
  | useItem (item : Datum) (os : List Opponent) (h : ∀ o ∈ os, o.Valid) : Known (useItem item (os.map .opponent))

theorem Known.of_shorthand {os : List Opponent} (h : ∀ o ∈ os, o.Valid) :
    (kill (os.map .opponent)).Known ∧ (killHard (os.map .opponent)).Known ∧ (flee (os.map .opponent)).Known ∧
      (abort (os.map .opponent)).Known :=
  ⟨.order .kill os h, .order .killHard os h, .order .runAway os h, .order .abort os h⟩

section
variable (f : Call → Option α)

def last (p : Call → Bool) (calls : List Call) : Option α :=
  ((calls.filter p).filterMap f).getLast?

def recorded (calls : List Call) : List Opponent :=
  (calls.filter fun c => (f c).isSome).flatMap (·.opponents)

def writes (c : Call) : List (Opponent × α) :=
  match f c with
  | some a => c.opponents.map (·, a)
  | none => []

theorem last_nil (p : Call → Bool) : last f p [] = none := rfl

theorem last_cons (p : Call → Bool) (c : Call) (calls : List Call) :
    last f p (c :: calls) = (last f p calls).or (if p c then f c else none) := by
  unfold last
  rw [List.filter_cons]
  by_cases hp : p c = true
  · rw [if_pos hp, if_pos hp, List.filterMap_cons]
    cases f c with
    | none => rw [Option.or_none]
    | some a =>
      show (a :: _).getLast? = _
      rw [List.getLast?_cons]
      cases (List.filterMap f (calls.filter p)).getLast? <;> rfl
  · rw [if_neg hp, if_neg hp, Option.or_none]

theorem last_map (g : α → β) (p : Call → Bool) (calls : List Call) :
    last (fun c => (f c).map g) p calls = (last f p calls).map g := by
  unfold last
  rw [← List.map_filterMap, List.getLast?_map]

theorem last_congr {p q : Call → Bool} (h : ∀ c, p c = q c) (calls : List Call) :
    last f p calls = last f q calls := by
  rw [funext h]

theorem last_congr_left {f g : Call → Option α} {calls : List Call} (h : ∀ c ∈ calls, f c = g c) (p : Call → Bool) :
    last f p calls = last g p calls := by
  unfold last
  rw [List.filterMap_congr fun c hc => h c (List.mem_filter.mp hc).1]

theorem map_fst_writes (c : Call) :
    (writes f c).map (·.1) = if (f c).isSome then c.opponents else [] := by
  unfold writes
  cases f c with
  | some a => rw [List.map_map]; exact List.map_id _
  | none => rfl

theorem map_fst_flatMap_writes (calls : List Call) :
    (calls.flatMap (writes f)).map (·.1) = recorded f calls := by
  unfold recorded
  induction calls with
  | nil => rfl
  | cons c calls ih =>
    rw [List.flatMap_cons, List.map_append, ih, map_fst_writes, List.filter_cons]
    cases (f c).isSome <;> simp

theorem flatMap_writes_congr {f g : Call → Option α} : ∀ {calls : List Call}, (∀ c ∈ calls, f c = g c) →
    calls.flatMap (writes f) = calls.flatMap (writes g)
  | [], _ => rfl
  | c :: calls, h => by
    obtain ⟨hc, hcalls⟩ := List.forall_mem_cons.mp h
    rw [List.flatMap_cons, List.flatMap_cons, flatMap_writes_congr hcalls, writes, hc, writes]

end

theorem lists_congr {k o : Opponent} (h : (k == o) = true) (c : Call) : c.lists k = c.lists o := by
  unfold lists
  simp only [BEq.congr_right h]

theorem opponents_map (os : List Opponent) : (os.map Subject.opponent).filterMap (·.opponent?) = os := by
  rw [List.filterMap_map]
  exact List.filterMap_some

theorem map_opponents : ∀ {ss : List Subject}, (∀ s ∈ ss, ∃ o : Opponent, s = .opponent o) →
    (ss.filterMap (·.opponent?)).map .opponent = ss
  | [], _ => rfl
  | s :: ss, h => by
    obtain ⟨⟨o, rfl⟩, hss⟩ := List.forall_mem_cons.mp h
    exact congrArg (Subject.opponent o :: ·) (map_opponents hss)

theorem Known.ofOpponents {c : Call} (h : c.Known) : c.OfOpponents := by
  have hmap : ∀ os : List Opponent, ∀ s ∈ os.map Subject.opponent, ∃ o : Opponent, s = .opponent o := by
    intro os s hs
    obtain ⟨o, -, rfl⟩ := List.mem_map.mp hs
    exact ⟨o, rfl⟩
  cases h <;> exact hmap _

end Call

/-! ## One call -/

theorem setOrder_opponents (b : Playbook) (order : Order) (os : List Opponent) :
    b.setOrder order (os.map .opponent) =
      ({ b with
          defaultOrder := if os.isEmpty then order else b.defaultOrder
          intents := b.intents.enter (os.map (·, order)) }, none) := by
  cases os with
  | nil => rfl
  | cons o os => simp only [setOrder, Register.putAll_opponents]; rfl

theorem setProgram_opponents (b : Playbook) (program : Option Program) (os : List Opponent) :
    b.setProgram program (os.map .opponent) =
      ({ b with
          defaultProgram := if os.isEmpty then program else b.defaultProgram
          programs := b.programs.enter (os.map (·, program)) }, none) := by
  cases os with
  | nil => rfl
  | cons o os => simp only [setProgram, Register.putAll_opponents]; rfl

theorem program?_useItem {item : Datum} {ss : List Subject} {p : Program} :
    (Call.useItem item ss).program? = some p ↔ Program.done.addStep (.use .item) item = .ok p := by
  unfold Program.addStep
  constructor
  · intro h
    cases item with
    | scalar v =>
      cases v with
      | text name =>
        by_cases hn : name = ""
        · subst hn; cases h
        · have hp : Program.ofStep (.use .item name) = p := Option.some.inj ((if_neg hn).symm.trans h)
          rw [Step.make_use_text _ hn, ← hp]
          rfl
      | _ => cases h
    | _ => cases h
  · intro h
    cases hs : Step.make (.use .item) item with
    | error r => rw [hs] at h; cases h
    | ok s =>
      obtain ⟨name, rfl, hn, rfl⟩ := Step.make_use_eq_ok.mp hs
      rw [hs] at h
      exact (if_neg hn).trans (congrArg some (Except.ok.inj h))

theorem Call.Known.ordered? {c : Call} (h : c.Known) : c.ordered? = c.intent?.map .intent := by
  cases h with
  | banish os => cases os <;> rfl
  | _ => rfl

theorem Call.Known.prescribed? {c : Call} (h : c.Known) : c.prescribed? = c.program?.map some := by
  cases h with
  | useItem item os =>
    have hsame : (Program.done.addStep (.use .item) item).toOption = (Call.useItem item (os.map .opponent)).program? := by
      refine Option.ext fun p => ?_
      rw [program?_useItem]
      cases Program.done.addStep (.use .item) item <;> simp [Except.toOption]
    rw [← hsame]
    rfl
  | _ => rfl

theorem call_of_opponents (b : Playbook) {c : Call} (h : c.OfOpponents) :
    (b.call c).1 =
      { b with
        defaultOrder := (if c.opponents.isEmpty then c.ordered? else none).getD b.defaultOrder
        defaultProgram := (if c.opponents.isEmpty then c.prescribed? else none).getD b.defaultProgram
        intents := b.intents.enter (c.writes Call.ordered?)
        programs := b.programs.enter (c.writes Call.prescribed?) } := by
  obtain ⟨os, hos⟩ : ∃ os : List Opponent, os.map .opponent = c.subjects := ⟨_, Call.map_opponents h⟩
  cases c with
  | order wanted ss =>
    obtain rfl : os.map .opponent = ss := hos
    simp only [call, setOrder_opponents, Call.writes, Call.opponents, Call.subjects, Call.opponents_map, Call.ordered?,
      Call.prescribed?]
    cases os <;> rfl
  | banish ss =>
    obtain rfl : os.map .opponent = ss := hos
    cases os with
    | nil => rfl
    | cons o os =>
      show (b.setOrder (.intent .banish) ((o :: os).map .opponent)).1 = _
      simp only [setOrder_opponents, Call.writes, Call.opponents, Call.subjects, Call.opponents_map, Call.ordered?,
        Call.prescribed?]
      rfl
  | prescribe program ss =>
    obtain rfl : os.map .opponent = ss := hos
    simp only [call, setProgram_opponents, Call.writes, Call.opponents, Call.subjects, Call.opponents_map, Call.ordered?,
      Call.prescribed?]
    cases os <;> rfl
  | useItem item ss =>
    obtain rfl : os.map .opponent = ss := hos
    simp only [call, Call.writes, Call.opponents, Call.subjects, Call.opponents_map, Call.ordered?, Call.prescribed?]
    cases Program.done.addStep (.use .item) item with
    | ok p =>
      simp only [setProgram_opponents]
      cases os <;> rfl
    | error r => cases os <;> rfl

theorem callAll_of_opponents : ∀ {calls : List Call} (b : Playbook), (∀ c ∈ calls, c.OfOpponents) →
    b.callAll calls =
      { b with
        defaultOrder := (Call.last Call.ordered? (·.opponents.isEmpty) calls).getD b.defaultOrder
        defaultProgram := (Call.last Call.prescribed? (·.opponents.isEmpty) calls).getD b.defaultProgram
        intents := b.intents.enter (calls.flatMap (Call.writes Call.ordered?))
        programs := b.programs.enter (calls.flatMap (Call.writes Call.prescribed?)) }
  | [], b, _ => rfl
  | c :: calls, b, h => by
    rw [List.forall_mem_cons] at h
    show (b.call c).1.callAll calls = _
    rw [callAll_of_opponents _ h.2, call_of_opponents b h.1]
    simp only [Call.last_cons, List.flatMap_cons, Register.enter_append, Option.getD_or]

theorem known_callAll (boss : Bool) {calls : List Call} (h : ∀ c ∈ calls, c.OfOpponents) :
    (({ boss } : Playbook).callAll calls).Known := by
  rw [callAll_of_opponents _ h]
  exact ⟨Register.opponent_of_mem_enter _, Register.opponent_of_mem_enter _⟩

theorem callAll_of_known {calls : List Call} (b : Playbook) (h : ∀ c ∈ calls, c.Known) :
    b.callAll calls =
      { b with
        defaultOrder := ((Call.last Call.intent? (·.opponents.isEmpty) calls).map .intent).getD b.defaultOrder
        defaultProgram := (Call.last Call.program? (·.opponents.isEmpty) calls).or b.defaultProgram
        intents := b.intents.enter (calls.flatMap (Call.writes fun c => c.intent?.map .intent))
        programs := b.programs.enter (calls.flatMap (Call.writes fun c => c.program?.map some)) } := by
  have hordered : ∀ c ∈ calls, c.ordered? = c.intent?.map .intent := fun c hc => (h c hc).ordered?
  have hprescribed : ∀ c ∈ calls, c.prescribed? = c.program?.map some := fun c hc => (h c hc).prescribed?
  rw [callAll_of_opponents b fun c hc => (h c hc).ofOpponents, Call.last_congr_left hordered,
    Call.last_congr_left hprescribed, Call.flatMap_writes_congr hordered, Call.flatMap_writes_congr hprescribed,
    Call.last_map, Call.last_map]
  cases Call.last Call.program? (·.opponents.isEmpty) calls <;> rfl

structure Proper (b : Playbook) : Prop where
  known : b.Known
  defaultOrder : ∀ d, b.defaultOrder ≠ .data d
  intents : ∀ e ∈ b.intents, ∀ d, e.2 ≠ .data d
  programs : ∀ e ∈ b.programs, e.2 ≠ none

theorem Call.forall_mem_writes {α : Type} {f : Call → Option α} {Q : α → Prop} (hf : ∀ c a, f c = some a → Q a)
    (calls : List Call) : ∀ w ∈ calls.flatMap (Call.writes f), Q w.2 := by
  intro w hw
  obtain ⟨c, -, hw⟩ := List.mem_flatMap.mp hw
  unfold Call.writes at hw
  cases hc : f c with
  | some a =>
    rw [hc] at hw
    obtain ⟨o, -, rfl⟩ := List.mem_map.mp hw
    exact hf c a hc
  | none => rw [hc] at hw; cases hw

theorem proper_callAll (boss : Bool) {calls : List Call} (h : ∀ c ∈ calls, c.Known) :
    (({ boss } : Playbook).callAll calls).Proper := by
  have horder : ∀ (c : Call) (a : Order), c.intent?.map .intent = some a → ∀ d, a ≠ .data d := by
    intro c a hc d
    obtain ⟨i, -, rfl⟩ := Option.map_eq_some_iff.mp hc
    exact nofun
  have hprogram : ∀ (c : Call) (a : Option Program), c.program?.map some = some a → a ≠ none := by
    intro c a hc
    obtain ⟨p, -, rfl⟩ := Option.map_eq_some_iff.mp hc
    exact nofun
  have hknown := known_callAll boss fun c hc => (h c hc).ofOpponents
  have hintents := Register.forall_mem_enter (P := fun _ => True) (Q := fun a : Order => ∀ d, a ≠ .data d)
    (fun _ => trivial) (Call.forall_mem_writes horder calls) (List.forall_mem_nil _)
  have hprograms := Register.forall_mem_enter (P := fun _ => True) (Q := fun a : Option Program => a ≠ none)
    (fun _ => trivial) (Call.forall_mem_writes hprogram calls) (List.forall_mem_nil _)
  rw [callAll_of_known _ h] at hknown ⊢
  exact {
    known := hknown
    defaultOrder := by
      show ∀ d, ((Call.last Call.intent? _ calls).map Order.intent).getD (.intent .runAway) ≠ .data d
      cases Call.last Call.intent? (·.opponents.isEmpty) calls <;> exact nofun
    intents := fun e he => (hintents e he).2
    programs := fun e he => (hprograms e he).2 }

end Playbook

/-- A register of what calls record: one entry for each opponent listed, in the order of first writes, with what
the last call that lists the opponent records. -/
structure Register.Records {α : Type} (f : Playbook.Call → Option α) (calls : List Playbook.Call) (r : Register α) :
    Prop where
  subjects : r.subjects = (Playbook.Call.recorded f calls).eraseDups.map .opponent
  distinct : (Playbook.Call.recorded f calls).eraseDups.Pairwise fun k o => (k == o) = false
  get? : ∀ o : Opponent, r.get? (.opponent o) = Playbook.Call.last f (·.lists o) calls

structure Playbook.Records (boss : Bool) (calls : List Playbook.Call) (b : Playbook) : Prop where
  boss : b.boss = boss
  defaultOrder : b.defaultOrder =
    .intent ((Call.last Call.intent? (·.opponents.isEmpty) calls).getD .runAway)
  defaultProgram : b.defaultProgram = Call.last Call.program? (·.opponents.isEmpty) calls
  intents : Register.Records (fun c => c.intent?.map Order.intent) calls b.intents
  programs : Register.Records (fun c => c.program?.map some) calls b.programs
  whom : ∀ i : Intent, b.whom (.intent i) =
    ((Call.recorded Call.intent? calls).eraseDups.filter fun o =>
      Call.last Call.intent? (·.lists o) calls == some i).map .opponent
  mem_whom : ∀ (i : Intent) (o : Opponent), (∃ k : Opponent, .opponent k ∈ b.whom (.intent i) ∧ (k == o) = true) ↔
    Call.last Call.intent? (·.lists o) calls = some i
  can : ∀ i : Intent, b.can (.intent i) = true ↔
    (Call.last Call.intent? (·.opponents.isEmpty) calls).getD .runAway = i ∨ b.whom (.intent i) ≠ []

namespace Register

variable {α : Type} (f : Playbook.Call → Option α)

theorem get?_enter_writes (o : Opponent) (c : Playbook.Call) (r : Register α) :
    (r.enter (c.writes f)).get? (.opponent o) = (if c.lists o then f c else none).or (r.get? (.opponent o)) := by
  unfold Playbook.Call.writes
  cases f c with
  | some a =>
    show (r.enter (c.opponents.map (·, a))).get? (.opponent o) = _
    rw [get?_enter_map]
    unfold Playbook.Call.lists
    split <;> rfl
  | none => rw [ite_self, Option.none_or]; rfl

theorem get?_enter_flatMap (o : Opponent) : ∀ (calls : List Playbook.Call) (r : Register α),
    (r.enter (calls.flatMap (Playbook.Call.writes f))).get? (.opponent o) =
      (Playbook.Call.last f (·.lists o) calls).or (r.get? (.opponent o))
  | [], _ => rfl
  | c :: calls, r => by
    rw [List.flatMap_cons, enter_append, get?_enter_flatMap o calls, get?_enter_writes, Playbook.Call.last_cons,
      Option.or_assoc]

theorem records_enter (calls : List Playbook.Call) :
    Records f calls (enter [] (calls.flatMap (Playbook.Call.writes f))) where
  subjects := by
    have hall : ∀ os : List Opponent, (os.filter fun o => !has ([] : Register α) (.opponent o)) = os :=
      fun os => List.filter_eq_self.mpr fun _ _ => rfl
    rw [subjects_enter, hall, Playbook.Call.map_fst_flatMap_writes]
    rfl
  distinct := pairwise_eraseDups _
  get? o := (get?_enter_flatMap f o calls []).trans Option.or_none

theorem Records.pairwise {calls : List Playbook.Call} {r : Register α} (h : Records f calls r) :
    r.subjects.Pairwise fun s s' => (s == s') = false := by
  rw [h.subjects, List.pairwise_map]
  exact h.distinct

end Register

namespace Playbook

theorem Call.valid_of_mem_opponents {c : Call} (h : c.Known) {o : Opponent} (ho : o ∈ c.opponents) : o.Valid := by
  cases h <;>
  · rename_i os hos
    unfold opponents subjects at ho
    rw [opponents_map] at ho
    exact hos o ho

theorem Call.valid_of_mem_recorded {α : Type} (f : Call → Option α) {calls : List Call} (h : ∀ c ∈ calls, c.Known)
    {o : Opponent} (ho : o ∈ recorded f calls) : o.Valid := by
  obtain ⟨c, hc, ho⟩ := List.mem_flatMap.mp ho
  exact valid_of_mem_opponents (h c (List.mem_filter.mp hc).1) ho

end Playbook

theorem Register.Records.get?_of_mem {α : Type} {f : Playbook.Call → Option α} {calls : List Playbook.Call}
    {r : Register α} (hr : Register.Records f calls r) (h : ∀ c ∈ calls, c.Known) {s : Subject} {a : α} (ha : (s, a) ∈ r) :
    ∃ k : Opponent, s = .opponent k ∧ r.get? (.opponent k) = some a := by
  have hs : s ∈ r.subjects := List.mem_map.mpr ⟨_, ha, rfl⟩
  rw [hr.subjects] at hs
  obtain ⟨k, hk, rfl⟩ := List.mem_map.mp hs
  have hvalid := Playbook.Call.valid_of_mem_recorded f h ((eraseDups_sublist _).subset hk)
  exact ⟨k, rfl, Register.get?_of_mem hvalid.beq_self hr.pairwise ha⟩

namespace Playbook

theorem records_ordered (boss : Bool) {calls : List Call} (h : ∀ c ∈ calls, c.OfOpponents) :
    Register.Records Call.ordered? calls (({ boss } : Playbook).callAll calls).intents := by
  rw [callAll_of_opponents _ h]
  exact Register.records_enter _ calls

theorem records_prescribed (boss : Bool) {calls : List Call} (h : ∀ c ∈ calls, c.OfOpponents) :
    Register.Records Call.prescribed? calls (({ boss } : Playbook).callAll calls).programs := by
  rw [callAll_of_opponents _ h]
  exact Register.records_enter _ calls

theorem records_intents (boss : Bool) {calls : List Call} (h : ∀ c ∈ calls, c.Known) :
    Register.Records (fun c => c.intent?.map Order.intent) calls (({ boss } : Playbook).callAll calls).intents := by
  rw [callAll_of_known _ h]
  exact Register.records_enter _ calls

theorem records_programs (boss : Bool) {calls : List Call} (h : ∀ c ∈ calls, c.Known) :
    Register.Records (fun c => c.program?.map some) calls (({ boss } : Playbook).callAll calls).programs := by
  rw [callAll_of_known _ h]
  exact Register.records_enter _ calls

end Playbook
end CombatPlan
