import CombatPlan.Log.Book
import Mathlib

/-!
# Messages made from templates

A text without percent signs stands for itself, and each slot for its argument. So the log makes of an event's template
the very message of the event (`Event.message?_template`).
-/

namespace CombatPlan

namespace Template

def Fills (cs : List Char) (args : List Datum) (filled : List Char) : Prop :=
  ∀ fuel, cs.length ≤ fuel → format? fuel cs ⟨args, none⟩ = some filled

namespace Fills

variable {cs rest filled : List Char} {args : List Datum}

theorem nil : Fills [] [] [] := fun fuel _ => by
  cases fuel <;> rfl

theorem of_eq {cs' filled' : List Char} (h : Fills cs args filled) (hcs : cs' = cs) (hfilled : filled' = filled) :
    Fills cs' args filled' := by
  rwa [hcs, hfilled]

theorem append (h : Fills cs args filled) : ∀ lead : List Char, '%' ∉ lead → Fills (lead ++ cs) args (lead ++ filled)
  | [], _ => h
  | c :: lead, hlead => by
    obtain ⟨hc, hlead⟩ := List.ne_and_not_mem_of_not_mem_cons hlead
    intro fuel hfuel
    obtain ⟨fuel, rfl⟩ : ∃ k, fuel = k + 1 := Nat.exists_eq_add_one_of_ne_zero (Nat.ne_zero_of_lt hfuel)
    rw [List.cons_append, format?, h.append lead hlead fuel (Nat.le_of_succ_le_succ hfuel)]
    · rfl
    · exact fun _ h => absurd h.symm hc
    · exact fun h => absurd h.symm hc

theorem slot (h : Fills rest args filled) {slot : Slot} {letter : Char} {shown : List Char} {arg : Datum}
    (hcs : cs.head? ≠ some '%') (hrest : rest.length ≤ cs.length)
    (hslot : readSlot? cs ⟨arg :: args, none⟩ = some (slot, letter, rest, ⟨arg :: args, none⟩))
    (hshown : fill? slot letter arg = some shown) : Fills ('%' :: cs) (arg :: args) (shown ++ filled) := by
  intro fuel hfuel
  obtain ⟨fuel, rfl⟩ : ∃ k, fuel = k + 1 := Nat.exists_eq_add_one_of_ne_zero (Nat.ne_zero_of_lt hfuel)
  have hrest := h fuel (hrest.trans (Nat.le_of_succ_le_succ hfuel))
  rw [format?]
  · simp only [hslot, Arguments.take?, hshown, hrest, bind, Option.bind]
    rfl
  · rintro cs' rfl
    exact hcs rfl

end Fills

theorem message?_of_fills {template : String} {args : List Datum} {filled : List Char} (hargs : args ≠ [])
    (hlist : Arguments.ofList args = ⟨args, none⟩) (h : Fills template.toList args filled) :
    message? template args = some (String.ofList filled) := by
  have hempty : args.isEmpty = false := List.isEmpty_eq_false_iff.mpr hargs
  unfold message?
  rw [hempty, if_neg Bool.false_ne_true, hlist, h _ (Nat.le_of_eq String.length_toList)]
  rfl

/-! ## Slots -/

theorem Slot.pad_of_width {slot : Slot} (h : slot.width = 0) (cs : List Char) : slot.pad cs = cs := by
  simp [Slot.pad, h]

theorem Slot.padNumber_of_precision (precision? : Option Nat) (negative : Bool) (body : List Char) :
    Slot.padNumber { precision? } negative [] body = if negative then '-' :: body else body := by
  have hwidth : ({ precision? } : Slot).width = 0 := rfl
  cases negative <;> exact Slot.pad_of_width hwidth _

theorem fill?_text (s : String) : fill? {} 's' (.text s) = some s.toList :=
  congrArg some (Slot.pad_of_width rfl _)

theorem fill?_bool (b : Bool) : fill? {} 's' (.bool b) = some (if b then "True" else "False").toList := by
  cases b <;> rfl

theorem fill?_nat (n : Nat) : fill? {} 'd' (.int n) = some (toString n).toList := by
  have hpositive : ¬(n : Int) < 0 := Int.not_lt.mpr (Int.natCast_nonneg n)
  have hdigits : 1 - (Nat.toDigits 10 n).length = 0 := Nat.sub_eq_zero_of_le Nat.length_toDigits_pos
  show some (Slot.padNumber {} (decide ((n : Int) < 0)) [] (digitsIn {} 10 n)) = _
  rw [Slot.padNumber_of_precision, decide_eq_false hpositive, if_neg Bool.false_ne_true, Nat.toString_eq_ofList_toDigits,
    String.toList_ofList]
  simp [digitsIn, hdigits]

theorem fill?_float (places : Nat) (x : Float) :
    fill? { precision? := some places } 'f' (.float x) = some (Number.fixed places x).toList := by
  have hmagnitude : magnitude { precision? := some places } 'f' x = (Number.placesOf places x).toList := by
    unfold magnitude Number.placesOf
    cases Number.exact x <;> simp
  show some (Slot.padNumber _ (Number.isNegative x) [] (magnitude { precision? := some places } 'f' x)) = _
  rw [Slot.padNumber_of_precision, hmagnitude, Number.fixed]
  cases Number.isNegative x <;> simp

namespace Fills

variable {rest filled : List Char} {args : List Datum} (h : Fills rest args filled)
include h

theorem text (s : String) : Fills ('%' :: 's' :: rest) (.text s :: args) (s.toList ++ filled) :=
  h.slot nofun (Nat.le_succ _) rfl (fill?_text s)

theorem bool (b : Bool) :
    Fills ('%' :: 's' :: rest) (.bool b :: args) ((if b then "True" else "False").toList ++ filled) :=
  h.slot nofun (Nat.le_succ _) rfl (fill?_bool b)

theorem nat (n : Nat) : Fills ('%' :: 'd' :: rest) (.int n :: args) ((toString n).toList ++ filled) :=
  h.slot nofun (Nat.le_succ _) rfl (fill?_nat n)

theorem onePlace (x : Float) : Fills ('%' :: '.' :: '1' :: 'f' :: rest) (.float x :: args)
    ((Number.fixed 1 x).toList ++ filled) :=
  h.slot nofun (Nat.le_add_right _ 3) rfl (fill?_float 1 x)

theorem twoPlaces (x : Float) : Fills ('%' :: '.' :: '2' :: 'f' :: rest) (.float x :: args)
    ((Number.fixed 2 x).toList ++ filled) :=
  h.slot nofun (Nat.le_add_right _ 3) rfl (fill?_float 2 x)

end Fills
end Template

/-! ## Events -/

namespace Event

open Template (Fills)

theorem fills_template (e : Event) : Fills e.template.toList e.arguments e.message.toList := by
  cases e with
  | escalated name defense factor offense =>
    have hoffense := ((Fills.nil.append ")".toList (by decide)).onePlace offense).append " > offense ".toList (by decide)
    have hfactor := (hoffense.twoPlaces factor).append " x ".toList (by decide)
    have hdefense := (hfactor.onePlace defense).append " to kill_hard (defense ".toList (by decide)
    have hname := (hdefense.text name).append "Escalating kill of ".toList (by decide)
    have hmessage : message (.escalated name defense factor offense) =
        "Escalating kill of " ++ name ++ " to kill_hard (defense " ++ Number.fixed 1 defense ++ " x "
          ++ Number.fixed 2 factor ++ " > offense " ++ Number.fixed 1 offense ++ ")" := rfl
    exact hname.of_eq (by simp [template]) (by simp [hmessage])
  | noBanish name? =>
    have hbehind := Fills.nil.append "; banish degraded to abort".toList (by decide)
    have hname := (hbehind.text (name?.getD "default opponent")).append "No banish available for ".toList (by decide)
    have hmessage : message (.noBanish name?) =
        "No banish available for " ++ name?.getD "default opponent" ++ "; banish degraded to abort" := rfl
    exact hname.of_eq (by simp [template]) (by simp [hmessage])
  | assembled wanderers programs intents boss =>
    have hboss := ((Fills.nil.append ")".toList (by decide)).bool boss).append " intent branches (boss=".toList (by decide)
    have hintents := (hboss.nat intents).append " program, ".toList (by decide)
    have hprograms := (hintents.nat programs).append " wanderer, ".toList (by decide)
    have hwanderers := (hprograms.nat wanderers).append "Built combat program: ".toList (by decide)
    have hmessage : message (.assembled wanderers programs intents boss) =
        "Built combat program: " ++ toString wanderers ++ " wanderer, " ++ toString programs ++ " program, "
          ++ toString intents ++ " intent branches (boss=" ++ (if boss then "True" else "False") ++ ")" := rfl
    exact hwanderers.of_eq (by simp [template]) (by simp [hmessage])
  | prepended what name =>
    have hname := (Fills.nil.text name).append " branch for ".toList (by decide)
    have hwhat := (hname.text what).append "Prepended ".toList (by decide)
    have hmessage : message (.prepended what name) = "Prepended " ++ what ++ " branch for " ++ name := rfl
    exact hwhat.of_eq (by simp [template]) (by simp [hmessage])

theorem message?_template (e : Event) : Template.message? e.template e.arguments = some e.message := by
  have hargs : e.arguments ≠ [] ∧ Template.Arguments.ofList e.arguments = ⟨e.arguments, none⟩ := by
    cases e <;> exact ⟨List.cons_ne_nil _ _, rfl⟩
  rw [Template.message?_of_fills hargs.1 hargs.2 e.fills_template, String.ofList_toList]

end Event

theorem LogBook.log_event (b : LogBook) (e : Event) (time : Moment) :
    b.log e.severity.number e.source e.template e.arguments time = b.output (e.toRecord time) := by
  unfold log
  rw [e.message?_template]
  rfl

end CombatPlan
