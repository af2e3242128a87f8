import CombatPlan.Datum.Basic
import CombatPlan.Number.Reading
import CombatPlan.Schema.Fault

/-!
# Rules for fields

A rule reads a typed value from plain data. Rules are lenient about numbers: a truth value counts as zero
or one, and a text is read as a number. A record may have fields that no rule asks for.
-/

namespace CombatPlan.Schema

open Checked

abbrev Rule (α : Type) := Datum → Checked α

namespace Rule

variable {α β : Type}

/-! ## Texts -/

def text : Rule String
  | .text s => valid s
  | _ => fail .notText

def filledText : Rule String := fun d =>
  (text d).andThen fun s => if s = "" then fail .tooShort else valid s

/-- A text that is one of `words`, read as an anchored pattern of alternatives. -/
def oneOf (words : List String) : Rule String := fun d =>
  (text d).andThen fun s =>
    if s ∈ words then valid s else fail (.mismatch ("^(" ++ String.intercalate "|" words ++ ")$"))

def choice (choices : List (String × α)) : Rule α := fun d =>
  let found? := match d with
    | .text s => choices.lookup s
    | _ => none
  match found? with
  | some a => valid a
  | none => fail (.notChoice (choices.map (·.1)))

/-! ## Numbers -/

def finiteOfInt? (n : Int) : Option Float :=
  let x := Number.ofInt n
  if x.isInf then none else some x

def number : Rule Float
  | .float x => valid x
  | .int n =>
    match finiteOfInt? n with
    | some x => valid x
    | none => fail .notNumber
  | .bool b => valid (if b then 1 else 0)
  | .text s =>
    match Number.fieldFloat? s with
    | some x => valid x
    | none => fail .unreadableNumber
  | _ => fail .notNumber

/-- Whether a number keeps a limit; one that is not a number keeps none. -/
def keeps (x : Float) : Bound → Bool
  | .above n => Number.ofInt n < x
  | .atLeast n => Number.ofInt n ≤ x
  | .atMost n => x ≤ Number.ofInt n

/-- A number within limits; the first limit that it breaks is its fault. -/
def bounded (bounds : List Bound) : Rule Float := fun d =>
  (number d).andThen fun x =>
    match bounds.find? (!keeps x ·) with
    | some b => fail (.outside b)
    | none => valid x

/-- The value of a number without a fractional part that fits into 64 bits with a sign. -/
def integral (x : Float) : Checked Int :=
  match Number.exact x with
  | .finite negative m e =>
    let den := 1 <<< (-e).toNat
    let num := m <<< e.toNat
    if num % den ≠ 0 then fail .fractional
    else if Number.signBit ≤ num / den then fail .oversizedInteger
    else valid (if negative then -((num / den : Nat) : Int) else (num / den : Nat))
  | _ => fail .notFinite

def integer : Rule Int
  | .int n => valid n
  | .bool b => valid (if b then 1 else 0)
  | .float x => integral x
  | .text s =>
    match Number.fieldInt s with
    | .ok n => valid n
    | .error .unreadable => fail .unreadableInteger
    | .error (.oversized _) => fail .oversizedInteger
  | _ => fail .notInteger

def natural : Rule Nat := fun d =>
  (integer d).andThen fun n => if n < 0 then fail (.outside (.atLeast 0)) else valid n.toNat

/-! ## Absent values, lists and records -/

def nullable (r : Rule α) : Rule (Option α)
  | .null => valid none
  | d => some <$> r d

def items (r : Rule α) (i : Nat) : List Datum → Checked (List α)
  | [] => valid []
  | d :: ds => List.cons <$> (r d).under (.item i) <*> items r (i + 1) ds

def list (r : Rule α) : Rule (List α)
  | .list ds => items r 0 ds
  | _ => fail .notList

def model (name : String) (read : List (Scalar × Datum) → Checked α) : Rule α
  | .record fields => read fields
  | _ => fail (.notRecord name)

end Rule

def required {α : Type} (name : String) (r : Rule α) (fields : List (Scalar × Datum)) : Checked α :=
  Checked.under (.field name) <|
    match Datum.find? (.text name) fields with
    | some d => r d
    | none => fail .missing

def optional {α : Type} (name : String) (default : α) (r : Rule α)
    (fields : List (Scalar × Datum)) : Checked α :=
  Checked.under (.field name) <|
    match Datum.find? (.text name) fields with
    | some d => r d
    | none => valid default

end CombatPlan.Schema
