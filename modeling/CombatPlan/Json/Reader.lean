import CombatPlan.Datum.Basic
import CombatPlan.Json.Text
import CombatPlan.Number.Reading

/-!
# Reading JSON

A JSON document as plain data. A number is an integer if it has neither a point nor an exponent. Fields keep
their order; of two fields of one name the later value stands in the earlier place.
-/

namespace CombatPlan.Json

open Number

def skipSpace (cs : List Char) : List Char :=
  cs.dropWhile fun c => c == ' ' || c == '\n' || c == '\r' || c == '\t'

def number? (cs : List Char) : Option (Datum × List Char) :=
  let inNumber (c : Char) : Bool :=
    c.isDigit || c == '-' || c == '+' || c == '.' || c == 'e' || c == 'E'
  let body := cs.takeWhile inNumber
  let rest := cs.dropWhile inNumber
  if body.any fun c => c == '.' || c == 'e' || c == 'E' then
    (float? body).map fun x => (.float x, rest)
  else
    let (negative, ds) := splitSign body
    (nat? ds).map fun n => (.int (if negative then -(n : Int) else n), rest)

mutual

/-- A value and what follows it. A text nests no deeper than it is long, which bounds the recursion. -/
def value? : (depth : Nat) → List Char → Option (Datum × List Char)
  | 0, _ => none
  | depth + 1, cs =>
    match skipSpace cs with
    | '"' :: cs => (decode? cs).map fun (s, rest) => (.text (String.ofList s), rest)
    | '[' :: cs =>
      match skipSpace cs with
      | ']' :: rest => some (.list [], rest)
      | _ => items? depth cs
    | '{' :: cs =>
      match skipSpace cs with
      | '}' :: rest => some (.record [], rest)
      | _ => fields? depth [] cs
    | 't' :: _ => ("true".toList.isPrefixOf? (skipSpace cs)).map (.bool true, ·)
    | 'f' :: _ => ("false".toList.isPrefixOf? (skipSpace cs)).map (.bool false, ·)
    | 'n' :: _ => ("null".toList.isPrefixOf? (skipSpace cs)).map (.null, ·)
    | cs => number? cs

def items? : (depth : Nat) → List Char → Option (Datum × List Char)
  | 0, _ => none
  | depth + 1, cs => do
    let (d, rest) ← value? depth cs
    match skipSpace rest with
    | ',' :: rest =>
      match ← items? depth rest with
      | (.list ds, rest) => return (.list (d :: ds), rest)
      | _ => none
    | ']' :: rest => return (.list [d], rest)
    | _ => none

def fields? : (depth : Nat) → List (Scalar × Datum) → List Char → Option (Datum × List Char)
  | 0, _, _ => none
  | depth + 1, before, cs =>
    match skipSpace cs with
    | '"' :: cs => do
      let (key, rest) ← decode? cs
      let rest ← match skipSpace rest with
        | ':' :: rest => some rest
        | _ => none
      let (d, rest) ← value? depth rest
      let fields := Datum.insert (.text (String.ofList key)) d before
      match skipSpace rest with
      | ',' :: rest => fields? depth fields rest
      | '}' :: rest => return (.record fields, rest)
      | _ => none
    | _ => none

end

def read? (s : String) : Option Datum := do
  let (d, rest) ← value? (2 * s.length + 2) s.toList
  if (skipSpace rest).isEmpty then return d else none

end CombatPlan.Json
