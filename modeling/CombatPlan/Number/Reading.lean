import CombatPlan.Number.Exact
import CombatPlan.Text.Blank
import CombatPlan.Text.Digit

/-!
# Reading numbers

Two grammars for numbers in text. A *field* is a text given where a number is expected; a *setting* is a
text from the environment. Both may have blanks around them and group digits with underscores; a setting may
use the decimal digits of any script, a field those of ASCII only. An integer has no more than `digitLimit`
digits.
-/

namespace CombatPlan.Number

open Text

def splitSign : List Char → Bool × List Char
  | '-' :: cs => (true, cs)
  | '+' :: cs => (false, cs)
  | cs => (false, cs)

def natOf (ds : List Char) : Nat :=
  Nat.ofDigitChars 10 ds 0

def nat? (ds : List Char) : Option Nat :=
  if ds ≠ [] ∧ ds.all Char.isDigit then some (natOf ds) else none

/-- Drops underscores that stand between two digits; there must be no others. -/
def ungroup? (afterDigit : Bool) : List Char → Option (List Char)
  | [] => some []
  | c :: cs =>
    if c = '_' then
      if afterDigit && cs.head?.any Char.isDigit then ungroup? false cs else none
    else (ungroup? c.isDigit cs).map (c :: ·)

/-- Drops underscores; none may stand first, last or after another. -/
def dropUnderscores? (cs : List Char) : Option (List Char) :=
  let doubled := (cs.zip cs.tail).any (· == ('_', '_'))
  if cs.head? = some '_' || cs.getLast? = some '_' || doubled then none
  else some (cs.filter (· != '_'))

/-- The exponent after the digits of a decimal: nothing, or `e`, a sign if any, and digits. -/
def exponent? : List Char → Option Int
  | [] => some 0
  | c :: cs =>
    if c = 'e' || c = 'E' then
      let (negative, ds) := splitSign cs
      (nat? ds).map fun n => if negative then -(n : Int) else n
    else none

def decimal? (negative : Bool) (cs : List Char) : Option Float :=
  let whole := cs.takeWhile Char.isDigit
  let (places, rest) :=
    match cs.dropWhile Char.isDigit with
    | '.' :: rest => (rest.takeWhile Char.isDigit, rest.dropWhile Char.isDigit)
    | rest => ([], rest)
  if whole = [] ∧ places = [] then none
  else (exponent? rest).map fun e => ofDecimal negative (natOf (whole ++ places)) (e - places.length)

/-- A decimal, `inf`, `infinity` or `nan` in any case, after a sign if any. -/
def float? (cs : List Char) : Option Float :=
  let (negative, body) := splitSign cs
  let word := String.ofList (body.map Char.toLower)
  if word = "inf" || word = "infinity" then some (if negative then -infinity else infinity)
  else if word = "nan" then some notANumber
  else decimal? negative body

/-! ## Integers -/

def digitLimit : Nat := 4300

def limitWords : String :=
  "Exceeds the limit (" ++ toString digitLimit ++ " digits) for integer string conversion"

def limitAdvice : String :=
  "; use sys.set_int_max_str_digits() to increase the limit"

def oversizedMessage (digits : Nat) : String :=
  limitWords ++ ": value has " ++ toString digits ++ " digits" ++ limitAdvice

inductive IntegerFault where
  | unreadable
  | oversized (digits : Nat)
  deriving DecidableEq, Repr

def splitMinus : List Char → Bool × List Char
  | '-' :: cs => (true, cs)
  | cs => (false, cs)

def limited (negative : Bool) (ds : List Char) : Except IntegerFault Int :=
  if digitLimit < ds.length then .error (.oversized ds.length)
  else .ok (if negative then -(natOf ds : Int) else natOf ds)

/-- Digits without a zero in front, after a minus if any. Too long a row of digits is a fault whatever stands
behind it. -/
def bareInteger (cs : List Char) : Except IntegerFault Int :=
  let (negative, body) := splitMinus cs
  let ds := body.takeWhile Char.isDigit
  if body = ['0'] then .ok 0
  else if ds = [] ∨ ds.head? = some '0' then .error .unreadable
  else do
    let n ← limited negative ds
    if ds = body then return n else throw .unreadable

/-! ## Fields -/

/-- What is left of digits, the first of them a zero, without the zeros in front and the underscores among them.
The last zero stays in front of a point and at the end. -/
def dropLeadingZeros? (last : Char) : List Char → Option (List Char)
  | [] => some [last]
  | c :: cs =>
    if c = '0' || c = '_' then dropLeadingZeros? c cs
    else if c.isDigit || c = '-' then some (c :: cs)
    else if c = '.' then some (last :: c :: cs)
    else none

def dropPlaces (cs : List Char) : List Char :=
  match cs.dropWhile (· != '.') with
  | '.' :: zeros => if zeros ≠ [] ∧ zeros.all (· == '0') then cs.takeWhile (· != '.') else cs
  | _ => cs

/-- A field as a bare integer: without blanks around it, a plus, leading zeros, places that are zero, and
underscores. After a minus a digit must follow; without one in front, a minus may stand behind leading zeros. -/
def tidied? (cs : List Char) : Option (List Char) := do
  let cs ← match trimBy isSpace cs with
    | '+' :: '-' :: _ => none
    | '+' :: cs => some cs
    | cs => some cs
  let (negative, body) := splitMinus cs
  let body ← match body with
    | '0' :: cs => dropLeadingZeros? '0' cs
    | c :: cs => if c.isDigit then some (c :: cs) else none
    | [] => none
  dropUnderscores? (dropPlaces (if negative then '-' :: body else body))

/-- The integer in a field. That it is too long is only told of one that needs no tidying. -/
def fieldInt (s : String) : Except IntegerFault Int :=
  match bareInteger s.toList with
  | .error .unreadable =>
    match (tidied? s.toList).map bareInteger with
    | some (.ok n) => .ok n
    | _ => .error .unreadable
  | result => result

/-- The number in a field. One with underscores must have no blanks around it. -/
def fieldFloat? (s : String) : Option Float :=
  (float? (trimBy isSpace s.toList)).or ((dropUnderscores? s.toList).bind float?)

/-! ## Settings -/

/-- A setting with its decimal digits written in ASCII and its ends trimmed. -/
def plainDigits (s : String) : List Char :=
  (trimBy isSpace s.toList).map fun c =>
    match digitValue? c with
    | some d => Char.ofNat (0x30 + d)
    | none => c

def settingFloat? (s : String) : Option Float :=
  (ungroup? false (plainDigits s)).bind float?

/-- The integer in a setting: a sign if any, and digits with single underscores inside. Too long a row of digits
is a fault whatever stands behind it. -/
def settingInt (s : String) : Except IntegerFault Int := do
  let (negative, body) := splitSign (plainDigits s)
  let row := body.takeWhile fun c => c.isDigit || c == '_'
  match dropUnderscores? row with
  | none | some [] => throw .unreadable
  | some ds =>
    let n ← limited negative ds
    if row = body then return n else throw .unreadable

end CombatPlan.Number
