import CombatPlan.Datum.Basic
import CombatPlan.Number.Reading
import CombatPlan.Yaml.Cursor

/-!
# Plain texts as values

A plain text in a document is a null, a truth value, an integer, a number, a date or a timestamp if it has the form of
one; all other texts stand for themselves. Integers may be binary, octal, hexadecimal or of base sixty; a
number needs a point, and its exponent a sign.
-/

namespace CombatPlan.Yaml

open Number (splitSign)

/-! ## Words -/

def nulls : List String :=
  ["", "~", "null", "Null", "NULL"]

def trues : List String :=
  ["yes", "Yes", "YES", "true", "True", "TRUE", "on", "On", "ON"]

def falses : List String :=
  ["no", "No", "NO", "false", "False", "FALSE", "off", "Off", "OFF"]

def infinities : List String :=
  [".inf", ".Inf", ".INF"]

def notNumbers : List String :=
  [".nan", ".NaN", ".NAN"]

/-! ## Digits -/

def isDigitOr (c : Char) : Bool :=
  c.isDigit || c == '_'

def dropMarks (cs : List Char) : List Char :=
  cs.filter (· != '_')

def valueIn (base : Nat) (cs : List Char) : Nat :=
  (dropMarks cs).foldl (fun n c =>
    base * n + (if c.isDigit then c.toNat - 0x30 else (c.toLower.toNat - 0x61) + 10)) 0

def isHexOr (c : Char) : Bool :=
  isDigitOr c || ('a' ≤ c && c ≤ 'f') || ('A' ≤ c && c ≤ 'F')

def isSixtieth : List Char → Bool
  | [d] => d.isDigit
  | [t, d] => '0' ≤ t && t ≤ '5' && d.isDigit
  | _ => false

/-- The parts of a text in base sixty: a first part that starts with `p`, and digits below sixty behind colons. -/
def sixtieths? (p : Char → Bool) (cs : List Char) : Option (List (List Char)) :=
  let first := cs.takeWhile (· != ':')
  let startsRight := first.head?.any p && first.all isDigitOr
  let rec others (part : List Char) : List Char → List (List Char)
    | [] => [part.reverse]
    | ':' :: cs => part.reverse :: others [] cs
    | c :: cs => others (c :: part) cs
  match cs.dropWhile (· != ':') with
  | ':' :: rest =>
    let parts := others [] rest
    if startsRight && parts.all isSixtieth then some (first :: parts) else none
  | _ => none

/-! ## Integers -/

def decimal (ds : List Char) : Except DocumentFault Nat :=
  let count := (dropMarks ds).length
  if Number.digitLimit < count then .error (.oversizedInteger count) else .ok (valueIn 10 ds)

def inBase (base : Nat) (ds : List Char) : Except DocumentFault Nat :=
  if dropMarks ds = [] then .error (.noDigits base) else .ok (valueIn base ds)

def natural? (cs : List Char) : Option (Except DocumentFault Nat) :=
  match cs with
  | '0' :: 'b' :: ds =>
    if ds ≠ [] && ds.all (fun c => c == '0' || c == '1' || c == '_') then some (inBase 2 ds) else none
  | '0' :: 'x' :: ds => if ds ≠ [] && ds.all isHexOr then some (inBase 16 ds) else none
  | ['0'] => some (.ok 0)
  | '0' :: ds =>
    if ds.all fun c => ('0' ≤ c && c ≤ '7') || c == '_' then some (.ok (valueIn 8 ds)) else none
  | d :: ds =>
    if !d.isDigit then none
    else if ds.all isDigitOr then some (decimal cs)
    else
      (sixtieths? (fun c => c.isDigit && c != '0') cs).map fun parts => do
        return (← parts.mapM decimal).foldl (fun n part => 60 * n + part) 0
  | [] => none

/-! ## Numbers -/

def isExponent : List Char → Bool
  | [] => true
  | e :: s :: ds => (e == 'e' || e == 'E') && (s == '+' || s == '-') && ds ≠ [] && ds.all Char.isDigit
  | _ => false

/-- The sum of the parts of a number in base sixty, the last first, each times its power of sixty. -/
def sumSixtieths (sum : Float) (power : Nat) : List Float → Except DocumentFault Float
  | [] => .ok sum
  | x :: xs =>
    let factor := Number.ofInt power
    if factor.isInf then .error .oversizedPower else sumSixtieths (sum + x * factor) (power * 60) xs

/-- A number in base sixty whose last part has a point. -/
def sixtiethFloat? (cs : List Char) : Option (Except DocumentFault Float) :=
  let whole := cs.takeWhile (· != '.')
  let places := (cs.dropWhile (· != '.')).drop 1
  if (cs.contains '.') && places.all isDigitOr then
    (sixtieths? Char.isDigit whole).map fun parts =>
      let last := (parts.getLast?.getD []) ++ '.' :: places
      let texts := (last :: parts.dropLast.reverse).map dropMarks
      sumSixtieths 0 1 (texts.map fun text => (Number.decimal? false text).getD 0)
  else none

/-- A number without its sign; without a digit in front of the point it takes no sign. -/
def unsigned? (signed : Bool) (cs : List Char) : Option Float :=
  let whole := cs.takeWhile isDigitOr
  match cs.dropWhile isDigitOr with
  | '.' :: rest =>
    let places := rest.takeWhile isDigitOr
    let wellFormed :=
      if whole = [] then !signed && places.head?.any Char.isDigit else whole.head?.any Char.isDigit
    if wellFormed && isExponent (rest.dropWhile isDigitOr) then
      Number.decimal? false (dropMarks cs)
    else none
  | _ => none

def float? (s : String) : Option (Except DocumentFault Float) :=
  let (negative, cs) := splitSign s.toList
  let signed := cs.length ≠ s.length
  let withSign (x : Float) : Float := if negative then -x else x
  if infinities.contains (String.ofList cs) then some (.ok (withSign Number.infinity))
  else if notNumbers.contains s then some (.ok Number.notANumber)
  else (((unsigned? signed cs).map .ok).or (sixtiethFloat? cs)).map (·.map withSign)

/-! ## Dates and times -/

/-- At least one digit and at most `most`, and what follows. -/
def number? (most : Nat) (cs : List Char) : Option (Nat × List Char) :=
  let ds := (cs.take most).takeWhile Char.isDigit
  if ds = [] then none else some (valueIn 10 ds, cs.drop ds.length)

def twoDigits? : List Char → Option (Nat × List Char)
  | t :: d :: cs => if t.isDigit && d.isDigit then some (valueIn 10 [t, d], cs) else none
  | _ => none

def after? (c : Char) : List Char → Option (List Char)
  | c' :: cs => if c' = c then some cs else none
  | [] => none

def dateParts? (cs : List Char) : Option (Nat × Nat × Nat × List Char) := do
  let (century, cs) ← twoDigits? cs
  let (year, cs) ← twoDigits? cs
  let (month, cs) ← number? 2 (← after? '-' cs)
  let (day, cs) ← number? 2 (← after? '-' cs)
  return (100 * century + year, month, day, cs)

/-- The mark between a date and a time of day: the letter T or blanks. -/
def afterDate? (cs : List Char) : Option (List Char) :=
  match cs with
  | 'T' :: cs | 't' :: cs => some cs
  | cs =>
    let rest := cs.dropWhile fun c => c == ' ' || c == '\t'
    if rest.length < cs.length then some rest else none

/-- The microseconds of a fraction, which are cut off behind six digits, and what follows. -/
def micros (cs : List Char) : Nat × List Char :=
  match cs with
  | '.' :: cs =>
    let ds := cs.takeWhile Char.isDigit
    (valueIn 10 ((ds ++ List.replicate 6 '0').take 6), cs.dropWhile Char.isDigit)
  | cs => (0, cs)

/-- An offset from universal time at the end of a text: none, the letter Z, or hours and minutes with a sign. -/
def offset? (cs : List Char) : Option (Option Int) := do
  if cs = [] then return none
  match cs.dropWhile fun c => c == ' ' || c == '\t' with
  | ['Z'] => return some 0
  | sign :: cs =>
    if sign ≠ '+' ∧ sign ≠ '-' then none
    let (hours, cs) ← number? 2 cs
    let minutes ← if cs = [] then some 0 else do
      let (minutes, rest) ← twoDigits? (← after? ':' cs)
      if rest = [] then some minutes else none
    let span : Int := hours * 60 + minutes
    return some (if sign = '-' then -span else span)
  | [] => none

/-- A date, which takes two digits for month and day, or a timestamp. -/
def time? (cs : List Char) : Option (Except CalendarFault Scalar) := do
  let (year, month, day, rest) ← dateParts? cs
  if rest = [] then
    if cs.length = 10 then some ((Date.make year month day).map .date) else none
  else
    let (hour, rest) ← number? 2 (← afterDate? rest)
    let (minute, rest) ← twoDigits? (← after? ':' rest)
    let (second, rest) ← twoDigits? (← after? ':' rest)
    let (micros, rest) := micros rest
    let offset ← offset? rest
    some ((Timestamp.make year month day hour minute second micros offset).map .timestamp)

/-! ## Values -/

def integer? (s : String) : Option (Except DocumentFault Int) :=
  let (negative, cs) := splitSign s.toList
  (natural? cs).map fun r => r.map fun n => if negative then -(n : Int) else n

/-- The value of a plain text. The signs for merging and for a default value stand for nothing by themselves. -/
def resolve (s : String) : Except DocumentFault Scalar :=
  if nulls.contains s then .ok .null
  else if trues.contains s then .ok (.bool true)
  else if falses.contains s then .ok (.bool false)
  else if s = "<<" || s = "=" then .error .malformed
  else
    match float? s, integer? s, time? s.toList with
    | some x, _, _ => x.map .float
    | none, some n, _ => n.map .int
    | none, none, some t => t.mapError .calendar
    | none, none, none => .ok (.text s)

end CombatPlan.Yaml
