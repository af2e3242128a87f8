import CombatPlan.Datum.Basic
import CombatPlan.Number.Places
import CombatPlan.Number.Reading

/-!
# Message templates

A template has slots that begin with a percent sign: flags, a width, a precision, and a letter that says how
the next argument is shown. Two percent signs stand for one. There must be as many arguments as slots, unless the
only argument is a record: then slots may ask for its fields by name, in parentheses behind the percent sign.
-/

namespace CombatPlan.Template

/-- How a slot is filled: to the left, with a sign, with zeros, in the long form, and how wide. -/
structure Slot where
  left : Bool := false
  plus : Bool := false
  space : Bool := false
  zeros : Bool := false
  long : Bool := false
  width : Nat := 0
  precision? : Option Nat := none

/-! ## Padding -/

def Slot.pad (slot : Slot) (cs : List Char) : List Char :=
  let fill := List.replicate (slot.width - cs.length) ' '
  if slot.left then cs ++ fill else fill ++ cs

/-- A number with its sign in front, padded with zeros behind the sign if the slot wants it so. -/
def Slot.padNumber (slot : Slot) (negative : Bool) (lead body : List Char) : List Char :=
  let sign := if negative then ['-'] else if slot.plus then ['+'] else if slot.space then [' '] else []
  let lead := sign ++ lead
  if slot.zeros && !slot.left then
    lead ++ List.replicate (slot.width - lead.length - body.length) '0' ++ body
  else slot.pad (lead ++ body)

/-! ## Arguments -/

structure Arguments where
  /-- What the next slots take in turn. -/
  waiting : List Datum
  /-- The fields that slots may ask for by name. -/
  fields? : Option (List (Scalar × Datum)) := none

namespace Arguments

/-- A single record that is not empty offers its fields; otherwise the arguments are taken in turn. -/
def ofList (args : List Datum) : Arguments :=
  match args with
  | [.record (field :: fields)] => { waiting := args, fields? := some (field :: fields) }
  | args => { waiting := args }

def take? (args : Arguments) : Option (Datum × Arguments) :=
  match args.waiting with
  | arg :: waiting => some (arg, { args with waiting })
  | [] => none

/-- The field called `name` is what the next slot takes, in place of all that was waiting. -/
def choose? (args : Arguments) (name : String) : Option Arguments := do
  let arg ← Datum.find? (.text name) (← args.fields?)
  return { args with waiting := [arg] }

/-- Whether nothing is left over. Of a record, fields may be. -/
def isUsedUp (args : Arguments) : Bool :=
  args.waiting.isEmpty || args.fields?.isSome

end Arguments

/-- The text of an argument: a text as it is, any other value as messages show it. -/
def textOf : Datum → String
  | .scalar s => s.plainText
  | d => d.shown

/-- An argument as an integer; a number with a fraction loses it. -/
def integerOf? : Datum → Option Int
  | .int n => some n
  | .bool b => some (if b then 1 else 0)
  | .float x =>
    match Number.exact x with
    | .finite negative m e =>
      let n := (m <<< e.toNat) / (1 <<< (-e).toNat)
      some (if negative then -(n : Int) else n)
    | _ => none
  | _ => none

def wholeOf? : Datum → Option Int
  | .int n => some n
  | .bool b => some (if b then 1 else 0)
  | _ => none

/-- An argument as a number; too large an integer is none. -/
def floatOf? : Datum → Option Float
  | .float x => some x
  | .int n =>
    let x := Number.ofInt n
    if x.isInf then none else some x
  | .bool b => some (if b then 1 else 0)
  | _ => none

/-! ## Numbers -/

def digitsIn (slot : Slot) (base n : Nat) : List Char :=
  let ds := Nat.toDigits base n
  List.replicate (slot.precision?.getD 1 - ds.length) '0' ++ ds

/-- The first `count + 1` digits of a number and the power of ten of the first, rounded half to even. -/
def leadingDigits (count m : Nat) (e : Int) : List Char × Int :=
  if m = 0 then (List.replicate (count + 1) '0', 0)
  else
    let d := Number.Positive.magnitude ⟨m, e⟩
    let k := (count : Int) + 1 - d
    let n := Number.roundHalfEven ((m * Number.tenTo k.toNat) <<< e.toNat)
      (Number.tenTo (-k).toNat <<< (-e).toNat)
    let ds := Nat.toDigits 10 n
    if ds.length = count + 2 then (ds.take (count + 1), d) else (ds, d - 1)

def exponentText (e : Int) : List Char :=
  let size := Nat.toDigits 10 e.natAbs
  'e' :: (if e < 0 then '-' else '+') :: (if size.length < 2 then '0' :: size else size)

def pointAfterFirst (long : Bool) (ds : List Char) : List Char :=
  ds.take 1 ++ (if ds.length ≤ 1 && !long then [] else '.' :: ds.drop 1)

/-- The general form: positional unless the exponent is small or too large for the precision. -/
def general (long : Bool) (precision m : Nat) (e : Int) : List Char :=
  let count := if precision = 0 then 1 else precision
  let (ds, x) := leadingDigits (count - 1) m e
  let trimmed := if long then ds else (ds.reverse.dropWhile (· == '0')).reverse
  let trimmed := if trimmed = [] then ['0'] else trimmed
  if -4 ≤ x ∧ x < count then
    if x < 0 then '0' :: '.' :: List.replicate (-x - 1).toNat '0' ++ trimmed
    else
      let whole := trimmed.take (x.toNat + 1)
      let rest := trimmed.drop (x.toNat + 1)
      whole ++ List.replicate (x.toNat + 1 - whole.length) '0'
        ++ (if rest = [] && !long then [] else '.' :: rest)
  else pointAfterFirst long trimmed ++ exponentText x

def magnitude (slot : Slot) (letter : Char) (x : Float) : List Char :=
  let precision := slot.precision?.getD 6
  match Number.exact x with
  | .nan => ['n', 'a', 'n']
  | .infinite _ => ['i', 'n', 'f']
  | .finite _ m e =>
    if letter = 'f' then
      (Number.placesOf precision x).toList ++ (if slot.long && precision == 0 then ['.'] else [])
    else if letter = 'e' then
      let (ds, d) := leadingDigits precision m e
      pointAfterFirst slot.long ds ++ exponentText d
    else general slot.long precision m e

def floatText (slot : Slot) (letter : Char) (x : Float) : List Char :=
  slot.padNumber (Number.isNegative x) [] (magnitude slot letter x)

def baseText (slot : Slot) (base : Nat) (mark : Char) (n : Int) : List Char :=
  slot.padNumber (n < 0) (if slot.long then ['0', mark] else []) (digitsIn slot base n.natAbs)

/-! ## Filling -/

def fill? (slot : Slot) (letter : Char) (arg : Datum) : Option (List Char) :=
  let cutOff (cs : List Char) : List Char :=
    match slot.precision? with
    | some n => cs.take n
    | none => cs
  match letter with
  | 's' => some (slot.pad (cutOff (textOf arg).toList))
  | 'r' => some (slot.pad (cutOff arg.shown.toList))
  | 'a' => some (slot.pad (cutOff (Text.escapeBeyondAscii arg.shown)))
  | 'd' | 'i' | 'u' =>
    (integerOf? arg).map fun n => slot.padNumber (n < 0) [] (digitsIn slot 10 n.natAbs)
  | 'x' => (wholeOf? arg).map (baseText slot 16 'x')
  | 'X' => (wholeOf? arg).map fun n => (baseText slot 16 'x' n).map Char.toUpper
  | 'o' => (wholeOf? arg).map (baseText slot 8 'o')
  | 'f' | 'e' | 'g' => (floatOf? arg).map (floatText slot letter)
  | 'F' | 'E' | 'G' => (floatOf? arg).map fun x => (floatText slot letter.toLower x).map Char.toUpper
  | 'c' =>
    match arg with
    | .text s => if s.length = 1 then some (slot.pad s.toList) else none
    | arg => do
      let n ← wholeOf? arg
      if 0 ≤ n ∧ n.toNat.isValidChar then some (slot.pad [Char.ofNat n.toNat]) else none
  | _ => none

def readFlags (slot : Slot) : List Char → Slot × List Char
  | '-' :: cs => readFlags { slot with left := true } cs
  | '+' :: cs => readFlags { slot with plus := true } cs
  | ' ' :: cs => readFlags { slot with space := true } cs
  | '0' :: cs => readFlags { slot with zeros := true } cs
  | '#' :: cs => readFlags { slot with long := true } cs
  | cs => (slot, cs)

def countLimit : Nat := 2147483647

def readCount? (cs : List Char) (args : Arguments) : Option (Option Int × List Char × Arguments) := do
  let (count?, cs, args) ← match cs with
    | '*' :: cs => do
      let (arg, args) ← args.take?
      pure (some (← wholeOf? arg), cs, args)
    | cs =>
      let ds := cs.takeWhile Char.isDigit
      pure (if ds = [] then none else some (Number.natOf ds : Int), cs.dropWhile Char.isDigit, args)
  if count?.any (countLimit < ·.natAbs) then none else some (count?, cs, args)

/-- The name in front of its closing parenthesis, and what follows; `depth` counts those opened within. -/
def readName? (depth : Nat) : List Char → Option (List Char × List Char)
  | [] => none
  | ')' :: cs =>
    if depth = 0 then some ([], cs) else (readName? (depth - 1) cs).map fun (name, rest) => (')' :: name, rest)
  | c :: cs =>
    (readName? (if c = '(' then depth + 1 else depth) cs).map fun (name, rest) => (c :: name, rest)

def readChoice? (cs : List Char) (args : Arguments) : Option (List Char × Arguments) :=
  match cs with
  | '(' :: cs => do
    let (name, cs) ← readName? 0 cs
    return (cs, ← args.choose? (String.ofList name))
  | cs => some (cs, args)

def readSlot? (cs : List Char) (args : Arguments) : Option (Slot × Char × List Char × Arguments) := do
  let (cs, args) ← readChoice? cs args
  let (slot, cs) := readFlags {} cs
  let (width?, cs, args) ← readCount? cs args
  let width := width?.getD 0
  let slot := { slot with width := width.natAbs, left := slot.left || width < 0 }
  let (slot, cs, args) ←
    match cs with
    | '.' :: cs => do
      let (precision?, cs, args) ← readCount? cs args
      some ({ slot with precision? := some (precision?.getD 0).toNat }, cs, args)
    | cs => some (slot, cs, args)
  match cs with
  | 'l' :: c :: cs | 'h' :: c :: cs | 'L' :: c :: cs => some (slot, c, cs, args)
  | c :: cs => some (slot, c, cs, args)
  | [] => none

/-- The template with its slots filled. A slot is longer than nothing, so the length of the template bounds the
recursion. -/
def format? : (fuel : Nat) → List Char → Arguments → Option (List Char)
  | _, [], args => if args.isUsedUp then some [] else none
  | 0, _, _ => none
  | fuel + 1, '%' :: '%' :: cs, args => ('%' :: ·) <$> format? fuel cs args
  | fuel + 1, '%' :: cs, args => do
    let (slot, letter, cs, args) ← readSlot? cs args
    let (arg, args) ← args.take?
    return (← fill? slot letter arg) ++ (← format? fuel cs args)
  | fuel + 1, c :: cs, args => (c :: ·) <$> format? fuel cs args

/-- A message: the template as it stands if there are no arguments, else with its slots filled. -/
def message? (template : String) (args : List Datum) : Option String :=
  if args.isEmpty then some template
  else (format? template.length template.toList (.ofList args)).map String.ofList

end CombatPlan.Template
