import CombatPlan.Number.Exact

/-!
# Shortest decimals

The text of a number has the fewest digits that read back as the same number and, of those, the ones
nearest to it. On the grid of the decimals with `n` digits only the two neighbours of the value have to
be looked at: if any point of the grid reads back, one of them does.
-/

namespace CombatPlan.Number

structure Positive where
  significand : Nat
  exponent : Int

namespace Positive

/-- The numerator of `quarters · 2^exponent / 4` over the denominator that `unit k` uses. -/
def part (v : Positive) (quarters : Nat) (k : Int) : Nat :=
  (quarters * tenTo (-k).toNat) <<< (v.exponent - 2).toNat

def unit (v : Positive) (k : Int) : Nat :=
  tenTo k.toNat <<< (2 - v.exponent).toNat

/-- Half the distance to the next lower number, in quarters: a power of two is nearer to it. -/
def gapBelow (v : Positive) : Nat :=
  if v.significand = hiddenBit ∧ -1074 < v.exponent then 1 else 2

/-- Whether `c · 10^k` rounds to `v`; the two ends do if the significand is even. -/
def readsBack (v : Positive) (k : Int) (c : Nat) : Bool :=
  let x := c * v.unit k
  let low := v.part (4 * v.significand - v.gapBelow) k
  let high := v.part (4 * v.significand + 2) k
  if v.significand % 2 = 0 then low ≤ x && x ≤ high else low < x && x < high

/-- The multiple of `10^k` nearest to `v` among its two neighbours that read back; a tie goes to the even
one. -/
def onGrid? (v : Positive) (k : Int) : Option Nat :=
  let unit := v.unit k
  let value := v.part (4 * v.significand) k
  let below := value / unit
  let twice := 2 * (value % unit)
  match v.readsBack k below, v.readsBack k (below + 1) with
  | true, true =>
    some (if twice < unit then below else if unit < twice then below + 1 else below + below % 2)
  | true, false => some below
  | false, true => some (below + 1)
  | false, false => none

def magnitude (v : Positive) : Int :=
  let guess := ((v.significand.log2 : Int) + v.exponent) * 30103 / 100000
  if v.part (4 * v.significand) (guess + 1) < v.unit (guess + 1) then
    if v.part (4 * v.significand) guess < v.unit guess then guess else guess + 1
  else guess + 2

/-- The shortest decimal: the digits and the power of ten of the last one. -/
def shortest (v : Positive) : Nat × Int :=
  let d := v.magnitude
  let shortestWith (n : Nat) : Option (Nat × Int) := (v.onGrid? (d - (n + 1))).map (·, d - (n + 1))
  ((List.range 17).findSome? shortestWith).getD (0, 0)

end Positive

def dropZeros (ds : List Char) : List Char :=
  (ds.reverse.dropWhile (· == '0')).reverse

/-- The decimal point stands after the first `point` digits. It is written out if at least one of the first
sixteen places before it, or one of the first four after it, holds the leading digit; else an exponent
with a sign and two or more digits follows. -/
def layout (digits : List Char) (point : Int) : List Char :=
  if 0 < point ∧ point ≤ 16 then
    let whole := digits.take point.toNat
    let rest := digits.drop point.toNat
    whole ++ List.replicate (point.toNat - whole.length) '0' ++ '.'
      :: (if rest = [] then ['0'] else rest)
  else if -4 < point ∧ point ≤ 0 then
    '0' :: '.' :: List.replicate (-point).toNat '0' ++ digits
  else
    let e := point - 1
    let size := Nat.toDigits 10 e.natAbs
    let mantissa :=
      match digits with
      | [] => []
      | [d] => [d]
      | d :: ds => d :: '.' :: ds
    mantissa ++ 'e' :: (if e < 0 then '-' else '+')
      :: (if size.length < 2 then '0' :: size else size)

/-- The shortest text of a number, always with a point or an exponent. -/
def written (x : Float) : String :=
  match exact x with
  | .nan => "nan"
  | .infinite negative => if negative then "-inf" else "inf"
  | .finite negative m e =>
    let body :=
      if m = 0 then ['0', '.', '0']
      else
        let (c, k) := Positive.shortest ⟨m, e⟩
        let digits := Nat.toDigits 10 c
        layout (dropZeros digits) (digits.length + k)
    String.ofList (if negative then '-' :: body else body)

end CombatPlan.Number
