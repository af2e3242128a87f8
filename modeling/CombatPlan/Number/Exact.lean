/-!
# Exact values of floating-point numbers

Every finite `Float` is `±m · 2^e` for a natural `m`. `exact` gives the parts, and `nearest` goes back from
a quotient of naturals: it rounds to the nearest number, a tie to the even significand.
-/

namespace CombatPlan.Number

/-- A floating-point number taken apart: `finite n m e` is `m · 2^e`, negative if `n`. -/
inductive Exact where
  | nan
  | infinite (negative : Bool)
  | finite (negative : Bool) (significand : Nat) (exponent : Int)
  deriving DecidableEq, Repr

/-- The leading bit of a significand of full length, `2^52`. -/
def hiddenBit : Nat := 1 <<< 52

def signBit : Nat := 1 <<< 63

def exact (x : Float) : Exact :=
  let bits := x.toBits.toNat
  let negative := bits / signBit == 1
  let biased : Nat := bits / hiddenBit % 2048
  let fraction := bits % hiddenBit
  if biased = 2047 then if fraction = 0 then .infinite negative else .nan
  else if biased = 0 then .finite negative fraction (-1074)
  else .finite negative (hiddenBit + fraction) ((biased : Int) - 1075)

def tenTo (n : Nat) : Nat := Nat.pow 10 n

/-- The quotient rounded to the nearest natural, a half to the even neighbour. -/
def roundHalfEven (num den : Nat) : Nat :=
  let q := num / den
  let twice := 2 * (num % den)
  if twice < den then q else if den < twice then q + 1 else q + q % 2

/-- `num / den` in units of `2^e`, again as a quotient. -/
def inUnits (num den : Nat) (e : Int) : Nat × Nat :=
  (num <<< (-e).toNat, den <<< e.toNat)

/-- The least exponent that leaves a significand below `2^53`. -/
def unitExponent (num den : Nat) : Int :=
  let e : Int := max (-1074) ((num.log2 : Int) - den.log2 - 53)
  let (n, d) := inUnits num den e
  if n / d < 2 * hiddenBit then e else e + 1

/-- The code of the positive number nearest to `num / den`, or that of infinity. Counting up through
the codes crosses from one exponent to the next, so a significand rounded up to `2^53` needs no care. -/
def nearestCode (num den : Nat) : Nat :=
  if num = 0 then 0
  else
    let e := unitExponent num den
    let (n, d) := inUnits num den e
    min ((e + 1074).toNat * hiddenBit + roundHalfEven n d) (2047 * hiddenBit)

def nearest (negative : Bool) (num den : Nat) : Float :=
  let x := Float.ofBits (UInt64.ofNat (nearestCode num den))
  if negative then -x else x

/-- The number nearest to an integer; too large an integer becomes infinite. -/
def ofInt (n : Int) : Float :=
  nearest (n < 0) n.natAbs 1

def infinity : Float := Float.ofBits 0x7FF0000000000000

def notANumber : Float := Float.ofBits 0x7FF8000000000000

/-- The number nearest to `digits · 10^exponent`. Beyond the range of the format the powers of ten are not
worked out. -/
def ofDecimal (negative : Bool) (digits : Nat) (exponent : Int) : Float :=
  let size : Int := (Nat.toDigits 10 digits).length + exponent
  if digits = 0 || size < -400 then nearest negative 0 1
  else if 400 < size then if negative then -infinity else infinity
  else nearest negative (digits * tenTo exponent.toNat) (tenTo (-exponent).toNat)

end CombatPlan.Number
