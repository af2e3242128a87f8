import CombatPlan.Number.Exact

/-!
# Fixed places

A number with a given count of digits after the point, rounded from its exact value, a half to the even
neighbour.
-/

namespace CombatPlan.Number

def pointed (places n : Nat) : List Char :=
  let ds := Nat.toDigits 10 n
  let ds := List.replicate (places + 1 - ds.length) '0' ++ ds
  let whole := ds.take (ds.length - places)
  if places = 0 then whole else whole ++ '.' :: ds.drop (ds.length - places)

def placesOf (places : Nat) (x : Float) : String :=
  match exact x with
  | .nan => "nan"
  | .infinite _ => "inf"
  | .finite _ m e =>
    String.ofList
      (pointed places (roundHalfEven ((m * tenTo places) <<< e.toNat) (1 <<< (-e).toNat)))

/-- Whether a number carries a minus sign; the negative zero does. -/
def isNegative (x : Float) : Bool :=
  match exact x with
  | .nan => false
  | .infinite negative => negative
  | .finite negative _ _ => negative

def fixed (places : Nat) (x : Float) : String :=
  if isNegative x then "-" ++ placesOf places x else placesOf places x

end CombatPlan.Number
