import CombatPlan.Datum.Basic

/-!
# Dates and times of day

The civil calendar of a count of seconds since the start of 1970, in UTC. Years are counted from the first
of March, so that a leap day comes last, and days from the first of March of year zero.
-/

namespace CombatPlan

structure Moment where
  year : Int
  month : Nat
  day : Nat
  hour : Nat
  minute : Nat
  second : Nat
  deriving DecidableEq, Repr

namespace Moment

/-- The number of days from the first of March of year zero to the start of 1970. -/
def epochDay : Int := 719468

def ofSeconds (seconds : Int) : Moment :=
  let days := seconds / 86400 + epochDay
  let clock := (seconds % 86400).toNat
  -- 400 years have 146097 days
  let era := days / 146097
  let day := (days % 146097).toNat
  let year := (day - day / 1460 + day / 36524 - day / 146096) / 365
  let dayOfYear := day - (365 * year + year / 4 - year / 100)
  let month := (5 * dayOfYear + 2) / 153
  { year := (year : Int) + era * 400 + (if month < 10 then 0 else 1)
    month := if month < 10 then month + 3 else month - 9
    day := dayOfYear - (153 * month + 2) / 5 + 1
    hour := clock / 3600
    minute := clock / 60 % 60
    second := clock % 60 }

/-- Whether a clock can show the moment: the year, and the years since 1900, have to fit into 32 bits with a
sign. -/
def isShowable (m : Moment) : Bool :=
  -2147483648 ≤ m.year - 1900 && m.year ≤ 2147483647

def timeOfDay (m : Moment) : String :=
  padded 2 m.hour ++ ":" ++ padded 2 m.minute ++ ":" ++ padded 2 m.second

def stamp (m : Moment) : String :=
  toString m.year ++ "-" ++ padded 2 m.month ++ "-" ++ padded 2 m.day ++ "T" ++ m.timeOfDay

end Moment
end CombatPlan
