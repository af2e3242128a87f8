/-!
# Dates and times

Dates of the civil calendar, and timestamps: a date with a time of day, which may tell how far the clock is ahead of
universal time. Two timestamps that tell it are equal if they name the same instant; a timestamp that does not
tell it equals none that does.
-/

namespace CombatPlan

def padded (width n : Nat) : String :=
  let ds := Nat.toDigits 10 n
  String.ofList (List.replicate (width - ds.length) '0' ++ ds)

structure Date where
  year : Nat
  month : Nat
  day : Nat
  deriving DecidableEq, Repr

structure Timestamp where
  date : Date
  hour : Nat
  minute : Nat
  second : Nat
  micros : Nat := 0
  /-- How many minutes the clock is ahead of universal time. -/
  offset? : Option Int := none
  deriving DecidableEq, Repr

inductive CalendarFault where
  | year (n : Nat)
  | month
  | day
  | hour
  | minute
  | second
  /-- A clock that is ahead of or behind universal time by a day or more. -/
  | offset (minutes : Int)
  deriving DecidableEq, Repr

/-! ## Dates -/

namespace Date

def isLeap (year : Nat) : Bool :=
  year % 4 = 0 && (year % 100 ≠ 0 || year % 400 = 0)

def daysIn (year month : Nat) : Nat :=
  if month = 2 then (if isLeap year then 29 else 28)
  else if month = 4 || month = 6 || month = 9 || month = 11 then 30
  else 31

/-- The date, if the calendar has it; it has no year zero. -/
def make (year month day : Nat) : Except CalendarFault Date :=
  if year = 0 then .error (.year year)
  else if month = 0 || 12 < month then .error .month
  else if day = 0 || daysIn year month < day then .error .day
  else .ok ⟨year, month, day⟩

theorem make_eq_ok {year month day : Nat} {d : Date} (h : make year month day = .ok d) :
    d = ⟨year, month, day⟩ ∧ year ≠ 0 ∧ (1 ≤ month ∧ month ≤ 12) ∧ 1 ≤ day ∧ day ≤ daysIn year month := by
  unfold make at h
  split at h
  · cases h
  split at h
  · cases h
  split at h
  · cases h
  next hy hm hd =>
    cases h
    simp only [Bool.or_eq_true, decide_eq_true_eq, not_or] at hm hd
    exact ⟨rfl, hy, by omega, by omega, by omega⟩

def iso (d : Date) : String :=
  padded 4 d.year ++ "-" ++ padded 2 d.month ++ "-" ++ padded 2 d.day

def parts (d : Date) : List Nat :=
  [d.year, d.month, d.day]

/-- The number of days since the first of March of year zero. Years are counted from March, so that a leap day
comes last. -/
def dayNumber (d : Date) : Int :=
  let year : Int := (d.year : Int) - (if d.month < 3 then 1 else 0)
  let month := (d.month + 9) % 12
  365 * year + year / 4 - year / 100 + year / 400 + (((153 * month + 2) / 5 + d.day : Nat) : Int) - 1

end Date

/-! ## Timestamps -/

/-- A span of whole minutes as it stands in a message: days of either sign, then seconds. -/
def shownSpan (minutes : Int) : String :=
  let days := minutes / 1440
  let seconds := minutes % 1440 * 60
  let parts := (if days = 0 then [] else ["days=" ++ toString days])
    ++ (if seconds = 0 then [] else ["seconds=" ++ toString seconds])
  "datetime.timedelta(" ++ (if parts = [] then "0" else String.intercalate ", " parts) ++ ")"

def CalendarFault.message : CalendarFault → String
  | year n => "year " ++ toString n ++ " is out of range"
  | month => "month must be in 1..12"
  | day => "day is out of range for month"
  | hour => "hour must be in 0..23"
  | minute => "minute must be in 0..59"
  | second => "second must be in 0..59"
  | offset minutes =>
    "offset must be a timedelta strictly between -timedelta(hours=24) and timedelta(hours=24), not "
      ++ shownSpan minutes ++ "."

namespace Timestamp

def checkOffset (minutes : Int) : Except CalendarFault Unit :=
  if minutes.natAbs < 1440 then .ok () else .error (.offset minutes)

/-- The timestamp, if there is one; its date is looked at before its time of day. -/
def make (year month day hour minute second micros : Nat) (offset? : Option Int) :
    Except CalendarFault Timestamp := do
  offset?.forM checkOffset
  let date ← Date.make year month day
  if 23 < hour then throw .hour
  if 59 < minute then throw .minute
  if 59 < second then throw .second
  return { date, hour, minute, second, micros, offset? }

/-- The microseconds since the first of March of year zero, on the clock of the timestamp. -/
def clockMicros (t : Timestamp) : Int :=
  (t.date.dayNumber * 86400 + ((t.hour * 60 + t.minute) * 60 + t.second : Nat)) * 1000000 + t.micros

/-- Equality as instants; without offsets, as readings of a clock. -/
def same (t u : Timestamp) : Bool :=
  match t.offset?, u.offset? with
  | none, none => t == u
  | some m, some n => t.clockMicros - m * 60000000 == u.clockMicros - n * 60000000
  | _, _ => false

theorem same_refl (t : Timestamp) : t.same t = true := by
  unfold same
  cases t.offset? <;> simp

theorem same_comm (t u : Timestamp) : t.same u = u.same t := by
  unfold same
  cases t.offset? <;> cases u.offset?
  · exact BEq.comm
  · rfl
  · rfl
  · exact BEq.comm

def offsetText (minutes : Int) : String :=
  (if minutes < 0 then "-" else "+")
    ++ padded 2 (minutes.natAbs / 60) ++ ":" ++ padded 2 (minutes.natAbs % 60)

def text (t : Timestamp) : String :=
  t.date.iso ++ " " ++ padded 2 t.hour ++ ":" ++ padded 2 t.minute ++ ":" ++ padded 2 t.second
    ++ (if t.micros = 0 then "" else "." ++ padded 6 t.micros)
    ++ (t.offset?.map offsetText).getD ""

/-- The parts of a timestamp as they stand in a message: zeros at the end are left out. -/
def parts (t : Timestamp) : List Nat :=
  t.date.parts ++ [t.hour, t.minute]
    ++ (if t.micros ≠ 0 then [t.second, t.micros] else if t.second ≠ 0 then [t.second] else [])

def shownOffset (minutes : Int) : String :=
  if minutes = 0 then "datetime.timezone.utc" else "datetime.timezone(" ++ shownSpan minutes ++ ")"

end Timestamp
end CombatPlan
