/-!
# Faults of plain data

A value is checked against a schema as a whole: every fault is found, each with the path that leads to it.
`Checked` collects faults from left to right; a result is valid only if all its parts are.
-/

namespace CombatPlan.Schema

inductive Bound where
  | above (n : Nat)
  | atLeast (n : Nat)
  | atMost (n : Nat)
  deriving DecidableEq, Repr

inductive Cause where
  | notRecord (model : String)
  | missing
  | notText
  | tooShort
  | mismatch (pattern : String)
  | notChoice (choices : List String)
  | notNumber
  | unreadableNumber
  | notInteger
  | unreadableInteger
  | fractional
  | notFinite
  | oversizedInteger
  | outside (bound : Bound)
  | notList
  | notTuple
  | refused (reason : String)
  deriving DecidableEq, Repr

inductive Place where
  | field (name : String)
  | item (index : Nat)
  deriving DecidableEq, Repr

structure Fault where
  path : List Place
  cause : Cause
  deriving DecidableEq, Repr

def Fault.under (p : Place) (f : Fault) : Fault :=
  { f with path := p :: f.path }

def listChoices : List String → String
  | [] => ""
  | [a] => "'" ++ a ++ "'"
  | [a, b] => "'" ++ a ++ "' or '" ++ b ++ "'"
  | a :: rest => "'" ++ a ++ "', " ++ listChoices rest

def Bound.tag : Bound → String
  | above _ => "greater_than"
  | atLeast _ => "greater_than_equal"
  | atMost _ => "less_than_equal"

def Bound.words : Bound → String
  | above n => "greater than " ++ toString n
  | atLeast n => "greater than or equal to " ++ toString n
  | atMost n => "less than or equal to " ++ toString n

namespace Cause

def tag : Cause → String
  | notRecord _ => "model_type"
  | missing => "missing"
  | notText => "string_type"
  | tooShort => "string_too_short"
  | mismatch _ => "string_pattern_mismatch"
  | notChoice _ => "enum"
  | notNumber => "float_type"
  | unreadableNumber => "float_parsing"
  | notInteger => "int_type"
  | unreadableInteger => "int_parsing"
  | fractional => "int_from_float"
  | notFinite => "finite_number"
  | oversizedInteger => "int_parsing_size"
  | outside bound => bound.tag
  | notList => "list_type"
  | notTuple => "tuple_type"
  | refused _ => "value_error"

def message : Cause → String
  | notRecord model => "Input should be a valid dictionary or instance of " ++ model
  | missing => "Field required"
  | notText => "Input should be a valid string"
  | tooShort => "String should have at least 1 character"
  | mismatch pattern => "String should match pattern '" ++ pattern ++ "'"
  | notChoice choices => "Input should be " ++ listChoices choices
  | notNumber => "Input should be a valid number"
  | unreadableNumber => "Input should be a valid number, unable to parse string as a number"
  | notInteger => "Input should be a valid integer"
  | unreadableInteger => "Input should be a valid integer, unable to parse string as an integer"
  | fractional => "Input should be a valid integer, got a number with a fractional part"
  | notFinite => "Input should be a finite number"
  | oversizedInteger => "Unable to parse input string as an integer, exceeded maximum size"
  | outside bound => "Input should be " ++ bound.words
  | notList => "Input should be a valid list"
  | notTuple => "Input should be a valid tuple"
  | refused reason => "Value error, " ++ reason

end Cause

/-- All faults of one value, with the model that it was checked against. -/
structure Report where
  model : String
  faults : List Fault
  deriving DecidableEq, Repr

def Report.message (r : Report) : String :=
  toString r.faults.length ++ (if r.faults.length = 1 then " validation error for " else
    " validation errors for ") ++ r.model

/-- A value that passed its checks, or the faults that were found. -/
inductive Checked (α : Type) where
  | valid (a : α)
  | faulty (faults : List Fault)

namespace Checked

variable {α β : Type}

def fail (cause : Cause) : Checked α := .faulty [⟨[], cause⟩]

def map (f : α → β) : Checked α → Checked β
  | valid a => valid (f a)
  | faulty fs => faulty fs

/-- Both sides are checked, and the faults of both are kept. -/
def seq : Checked (α → β) → Checked α → Checked β
  | valid f, valid a => valid (f a)
  | valid _, faulty fs => faulty fs
  | faulty fs, valid _ => faulty fs
  | faulty fs, faulty gs => faulty (fs ++ gs)

instance : Applicative Checked where
  pure := valid
  map := map
  seq f a := seq f (a ())

def andThen : Checked α → (α → Checked β) → Checked β
  | valid a, f => f a
  | faulty fs, _ => faulty fs

def under (p : Place) : Checked α → Checked α
  | valid a => valid a
  | faulty fs => faulty (fs.map (·.under p))

def report (model : String) : Checked α → Except Report α
  | valid a => .ok a
  | faulty fs => .error ⟨model, fs⟩

@[simp] theorem pure_eq (a : α) : (pure a : Checked α) = valid a := rfl

@[simp] theorem map_valid (f : α → β) (a : α) : (f <$> valid a : Checked β) = valid (f a) := rfl

@[simp] theorem map_faulty (f : α → β) (fs : List Fault) :
    (f <$> (faulty fs : Checked α)) = faulty fs := rfl

@[simp] theorem seq_valid (f : α → β) (a : α) : (valid f <*> valid a) = valid (f a) := rfl

theorem map_eq_valid {f : α → β} {x : Checked α} {b : β} :
    f <$> x = valid b ↔ ∃ a, x = valid a ∧ f a = b := by
  cases x <;> simp

theorem seq_eq_valid {f : Checked (α → β)} {x : Checked α} {b : β} :
    f <*> x = valid b ↔ ∃ g a, f = valid g ∧ x = valid a ∧ g a = b := by
  show seq f x = valid b ↔ _
  cases f <;> cases x <;> simp [seq]

theorem andThen_eq_valid {x : Checked α} {f : α → Checked β} {b : β} :
    x.andThen f = valid b ↔ ∃ a, x = valid a ∧ f a = valid b := by
  cases x <;> simp [andThen]

theorem under_eq_valid {p : Place} {x : Checked α} {a : α} : x.under p = valid a ↔ x = valid a := by
  cases x <;> simp [under]

theorem report_eq_ok {model : String} {x : Checked α} {a : α} : x.report model = .ok a ↔ x = valid a := by
  cases x <;> simp [report]

end Checked
end CombatPlan.Schema
