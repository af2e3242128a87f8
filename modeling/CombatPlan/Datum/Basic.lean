import CombatPlan.Datum.Calendar
import CombatPlan.Number.Shortest
import CombatPlan.Text.Quoted

/-!
# Plain data

Values without a schema, as they come out of a document or a caller's hands. The keys of a record are
scalars, and a record holds no key twice: storing under a key that is there already keeps the key and its
place.
-/

namespace CombatPlan

inductive Scalar where
  | null
  | bool (b : Bool)
  | int (n : Int)
  | float (x : Float)
  | text (s : String)
  | date (d : Date)
  | timestamp (t : Timestamp)
  deriving DecidableEq

inductive Datum where
  | scalar (s : Scalar)
  | list (items : List Datum)
  | record (fields : List (Scalar × Datum))

instance : Inhabited Scalar := ⟨.null⟩
instance : Inhabited Datum := ⟨.scalar .null⟩

namespace Scalar

/-! ## Equality

Truth values, integers and floating-point numbers are equal when their values are; true counts as one. -/

def integer? : Scalar → Option Int
  | bool b => some (if b then 1 else 0)
  | int n => some n
  | _ => none

def floatIs (x : Float) (n : Int) : Bool :=
  match Number.exact x with
  | .finite negative m e =>
    let scaled : Int := (m <<< e.toNat : Nat)
    (if negative then -scaled else scaled) == n * (1 <<< (-e).toNat : Nat)
  | _ => false

def same : Scalar → Scalar → Bool
  | null, null => true
  | text s, text t => s == t
  | date d, date e => d == e
  | timestamp t, timestamp u => t.same u
  | float x, float y => x == y
  | float x, b => b.integer?.any (floatIs x)
  | a, float y => a.integer?.any (floatIs y)
  | a, b => match a.integer?, b.integer? with
    | some m, some n => m == n
    | _, _ => false

instance : BEq Scalar := ⟨same⟩

def isNotANumber : Scalar → Bool
  | float x => x.isNaN
  | _ => false

/-- Whether two keys stand for one field of a record: they are equal, or both are the value that equals nothing. -/
def sameKey (a b : Scalar) : Bool :=
  a == b || (a.isNotANumber && b.isNotANumber)

/-! ## Words for a scalar -/

/-- The bare name of a scalar's type. -/
def className : Scalar → String
  | null => "NoneType"
  | bool _ => "bool"
  | int _ => "int"
  | float _ => "float"
  | text _ => "str"
  | date _ => "date"
  | timestamp _ => "datetime"

/-- The name of a scalar's type behind that of the library it comes from, if it is not built in. -/
def typeName : Scalar → String
  | date _ => "datetime.date"
  | timestamp _ => "datetime.datetime"
  | s => s.className

def shown : Scalar → String
  | null => "None"
  | bool b => if b then "True" else "False"
  | int n => toString n
  | float x => Number.written x
  | text s => Text.quoted s
  | date d => "datetime.date(" ++ String.intercalate ", " (d.parts.map toString) ++ ")"
  | timestamp t =>
    let offset := t.offset?.map fun minutes => "tzinfo=" ++ Timestamp.shownOffset minutes
    "datetime.datetime(" ++ String.intercalate ", " (t.parts.map toString ++ offset.toList) ++ ")"

/-- A scalar as it stands within other text: a text as it is, a date and a time in digits. -/
def plainText : Scalar → String
  | text s => s
  | date d => d.iso
  | timestamp t => t.text
  | s => s.shown

/-- Zero, the empty text, the null and the false value count as absent. -/
def isEmpty : Scalar → Bool
  | null => true
  | bool b => !b
  | int n => n == 0
  | float x => x == 0
  | text s => s.isEmpty
  | date _ => false
  | timestamp _ => false

end Scalar

namespace Datum

@[match_pattern] abbrev null : Datum := .scalar .null
@[match_pattern] abbrev bool (b : Bool) : Datum := .scalar (.bool b)
@[match_pattern] abbrev int (n : Int) : Datum := .scalar (.int n)
@[match_pattern] abbrev float (x : Float) : Datum := .scalar (.float x)
@[match_pattern] abbrev text (s : String) : Datum := .scalar (.text s)

def className : Datum → String
  | scalar s => s.className
  | list _ => "list"
  | record _ => "dict"

def typeName : Datum → String
  | scalar s => s.typeName
  | list _ => "list"
  | record _ => "dict"

def isEmpty : Datum → Bool
  | scalar s => s.isEmpty
  | list items => items.isEmpty
  | record fields => fields.isEmpty

mutual

def shown : Datum → String
  | scalar s => s.shown
  | list items => "[" ++ String.intercalate ", " (shownItems items) ++ "]"
  | record fields => "\x7b" ++ String.intercalate ", " (shownFields fields) ++ "\x7d"

def shownItems : List Datum → List String
  | [] => []
  | d :: ds => d.shown :: shownItems ds

def shownFields : List (Scalar × Datum) → List String
  | [] => []
  | (k, d) :: fs => (k.shown ++ ": " ++ d.shown) :: shownFields fs

end

def find? (k : Scalar) : List (Scalar × Datum) → Option Datum
  | [] => none
  | (k', d) :: fs => if k'.sameKey k then some d else find? k fs

/-- Stores `d` under `k`: in place of what is stored under the same key, else at the end. -/
def insert {α : Type} (k : Scalar) (d : α) : List (Scalar × α) → List (Scalar × α)
  | [] => [(k, d)]
  | (k', d') :: fs => if k'.sameKey k then (k', d) :: fs else (k', d') :: insert k d fs

mutual

/-- Equality by value; records are equal if they hold the same values under the same keys, in any order. -/
def same : Datum → Datum → Bool
  | scalar a, scalar b => a == b
  | list as, list bs => sameItems as bs
  | record as, record bs => as.length == bs.length && sameFields as bs
  | _, _ => false

def sameItems : List Datum → List Datum → Bool
  | [], [] => true
  | a :: as, b :: bs => same a b && sameItems as bs
  | _, _ => false

def sameFields : List (Scalar × Datum) → List (Scalar × Datum) → Bool
  | [], _ => true
  | (k, a) :: as, bs => (match find? k bs with | some b => same a b | none => false) && sameFields as bs

end

instance : BEq Datum := ⟨same⟩

end Datum
end CombatPlan
