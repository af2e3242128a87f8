import CombatPlan.Datum.Memory
import CombatPlan.Number.Reading
import CombatPlan.Settings
import CombatPlan.Text.Capital
import CombatPlan.Text.Split

/-!
# Overrides from the environment

Every leaf of a settings document has a variable: the common prefix, then the keys that lead to the leaf in
capitals, joined by two underscores. A variable that is set replaces its leaf by a value of the same
type. Only leaves that are there can be replaced, and of the lists only those that hold nothing but texts.
-/

namespace CombatPlan

abbrev Environment := List (String × String)

def Environment.get? (env : Environment) (name : String) : Option String :=
  env.lookup name

inductive OverrideFault where
  | unreadableInteger (text : String)
  /-- A text for an integer with too many digits. -/
  | oversizedInteger (digits : Nat)
  | unreadableNumber (text : String)
  /-- A key on the path to a leaf that is an integer with too many digits to be written. -/
  | oversizedKey
  /-- Something other than a record of named settings, told by its type and what it fails to offer. -/
  | lacks (typeName trait : String)
  /-- Too many calls within calls; whether the last of them goes to something built in. -/
  | tooDeep (builtIn : Bool)
  deriving DecidableEq, Repr

def OverrideFault.message : OverrideFault → String
  | unreadableInteger s =>
    "invalid literal for int() with base 10: " ++ String.ofList ((Text.quoted s).toList.take 200)
  | oversizedInteger n => Number.oversizedMessage n
  | oversizedKey => Number.limitWords ++ Number.limitAdvice
  | unreadableNumber s => "could not convert string to float: " ++ Text.quoted s
  | lacks typeName trait => "'" ++ typeName ++ "' object has no attribute '" ++ trait ++ "'"
  | tooDeep builtIn =>
    "maximum recursion depth exceeded" ++ (if builtIn then " while calling a Python object" else "")

namespace Environment

/-- A part of a path as it stands in the names of variables. -/
def word (part : Scalar) : Except OverrideFault String :=
  match part with
  | .int n =>
    if Number.digitLimit < (Nat.toDigits 10 n.natAbs).length then .error .oversizedKey
    else .ok part.plainText
  | part => .ok part.plainText

/-- The path to a field: an empty path is forgotten. -/
def path (above key : Scalar) : Except OverrideFault Scalar := do
  if above.isEmpty then return key else return .text ((← word above) ++ "__" ++ (← word key))

theorem path_text (above key : String) :
    path (.text above) (.text key)
      = .ok (.text (if above.isEmpty then key else above ++ "__" ++ key)) := by
  by_cases h : above.isEmpty
  · simp [path, Scalar.isEmpty, h]
    rfl
  · simp [path, word, Scalar.isEmpty, Scalar.plainText, h]
    rfl

/-- The variable for a path; a path that is no text has none. -/
def variableName : Scalar → Except OverrideFault String
  | .text s => .ok ("AUTOCOMBAT_" ++ Text.capitals s)
  | s => .error (.lacks s.typeName "upper")

def parts (s : String) : List String :=
  ((Text.cut ',' s.toList).map (Text.trimBy Text.isBlank)).filterMap fun cs =>
    if cs = [] then none else some (String.ofList cs)

/-- Whether a text stands for true. No character outside ASCII has a small form among these letters. -/
def isTrue (s : String) : Bool :=
  let word := String.ofList (s.toList.map Char.toLower)
  word == "true" || word == "1" || word == "yes"

def isText : Datum → Bool
  | .text _ => true
  | _ => false

def convert (leaf : Datum) (s : String) : Except OverrideFault Datum :=
  match leaf with
  | .bool _ => .ok (.bool (isTrue s))
  | .int _ =>
    match Number.settingInt s with
    | .ok n => .ok (.int n)
    | .error .unreadable => .error (.unreadableInteger s)
    | .error (.oversized digits) => .error (.oversizedInteger digits)
  | .float _ =>
    match Number.settingFloat? s with
    | some x => .ok (.float x)
    | none => .error (.unreadableNumber s)
  | .list items => .ok (if items.all isText then .list ((parts s).map .text) else leaf)
  | _ => .ok (.text s)

def overrideLeaf (env : Environment) (p : Scalar) (leaf : Datum) : Except OverrideFault Datum := do
  match env.get? (← variableName p) with
  | some s => convert leaf s
  | none => return leaf

mutual

def overrideFields (env : Environment) (above : Scalar) :
    List (Scalar × Datum) → Except OverrideFault (List (Scalar × Datum))
  | [] => .ok []
  | (k, d) :: fields => do
    let d ← overrideValue env (← path above k) d
    let fields ← overrideFields env above fields
    return (k, d) :: fields

def overrideValue (env : Environment) (p : Scalar) : Datum → Except OverrideFault Datum
  | .record fields => .record <$> overrideFields env p fields
  | .list items => overrideLeaf env p (.list items)
  | .scalar s => overrideLeaf env p (.scalar s)

end

/-- A settings document after its overrides; it has to be a record. -/
def override (env : Environment) (above : String) : Datum → Except OverrideFault Datum
  | .record fields => .record <$> overrideFields env (.text above) fields
  | .list items => .error (.lacks (Datum.list items).typeName "items")
  | .scalar s => .error (.lacks s.typeName "copy")

/-! ## Data in memory

Records in memory may be nested deeper than calls can follow, or without end. `room` is the number of further calls
within the present one. -/

/-- How many calls within calls it takes to copy a record, and to look up the variable of anything else. -/
def calls : Cell → Nat
  | .record _ => 1
  | _ => 3

/-- The value at an address after its overrides. Leaves are taken as they are seen to `depth`. -/
def overrideAt (env : Environment) (m : Memory) (depth : Nat) (room : Nat) (p : Scalar) (a : Address) :
    Except OverrideFault Datum :=
  match room, m.cell a with
  | 0, .record _ => .error (.tooDeep true)
  | room + 1, .record fields => do
    let fields ← fields.mapM fun (k, a) => do
      let d ← overrideAt env m depth room (← path p k) a
      return (k, d)
    return .record fields
  | room, cell => do
    let _ ← variableName p
    if room < calls cell then .error (.tooDeep (room = 0)) else overrideLeaf env p (m.view depth a)

/-- A memory after its overrides, within calls that may be nested `limit` times. -/
def overrideMemory (env : Environment) (depth limit : Nat) (m : Memory) : Except OverrideFault Datum :=
  match m.cell m.root with
  | .record _ => env.overrideAt m depth limit (.text "") m.root
  | cell => env.override "" cell.outline

end Environment
end CombatPlan
