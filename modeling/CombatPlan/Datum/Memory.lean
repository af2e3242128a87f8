import CombatPlan.Datum.Basic

/-!
# Data in memory

Plain data as a reader leaves them. Every value has an address, and lists and records hold the addresses of their
parts: a part may be shared, and a list or a record may stand within itself. So data are viewed to a depth only.
-/

namespace CombatPlan

abbrev Address := Nat

inductive Cell where
  | scalar (s : Scalar)
  | list (items : List Address)
  | record (fields : List (Scalar × Address))
  deriving DecidableEq

instance : Inhabited Cell := ⟨.scalar .null⟩

def Datum.outline : Datum → Datum
  | scalar s => .scalar s
  | list _ => .list []
  | record _ => .record []

namespace Cell

def data (part : Address → Datum) : Cell → Datum
  | scalar s => .scalar s
  | list items => .list (items.map part)
  | record fields => .record (fields.map fun (k, a) => (k, part a))

def outline : Cell → Datum
  | scalar s => .scalar s
  | list _ => .list []
  | record _ => .record []

def isEmpty : Cell → Bool
  | scalar s => s.isEmpty
  | list items => items.isEmpty
  | record fields => fields.isEmpty

end Cell

structure Memory where
  cells : Array Cell
  root : Address
  deriving DecidableEq

namespace Memory

def cell (m : Memory) (a : Address) : Cell :=
  m.cells.getD a default

/-- The datum at an address. The lists and records at the given depth are shown without their parts. -/
def view (m : Memory) : (depth : Nat) → Address → Datum
  | 0, a => (m.cell a).outline
  | depth + 1, a => (m.cell a).data (m.view depth)

def nothing : Memory where
  cells := #[.record []]
  root := 0

/-- The memory itself, or an empty record in place of a value that counts as absent. -/
def orNothing (m : Memory) : Memory :=
  if (m.cell m.root).isEmpty then nothing else m

end Memory
end CombatPlan
