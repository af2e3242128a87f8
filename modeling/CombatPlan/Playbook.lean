import CombatPlan.Journal
import CombatPlan.Intent

/-!
# Playbooks

A playbook records what to do against each opponent, by an intent or by a program of its own, and what to do
by default. The two kinds of entry do not touch each other. A register keeps one entry per subject, in
the order in which the subjects were first written.
-/

namespace CombatPlan

abbrev Register (α : Type) := List (Subject × α)

namespace Register

variable {α : Type}

/-- Writes an entry; the subject that was written first is kept, and its place too. -/
def put (s : Subject) (a : α) : Register α → Register α
  | [] => [(s, a)]
  | (s', a') :: r => if s' == s then (s', a) :: r else (s', a') :: put s a r

def get? (s : Subject) : Register α → Option α
  | [] => none
  | (s', a) :: r => if s' == s then some a else get? s r

def subjects (r : Register α) : List Subject :=
  r.map (·.1)

def has (r : Register α) (s : Subject) : Bool :=
  (r.get? s).isSome

/-- Writes the same entry for each subject, until one that cannot be looked up by. -/
def putAll (a : α) : List Subject → Register α → Register α × Option Failure
  | [], r => (r, none)
  | s :: ss, r =>
    match s with
    | .opponent _ => putAll a ss (r.put s a)
    | .data d => if s.isKey then putAll a ss (r.put s a) else (r, some (.notAKey d.typeName))

end Register

structure Playbook where
  boss : Bool := false
  defaultOrder : Order := .intent .runAway
  defaultProgram : Option Program := none
  intents : Register Order := []
  programs : Register (Option Program) := []

/-- What can be written into a playbook. Without subjects, the default is meant. -/
inductive Playbook.Call where
  | order (order : Order) (subjects : List Subject)
  | banish (subjects : List Subject)
  | prescribe (program : Option Program) (subjects : List Subject)
  | useItem (item : Datum) (subjects : List Subject)

namespace Playbook

namespace Call

def kill (subjects : List Subject) : Call := .order (.intent .kill) subjects
def killHard (subjects : List Subject) : Call := .order (.intent .killHard) subjects
def flee (subjects : List Subject) : Call := .order (.intent .runAway) subjects
def abort (subjects : List Subject) : Call := .order (.intent .abort) subjects

end Call

def setOrder (b : Playbook) (order : Order) (subjects : List Subject) : Playbook × Option Failure :=
  if subjects.isEmpty then ({ b with defaultOrder := order }, none)
  else
    let (intents, failure?) := Register.putAll order subjects b.intents
    ({ b with intents }, failure?)

def setProgram (b : Playbook) (program : Option Program) (subjects : List Subject) :
    Playbook × Option Failure :=
  if subjects.isEmpty then ({ b with defaultProgram := program }, none)
  else
    let (programs, failure?) := Register.putAll program subjects b.programs
    ({ b with programs }, failure?)

/-- The playbook after a call, and why the call failed if it did. Banishing has no default: an opponent can be
banished only by name. -/
def call (b : Playbook) : Call → Playbook × Option Failure
  | .order order subjects => b.setOrder order subjects
  | .banish subjects =>
    if subjects.isEmpty then (b, some .nobodyToBanish)
    else b.setOrder (.intent .banish) subjects
  | .prescribe program subjects => b.setProgram program subjects
  | .useItem item subjects =>
    match Program.done.addStep (.use .item) item with
    | .ok p => b.setProgram (some p) subjects
    | .error r => (b, some (.invalid r))

/-- The playbook after calls in order. A call that fails does not keep back those behind it. -/
def callAll (b : Playbook) (calls : List Call) : Playbook :=
  calls.foldl (fun b c => (b.call c).1) b

def can (b : Playbook) (order : Order) : Bool :=
  order == b.defaultOrder || b.intents.any (·.2 == order)

def whom (b : Playbook) (order : Order) : List Subject :=
  (b.intents.filter (·.2 == order)).map (·.1)

end Playbook
end CombatPlan
