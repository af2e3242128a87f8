import CombatPlan.Settings.Environment

/-!
# Loading settings

Settings are read from a file, overridden from the environment and then checked. A file without a value gives the
defaults. What the file holds is told by a reader, which may fail in ways of its own.
-/

namespace CombatPlan

inductive LoadFault (ε : Type) where
  | missingFile (path : String)
  | document (e : ε)
  | override (f : OverrideFault)
  | invalid (r : Schema.Report)
  deriving DecidableEq, Repr

def LoadFault.message {ε : Type} (documentMessage : ε → String) : LoadFault ε → String
  | missingFile path => "Config file not found: " ++ path
  | document e => documentMessage e
  | override f => f.message
  | invalid r => r.message

/-- A path without empty parts and without single dots. Two slashes in front stay two, more become one. -/
def normalPath (path : String) : String :=
  let cs := path.toList
  let slashes := (cs.takeWhile (· == '/')).length
  let root := if slashes = 0 then "" else if slashes = 2 then "//" else "/"
  let parts := (Text.cut '/' cs).filter fun part => part ≠ [] && part ≠ ['.']
  let body := String.ofList (Text.glue '/' parts)
  if root = "" && body = "" then "." else root ++ body

structure Disk where
  /-- Where the program itself is kept. -/
  home : String
  file? : (path : String) → Option String

/-- Where settings are looked for: at the given path, or where the program keeps its own. -/
def Disk.settingsPath (disk : Disk) : Option String → String
  | some path => normalPath path
  | none => disk.home ++ "/configs/default.yaml"

namespace Settings

section
variable {ε : Type}

def ofOverridden (d : Except OverrideFault Datum) : Except (LoadFault ε) Settings := do
  ((rule (← d.mapError .override)).report "Config").mapError .invalid

def ofData (env : Environment) (d : Datum) : Except (LoadFault ε) Settings :=
  ofOverridden (env.override "" (if d.isEmpty then .record [] else d))

/-- The settings in a memory, whose leaves are seen to `depth`. -/
def ofMemory (depth limit : Nat) (env : Environment) (m : Memory) : Except (LoadFault ε) Settings :=
  ofOverridden (env.overrideMemory depth limit m.orNothing)

/-- Loads settings, with calls nested no more than `limit` times where they are overridden. -/
def load (safeLoad : String → Except ε Memory) (limit : Nat) (disk : Disk) (env : Environment)
    (path? : Option String) : Except (LoadFault ε) Settings := do
  let path := disk.settingsPath path?
  match disk.file? path with
  | none => .error (.missingFile path)
  | some document => ofMemory reach limit env (← (safeLoad document).mapError .document)

end

end Settings
end CombatPlan
