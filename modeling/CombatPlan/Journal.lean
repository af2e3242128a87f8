import CombatPlan.Datum.Basic
import CombatPlan.Number.Places
import CombatPlan.Schema.Fault

/-!
# The journal

What is written down while intents are compiled and encounters assembled, and what can go wrong. A `Run`
keeps the events written before a failure.
-/

namespace CombatPlan

inductive Event where
  | escalated (name : String) (defense factor offense : Float)
  /-- No banish is at hand; without a name the order was the default one. -/
  | noBanish (name? : Option String)
  | assembled (wanderers programs intents : Nat) (boss : Bool)
  | prepended (what name : String)

inductive Severity where
  | debug
  | info
  | warning
  | error
  | critical
  deriving DecidableEq, Repr

def Severity.number : Severity → Nat
  | debug => 10
  | info => 20
  | warning => 30
  | error => 40
  | critical => 50

def Severity.word : Severity → String
  | debug => "DEBUG"
  | info => "INFO"
  | warning => "WARNING"
  | error => "ERROR"
  | critical => "CRITICAL"

namespace Event

def severity : Event → Severity
  | noBanish _ => .warning
  | _ => .debug

def source : Event → String
  | escalated .. => "autocombat.strategy.compiler"
  | noBanish _ => "autocombat.strategy.compiler"
  | assembled .. => "autocombat.strategy.builder"
  | prepended .. => "autocombat.strategy.builder"

def message : Event → String
  | escalated name defense factor offense =>
    "Escalating kill of " ++ name ++ " to kill_hard (defense " ++ Number.fixed 1 defense ++ " x "
      ++ Number.fixed 2 factor ++ " > offense " ++ Number.fixed 1 offense ++ ")"
  | noBanish name? =>
    "No banish available for " ++ name?.getD "default opponent" ++ "; banish degraded to abort"
  | assembled wanderers programs intents boss =>
    "Built combat program: " ++ toString wanderers ++ " wanderer, " ++ toString programs
      ++ " program, " ++ toString intents ++ " intent branches (boss="
      ++ (if boss then "True" else "False") ++ ")"
  | prepended what name => "Prepended " ++ what ++ " branch for " ++ name

def template : Event → String
  | escalated .. => "Escalating kill of %s to kill_hard (defense %.1f x %.2f > offense %.1f)"
  | noBanish _ => "No banish available for %s; banish degraded to abort"
  | assembled .. => "Built combat program: %d wanderer, %d program, %d intent branches (boss=%s)"
  | prepended .. => "Prepended %s branch for %s"

def arguments : Event → List Datum
  | escalated name defense factor offense => [.text name, .float defense, .float factor, .float offense]
  | noBanish name? => [.text (name?.getD "default opponent")]
  | assembled wanderers programs intents boss => [.int wanderers, .int programs, .int intents, .bool boss]
  | prepended what name => [.text what, .text name]

end Event

/-- Why a call fails. Plain data in place of a domain value is told by the name of its type. -/
inductive Failure where
  | invalid (r : Schema.Report)
  | notAnOrder (className : String)
  | lacks (typeName trait : String)
  | notAKey (typeName : String)
  | nobodyToBanish
  deriving DecidableEq, Repr

def Failure.message : Failure → String
  | invalid r => r.message
  | notAnOrder className => "Cannot compile " ++ className ++ " into a combat program"
  | lacks typeName trait => "'" ++ typeName ++ "' object has no attribute '" ++ trait ++ "'"
  | notAKey typeName => "unhashable type: '" ++ typeName ++ "'"
  | nobodyToBanish => "Must specify list of opponents to banish"

structure Run (α : Type) where
  events : List Event
  outcome : Except Failure α

namespace Run

variable {α β : Type}

def bind (x : Run α) (f : α → Run β) : Run β :=
  match x.outcome with
  | .ok a => ⟨x.events ++ (f a).events, (f a).outcome⟩
  | .error e => ⟨x.events, .error e⟩

instance : Monad Run where
  pure a := ⟨[], .ok a⟩
  bind := bind

def write (e : Event) : Run Unit :=
  ⟨[e], .ok ()⟩

def fail (e : Failure) : Run α :=
  ⟨[], .error e⟩

def ofCheck : Except Schema.Report α → Run α
  | .ok a => pure a
  | .error r => fail (.invalid r)

@[simp] theorem pure_eq (a : α) : (pure a : Run α) = ⟨[], .ok a⟩ := rfl

@[simp] theorem ok_bind (es : List Event) (a : α) (f : α → Run β) :
    ((⟨es, .ok a⟩ : Run α) >>= f) = ⟨es ++ (f a).events, (f a).outcome⟩ := rfl

@[simp] theorem error_bind (es : List Event) (e : Failure) (f : α → Run β) :
    ((⟨es, .error e⟩ : Run α) >>= f) = ⟨es, .error e⟩ := rfl

theorem bind_outcome (x : Run α) (f : α → Run β) :
    (x >>= f).outcome = x.outcome.bind fun a => (f a).outcome := by
  show (x.bind f).outcome = _
  unfold Run.bind
  cases x.outcome <;> rfl

theorem outcome_bind_eq_ok {x : Run α} {f : α → Run β} {b : β} :
    (x >>= f).outcome = .ok b ↔ ∃ a, x.outcome = .ok a ∧ (f a).outcome = .ok b := by
  rw [bind_outcome]
  cases x.outcome with
  | ok a =>
    constructor
    · exact fun h => ⟨a, rfl, h⟩
    · rintro ⟨_, ⟨⟩, h⟩
      exact h
  | error e =>
    constructor
    · exact fun h => nomatch h
    · exact fun ⟨_, ha, _⟩ => nomatch ha

theorem outcome_map_eq_ok {x : Run α} {f : α → β} {b : β} :
    (f <$> x).outcome = .ok b ↔ ∃ a, x.outcome = .ok a ∧ f a = b := by
  show (x >>= fun a => pure (f a)).outcome = .ok b ↔ _
  rw [outcome_bind_eq_ok]
  simp

theorem outcome_ofCheck_eq_ok {x : Except Schema.Report α} {a : α} :
    (ofCheck x).outcome = .ok a ↔ x = .ok a := by
  cases x <;> simp [ofCheck, fail]

end Run
end CombatPlan
