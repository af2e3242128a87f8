import CombatPlan.Schema.Rule

/-!
# Steps

One action of a combat program. A step that uses a skill or an item names it; an attempt is passed over in
silence when the skill or item cannot be used. Control never goes on after `again`, which starts the
program over, or `abort`, which hands control back.
-/

namespace CombatPlan

inductive Tool where
  | skill
  | item
  deriving DecidableEq, Repr

inductive Step where
  | use (tool : Tool) (name : String)
  | attempt (tool : Tool) (name : String)
  | attack
  | runaway
  | again
  | abort
  deriving DecidableEq, Repr

namespace Step

inductive Kind where
  | use (tool : Tool)
  | attempt (tool : Tool)
  | attack
  | runaway
  | again
  | abort
  deriving DecidableEq, Repr

def Kind.word : Kind → String
  | use .skill => "skill"
  | attempt .skill => "try_skill"
  | use .item => "item"
  | attempt .item => "try_item"
  | attack => "attack"
  | runaway => "runaway"
  | again => "repeat"
  | abort => "abort"

def Kind.all : List Kind :=
  [use .skill, attempt .skill, use .item, attempt .item, attack, runaway, again, abort]

def Kind.isNamed : Kind → Bool
  | use _ => true
  | attempt _ => true
  | _ => false

def kind : Step → Kind
  | use tool _ => .use tool
  | attempt tool _ => .attempt tool
  | attack => .attack
  | runaway => .runaway
  | again => .again
  | abort => .abort

def name? : Step → Option String
  | use _ name => some name
  | attempt _ name => some name
  | _ => none

def isBestEffort : Step → Bool
  | attempt _ _ => true
  | _ => false

def isTerminal : Step → Bool
  | again => true
  | abort => true
  | _ => false

/-- A step that names a skill or an item gives it a name. -/
def Valid (s : Step) : Prop :=
  s.name? ≠ some ""

instance (s : Step) : Decidable s.Valid := inferInstanceAs (Decidable (_ ≠ _))

/-! ## Plain form -/

open Schema

/-- The step of a kind: the kinds that use something need a name, the others take none. -/
def ofKind : Kind → Option String → Checked Step
  | .use tool, some name => named (.use tool) (.use tool) name
  | .attempt tool, some name => named (.attempt tool) (.attempt tool) name
  | .use tool, none => unnamed (.use tool)
  | .attempt tool, none => unnamed (.attempt tool)
  | .attack, none => .valid .attack
  | .runaway, none => .valid .runaway
  | .again, none => .valid .again
  | .abort, none => .valid .abort
  | kind, some _ => .fail (.refused (kind.word ++ " step does not take a name"))
where
  unnamed (kind : Kind) : Checked Step :=
    .fail (.refused (kind.word ++ " step requires a name"))
  named (kind : Kind) (make : String → Step) (name : String) : Checked Step :=
    if name = "" then unnamed kind else .valid (make name)

def kindRule : Rule Kind :=
  Rule.choice (Kind.all.map fun k => (k.word, k))

def rule : Rule Step :=
  Rule.model "Step" fun fields =>
    (Prod.mk <$> required "type" kindRule fields
      <*> optional "name" none (Rule.nullable Rule.text) fields).andThen fun p => ofKind p.1 p.2

def make (kind : Kind) (name : Datum) : Except Report Step :=
  ((Rule.nullable Rule.text name).under (.field "name") |>.andThen (ofKind kind)).report "Step"

theorem make_use_text (tool : Tool) {name : String} (h : name ≠ "") :
    make (.use tool) (.text name) = .ok (.use tool name) := by
  show (ofKind.named (.use tool) (use tool) name).report "Step" = _
  rw [ofKind.named, if_neg h, Checked.report]

theorem make_attempt_text (tool : Tool) {name : String} (h : name ≠ "") :
    make (.attempt tool) (.text name) = .ok (.attempt tool name) := by
  show (ofKind.named (.attempt tool) (attempt tool) name).report "Step" = _
  rw [ofKind.named, if_neg h, Checked.report]

theorem make_use_eq_ok {tool : Tool} {d : Datum} {s : Step} :
    make (.use tool) d = .ok s ↔ ∃ name, d = .text name ∧ name ≠ "" ∧ s = .use tool name := by
  constructor
  · intro h
    cases d with
    | scalar v =>
      cases v with
      | text name =>
        by_cases hn : name = ""
        · subst hn; cases h
        · rw [make_use_text tool hn] at h
          exact ⟨name, rfl, hn, (Except.ok.inj h).symm⟩
      | _ => cases h
    | _ => cases h
  · rintro ⟨name, rfl, hn, rfl⟩
    exact make_use_text tool hn

def plain (s : Step) : Datum :=
  .record [
    (.text "type", .text s.kind.word),
    (.text "name", match s.name? with | some n => .text n | none => .null)]

end Step
end CombatPlan
