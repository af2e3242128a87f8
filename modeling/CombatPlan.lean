import CombatPlan.Encounter
import CombatPlan.Json.Reader
import CombatPlan.Log.Book
import CombatPlan.Log.Template
import CombatPlan.Macro.Outline
import CombatPlan.Macro.Performance
import CombatPlan.Program.Reach
import CombatPlan.Settings.Load
import CombatPlan.Yaml.Document
import CombatPlan.Proofs.Macro.Agreement
import CombatPlan.Proofs.Macro.Decoding
import CombatPlan.Proofs.Macro.Spelling
import CombatPlan.Proofs.Encounter.Branches
import CombatPlan.Proofs.Encounter.Control
import CombatPlan.Proofs.Encounter.Failure
import CombatPlan.Proofs.Encounter.Independence
import CombatPlan.Proofs.Encounter.Override
import CombatPlan.Proofs.Encounter.Priority
import CombatPlan.Proofs.Encounter.Record
import CombatPlan.Proofs.Encounter.Readiness
import CombatPlan.Proofs.Encounter.Rejection
import CombatPlan.Proofs.Encounter.Reordering
import CombatPlan.Proofs.Encounter.Wellformed
import CombatPlan.Proofs.Json.Text
import CombatPlan.Proofs.Log.Lines
import CombatPlan.Proofs.Log.Messages
import CombatPlan.Proofs.Log.Sinks
import CombatPlan.Proofs.Playbook.Default
import CombatPlan.Proofs.Playbook.Interruption
import CombatPlan.Proofs.Program.Building
import CombatPlan.Proofs.Program.Equality
import CombatPlan.Proofs.Program.PlainForm
import CombatPlan.Proofs.Program.Pruning
import CombatPlan.Proofs.Program.Straight
import CombatPlan.Proofs.Program.Substitution
import CombatPlan.Proofs.Realization.Kill
import CombatPlan.Proofs.Settings.Layering
import CombatPlan.Proofs.Settings.Loading
import CombatPlan.Proofs.Settings.Structured
import CombatPlan.Proofs.Settings.TextLists
