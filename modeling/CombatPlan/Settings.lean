import CombatPlan.Step

/-!
# Settings

What the compilation of intents and the log can be told. A setting that is left out has its default.
-/

namespace CombatPlan

open Schema

structure Debuff where
  tool : Tool
  name : String
  deriving DecidableEq, Repr

/-- The skills and thresholds with which intents are compiled. -/
structure Tactics where
  /-- A kill is escalated if the defense times this exceeds the offense. -/
  escalationFactor : Float := 1.25
  /-- The resistance, in percent, from which on physical attacks are given up. -/
  resistanceThreshold : Float := 70
  openers : List String := ["Curse of Weaksauce"]
  debuffs : List Debuff := [
    ⟨.skill, "Pocket Crumbs"⟩,
    ⟨.skill, "Micrometeorite"⟩,
    ⟨.item, "Rain-Doh indigo cup"⟩,
    ⟨.skill, "Summon Love Mosquito"⟩,
    ⟨.item, "Time-Spinner"⟩]
  areaSkill : String := "Saucegeyser"
  meleeSkill : String := "Lunging Thrust-Smack"
  fleeSkill : String := "Saucestorm"

structure LogSettings where
  level : String := "INFO"
  format : String := "readable"
  deriving DecidableEq, Repr

structure Settings where
  tactics : Tactics := {}
  log : LogSettings := {}

/-! ## Validity -/

structure Tactics.Valid (t : Tactics) : Prop where
  factor_pos : Rule.keeps t.escalationFactor (.above 0) = true
  threshold_nonneg : Rule.keeps t.resistanceThreshold (.atLeast 0) = true
  threshold_le : Rule.keeps t.resistanceThreshold (.atMost 100) = true
  debuffs_named : ∀ d ∈ t.debuffs, d.name ≠ ""
  area_ne : t.areaSkill ≠ ""
  melee_ne : t.meleeSkill ≠ ""
  flee_ne : t.fleeSkill ≠ ""

def LogSettings.levels : List String :=
  ["DEBUG", "INFO", "WARNING", "ERROR", "CRITICAL"]

def LogSettings.formats : List String :=
  ["readable", "json"]

structure LogSettings.Valid (l : LogSettings) : Prop where
  level_mem : l.level ∈ levels
  format_mem : l.format ∈ formats

structure Settings.Valid (s : Settings) : Prop where
  tactics : s.tactics.Valid
  log : s.log.Valid

/-! ## Plain form -/

def Tool.word : Tool → String
  | .skill => "skill"
  | .item => "item"

def Tool.rule : Rule Tool :=
  Rule.choice ([Tool.skill, .item].map fun t => (t.word, t))

def Debuff.rule : Rule Debuff :=
  Rule.model "DebuffAttempt" fun fields =>
    Debuff.mk <$> required "kind" Tool.rule fields <*> required "name" Rule.filledText fields

def Tactics.rule : Rule Tactics :=
  let std : Tactics := {}
  Rule.model "CompilerConfig" fun fields =>
    Tactics.mk
      <$> optional "escalation_factor" std.escalationFactor (Rule.bounded [.above 0]) fields
      <*> optional "physical_resistance_threshold" std.resistanceThreshold
        (Rule.bounded [.atMost 100, .atLeast 0]) fields
      <*> optional "opener_skills" std.openers (Rule.list Rule.text) fields
      <*> optional "debuff_prefix" std.debuffs (Rule.list Debuff.rule) fields
      <*> optional "area_skill" std.areaSkill Rule.filledText fields
      <*> optional "melee_skill" std.meleeSkill Rule.filledText fields
      <*> optional "flee_buff_skill" std.fleeSkill Rule.filledText fields

def Debuff.plain (d : Debuff) : Datum :=
  .record [(.text "kind", .text d.tool.word), (.text "name", .text d.name)]

def Tactics.plain (t : Tactics) : Datum :=
  .record [
    (.text "escalation_factor", .float t.escalationFactor),
    (.text "physical_resistance_threshold", .float t.resistanceThreshold),
    (.text "opener_skills", .list (t.openers.map .text)),
    (.text "debuff_prefix", .list (t.debuffs.map (·.plain))),
    (.text "area_skill", .text t.areaSkill),
    (.text "melee_skill", .text t.meleeSkill),
    (.text "flee_buff_skill", .text t.fleeSkill)]

def LogSettings.rule : Rule LogSettings :=
  let std : LogSettings := {}
  Rule.model "LoggingConfig" fun fields =>
    LogSettings.mk
      <$> optional "level" std.level (Rule.oneOf levels) fields
      <*> optional "format" std.format (Rule.oneOf formats) fields

def LogSettings.plain (l : LogSettings) : Datum :=
  .record [(.text "level", .text l.level), (.text "format", .text l.format)]

def Settings.rule : Rule Settings :=
  let std : Settings := {}
  Rule.model "Config" fun fields =>
    Settings.mk
      <$> optional "compiler" std.tactics Tactics.rule fields
      <*> optional "logging" std.log LogSettings.rule fields

/-- How deep the rule looks. -/
def Settings.reach : Nat := 4

def Settings.plain (s : Settings) : Datum :=
  .record [(.text "compiler", s.tactics.plain), (.text "logging", s.log.plain)]

end CombatPlan
