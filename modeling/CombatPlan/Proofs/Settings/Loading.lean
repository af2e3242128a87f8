import CombatPlan.Proofs.Schema.Depth
import CombatPlan.Proofs.Settings.Acceptance
import CombatPlan.Proofs.Settings.Nesting
import CombatPlan.Proofs.Settings.Overriding
import CombatPlan.Settings.Load
import CombatPlan.Yaml.Document
import Mathlib

/-!
# What can go wrong when settings are loaded

Settings that are accepted are valid, and a report says why others are not. But a document comes to be checked only
if it can be overridden, and the keys of a document that is only readable may be anything. `settle_fails_iff_obstructed`
says where overriding stops.
-/

namespace CombatPlan

namespace Environment

open Datum

section
variable {env : Environment} {v : Datum}

end

end Environment

namespace Settings

open Environment Datum

section
variable {ε : Type} {env : Environment} {m : Memory} {depth limit : Nat}

theorem overrideMemory_of_record {fields : List (Scalar × Address)} (h : m.cell m.root = .record fields) :
    env.overrideMemory depth limit m = overrideAt env m depth limit (.text "") m.root := by
  unfold overrideMemory
  rw [h]

theorem ofOverridden_congr {x x' : Except OverrideFault Datum} (h : cut reach <$> x = cut reach <$> x') :
    (ofOverridden x : Except (LoadFault ε) Settings) = ofOverridden x' := by
  cases x with
  | error f =>
    cases x' with
    | error f' => cases h; rfl
    | ok d' => cases h
  | ok d =>
    cases x' with
    | error f' => cases h
    | ok d' =>
      have hrule := Settings.looks_rule.eq_of_cut_eq (Except.ok.inj h)
      show ((rule d).report "Config").mapError LoadFault.invalid = ((rule d').report "Config").mapError LoadFault.invalid
      rw [hrule]

theorem overrideMemory_congr {β : Type} {see : Datum → β} (hsee : Fieldwise see) {env' : Environment} {n n' : Nat}
    (h : ∀ keys b, m.Reaches m.root keys b →
      see <$> settle env (.text "") keys (m.view n b) = see <$> settle env' (.text "") keys (m.view n' b)) :
    see <$> env.overrideMemory n limit m = see <$> env'.overrideMemory n' limit m := by
  unfold overrideMemory
  cases m.cell m.root with
  | record _ => exact overrideAt_congr hsee limit (.text "") m.root h
  | list _ => rfl
  | scalar _ => rfl

/-- Views to the depth to which the rules look are deep enough. -/
theorem ofMemory_of_reach_le {n : Nat} (h : reach ≤ n) :
    (ofMemory n limit env m : Except (LoadFault ε) Settings) = ofMemory reach limit env m := by
  apply ofOverridden_congr
  apply overrideMemory_congr (fieldwise_cut reach)
  intro keys b _
  rw [← m.orNothing.cut_view b h]
  exact (settle_cut 3 (.text "") keys _).symm

theorem overrideMemory_of_shows {n : Nat} {d : Datum} (hd : m.Shows m.root d)
    (hfits : ∀ keys a, m.Reaches m.root keys a → keys.length + calls (m.cell a) ≤ limit) :
    cut (n + 1) <$> env.overrideMemory (n + 1) limit m = cut (n + 1) <$> env.override "" d := by
  have houtline := hd.outline
  cases d with
  | record fields =>
    obtain ⟨cells, hcell, -⟩ := hd.record
    rw [overrideMemory_of_record hcell, override_record]
    exact overrideAt_of_shows limit (.text "") m.root _ hd hfits
  | list items =>
    unfold overrideMemory
    cases hcell : m.cell m.root <;> rw [hcell] at houtline <;> cases houtline
    rfl
  | scalar s =>
    unfold overrideMemory
    cases hcell : m.cell m.root <;> rw [hcell] at houtline <;> cases houtline
    rfl

/-- Where no place is too deep, settings in data that a memory shows are the settings in these data. -/
theorem ofMemory_of_shows {d : Datum} (hd : m.Shows m.root d)
    (hfits : ∀ keys a, m.Reaches m.root keys a → keys.length + calls (m.cell a) ≤ limit) :
    (ofMemory reach limit env m : Except (LoadFault ε) Settings) = ofData env d := by
  unfold ofMemory ofData Memory.orNothing
  rw [hd.isEmpty]
  cases d.isEmpty with
  | true =>
    have hroot : calls (m.cell m.root) ≤ limit := by simpa using hfits [] m.root (.here _)
    obtain ⟨limit, rfl⟩ := Nat.exists_eq_add_of_le' ((one_le_calls _).trans hroot)
    rfl
  | false => exact ofOverridden_congr (overrideMemory_of_shows hd hfits)

theorem load_of_memory {safeLoad : String → Except ε Memory} {disk : Disk} {path? : Option String} {document : String}
    (hfile : disk.file? (disk.settingsPath path?) = some document) (h : safeLoad document = .ok m) :
    load safeLoad limit disk env path? = ofMemory reach limit env m := by
  unfold load
  simp only [hfile, h]
  rfl

end

def diskWith (document : String) : Disk where
  home := "/srv"
  file? := fun path => if path = "combat.yaml" then some document else none

theorem file?_diskWith (document : String) :
    (diskWith document).file? ((diskWith document).settingsPath "combat.yaml") = some document := by
  show (if normalPath "combat.yaml" = "combat.yaml" then some document else none) = some document
  exact if_pos (by decide)

end Settings
end CombatPlan
