import CombatPlan.Macro.Statement
import Mathlib.Data.List.Basic

/-!
# The spelling of macros

`Statement.split?_eq_some_iff`: a macro spells a row of statements exactly if it is their text, each of them
names what it needs to, and none of them holds a semicolon.
-/

namespace CombatPlan

/-! ## Marks -/

def Mark.Clear : Mark → Prop
  | .id _ => True
  | .name s => s ≠ "" ∧ '"' ∉ s.toList

namespace Mark

theorem chars_of_ofChars? {cs : List Char} {m : Mark} (h : ofChars? cs = some m) :
    m.chars = cs ∧ m.Clear := by
  unfold ofChars? at h
  split at h
  · next ds _ hds =>
    rw [List.isPrefixOf?_eq_some_iff_append_eq] at hds
    dsimp only at h
    split at h
    · next hd =>
      cases h
      exact ⟨by rw [chars, hd, hds], trivial⟩
    · cases h
  · next rest _ hrest =>
    rw [List.isPrefixOf?_eq_some_iff_append_eq] at hrest
    split at h
    · next letters hl =>
      split at h
      · cases h
      · next hok =>
        cases h
        rw [not_or] at hok
        have hr : rest = letters.reverse ++ ['"'] := by
          rw [← List.reverse_reverse rest, hl, List.reverse_cons]
        refine ⟨?_, fun he => hok.1 ?_, ?_⟩
        · rw [chars, String.toList_ofList, List.append_assoc, ← hr, hrest]
        · have := congrArg String.toList he
          rw [String.toList_ofList] at this
          exact List.reverse_eq_nil_iff.mp this
        · rw [String.toList_ofList, List.mem_reverse]; exact hok.2
    · cases h
  · cases h

theorem ofChars?_chars {m : Mark} (h : m.Clear) : ofChars? m.chars = some m := by
  cases m with
  | id n =>
    have hp : idWord.toList.isPrefixOf? (Mark.id n).chars = some (Nat.toDigits 10 n) :=
      List.isPrefixOf?_eq_some_iff_append_eq.mpr rfl
    unfold ofChars?
    rw [hp]
    simp only [Nat.ofDigitChars_ten_toDigits, ite_true]
  | name s =>
    have hi : idWord.toList.isPrefixOf? (Mark.name s).chars = none := rfl
    have hp : nameWord.toList.isPrefixOf? (Mark.name s).chars = some (s.toList ++ ['"']) := by
      rw [List.isPrefixOf?_eq_some_iff_append_eq, chars, List.append_assoc]
    have hr : (s.toList ++ ['"']).reverse = '"' :: s.toList.reverse := List.reverse_concat ..
    have hok : ¬ (s.toList.reverse = [] ∨ '"' ∈ s.toList.reverse) := by
      rw [List.reverse_eq_nil_iff, List.mem_reverse, String.toList_eq_nil_iff, not_or]
      exact h
    unfold ofChars?
    rw [hi, hp]
    simp only [hr, if_neg hok, List.reverse_reverse, String.ofList_toList]

end Mark

/-! ## Statements -/

def Statement.Clear : Statement → Prop
  | .use _ name => name ≠ ""
  | .ifHas _ name => name ≠ ""
  | .ifMark m => m.Clear
  | _ => True

namespace Statement

theorem named?_eq_some_iff {word : String} {make : String → Statement} {cs : List Char} {s : Statement} :
    named? word make cs = some s ↔ ∃ name, name ≠ "" ∧ word.toList ++ name.toList = cs ∧ make name = s := by
  constructor
  · intro h
    unfold named? at h
    split at h
    · cases h
    · next rest hne hrest =>
      rw [List.isPrefixOf?_eq_some_iff_append_eq] at hrest
      refine ⟨String.ofList rest, fun he => hne ?_, ?_, Option.some.inj h⟩
      · have := congrArg String.toList he
        rwa [String.toList_ofList] at this
      · rw [String.toList_ofList, hrest]
    · cases h
  · rintro ⟨name, hne, rfl, rfl⟩
    have hp : word.toList.isPrefixOf? (word.toList ++ name.toList) = some name.toList :=
      List.isPrefixOf?_eq_some_iff_append_eq.mpr rfl
    unfold named?
    rw [hp]
    split
    · next h => exact absurd (String.toList_eq_nil_iff.mp (Option.some.inj h)) hne
    · next rest _ h => rw [← Option.some.inj h, String.ofList_toList]
    · next h => cases h

theorem marked?_eq_some_iff {cs : List Char} {s : Statement} :
    marked? cs = some s ↔ ∃ m : Mark, m.Clear ∧ "if ".toList ++ m.chars = cs ∧ ifMark m = s := by
  unfold marked?
  rw [Option.map_eq_some_iff]
  constructor
  · rintro ⟨m, h, rfl⟩
    obtain ⟨rest, hrest, hm⟩ := Option.bind_eq_some_iff.mp h
    obtain ⟨rfl, hc⟩ := Mark.chars_of_ofChars? hm
    exact ⟨m, hc, List.isPrefixOf?_eq_some_iff_append_eq.mp hrest, rfl⟩
  · rintro ⟨m, hc, rfl, rfl⟩
    refine ⟨m, ?_, rfl⟩
    rw [List.isPrefixOf?_eq_some_iff_append_eq.mpr rfl]
    exact Mark.ofChars?_chars hc

theorem chars_of_ofChars? {cs : List Char} {s : Statement} (h : ofChars? cs = some s) :
    s.chars = cs ∧ s.Clear := by
  unfold ofChars? at h
  simp only [Option.orElse_eq_orElse, Option.orElse_eq_or, Option.or_eq_some_iff] at h
  rcases h with h | ⟨-, h | ⟨-, h | ⟨-, h | ⟨-, h | ⟨-, h⟩⟩⟩⟩⟩
  · have hm := List.mem_of_find?_eq_some h
    have hc := List.find?_some h
    rw [beq_iff_eq] at hc
    refine ⟨hc, ?_⟩
    simp only [List.mem_cons, List.not_mem_nil, or_false] at hm
    rcases hm with rfl | rfl | rfl | rfl | rfl <;> trivial
  · obtain ⟨name, hne, rfl, rfl⟩ := named?_eq_some_iff.mp h
    exact ⟨rfl, hne⟩
  · obtain ⟨name, hne, rfl, rfl⟩ := named?_eq_some_iff.mp h
    exact ⟨rfl, hne⟩
  · obtain ⟨name, hne, rfl, rfl⟩ := named?_eq_some_iff.mp h
    exact ⟨rfl, hne⟩
  · obtain ⟨name, hne, rfl, rfl⟩ := named?_eq_some_iff.mp h
    exact ⟨rfl, hne⟩
  · obtain ⟨m, hc, rfl, rfl⟩ := marked?_eq_some_iff.mp h
    exact ⟨rfl, hc⟩

theorem ofChars?_chars {s : Statement} (h : s.Clear) : ofChars? s.chars = some s := by
  -- No two kinds of statement begin alike, so the readings in front of the right one fail by computation.
  cases s with
  | use tool name =>
    have hn : named? (useWord tool) (use tool) (use tool name).chars = some (use tool name) :=
      named?_eq_some_iff.mpr ⟨name, h, rfl, rfl⟩
    cases tool with
    | skill =>
      show (named? (useWord .skill) (use .skill) _ <|> _) = _
      rw [hn]; rfl
    | item =>
      show (named? (useWord .item) (use .item) _ <|> _) = _
      rw [hn]; rfl
  | ifHas tool name =>
    have hn : named? (ifHasWord tool) (ifHas tool) (ifHas tool name).chars = some (ifHas tool name) :=
      named?_eq_some_iff.mpr ⟨name, h, rfl, rfl⟩
    cases tool with
    | skill =>
      show (named? (ifHasWord .skill) (ifHas .skill) _ <|> _) = _
      rw [hn]; rfl
    | item =>
      show (named? (ifHasWord .item) (ifHas .item) _ <|> _) = _
      rw [hn]; rfl
  | ifMark m =>
    have hm : marked? (ifMark m).chars = some (ifMark m) := marked?_eq_some_iff.mpr ⟨m, h, rfl, rfl⟩
    cases m with
    | id n => exact hm
    | name s => exact hm
  | attack => rfl
  | runaway => rfl
  | again => rfl
  | abort => rfl
  | endIf => rfl

theorem chars_ne_nil (s : Statement) : s.chars ≠ [] := by
  cases s with
  | use tool _ => cases tool <;> exact List.cons_ne_nil _ _
  | ifHas tool _ => cases tool <;> exact List.cons_ne_nil _ _
  | _ => exact List.cons_ne_nil _ _

/-! ## Rows of statements -/

theorem mapM_ofChars?_eq_some_iff : ∀ {parts : List (List Char)} {ss : List Statement},
    parts.mapM ofChars? = some ss ↔ ss.map chars = parts ∧ ∀ s ∈ ss, s.Clear
  | [], ss => by
    rw [List.mapM_nil]
    constructor
    · intro h
      cases h
      exact ⟨rfl, fun s hs => absurd hs List.not_mem_nil⟩
    · rintro ⟨h, -⟩
      rw [List.map_eq_nil_iff.mp h]; rfl
  | cs :: parts, ss => by
    rw [List.mapM_cons]
    constructor
    · intro h
      obtain ⟨s, hs, h⟩ := Option.bind_eq_some_iff.mp h
      obtain ⟨rest, hrest, h⟩ := Option.bind_eq_some_iff.mp h
      cases h
      obtain ⟨hc, hclear⟩ := chars_of_ofChars? hs
      obtain ⟨hcs, hclears⟩ := mapM_ofChars?_eq_some_iff.mp hrest
      refine ⟨by rw [List.map_cons, hc, hcs], fun s' hs' => ?_⟩
      rcases List.mem_cons.mp hs' with rfl | hs'
      · exact hclear
      · exact hclears s' hs'
    · rintro ⟨h, hclear⟩
      cases ss with
      | nil => cases h
      | cons s rest =>
        rw [List.map_cons, List.cons.injEq] at h
        obtain ⟨rfl, hrest⟩ := h
        have ih : parts.mapM ofChars? = some rest :=
          mapM_ofChars?_eq_some_iff.mpr ⟨hrest, fun s' hs' => hclear s' (List.mem_cons_of_mem _ hs')⟩
        rw [ofChars?_chars (hclear s (List.mem_cons_self ..)), ih]
        rfl

theorem join_ne_empty {s : Statement} {ss : List Statement} : join (s :: ss) ≠ "" := by
  intro h
  have hg := congrArg String.toList h
  rw [join, String.toList_ofList, List.map_cons] at hg
  cases ss with
  | nil => exact chars_ne_nil s hg
  | cons s' ss => exact chars_ne_nil s (List.append_eq_nil_iff.mp hg).1

theorem split?_eq_some_iff {macroText : String} {ss : List Statement} :
    split? macroText = some ss ↔ join ss = macroText ∧ ∀ s ∈ ss, s.Clear ∧ ';' ∉ s.chars := by
  unfold split?
  constructor
  · intro h
    split at h
    · next he =>
      cases h
      exact ⟨he.symm, fun s hs => absurd hs List.not_mem_nil⟩
    · obtain ⟨hc, hclear⟩ := mapM_ofChars?_eq_some_iff.mp h
      refine ⟨by rw [join, hc, Text.glue_cut, String.ofList_toList], fun s hs => ⟨hclear s hs, ?_⟩⟩
      exact Text.not_mem_of_mem_cut (hc ▸ List.mem_map_of_mem hs)
  · rintro ⟨rfl, h⟩
    cases ss with
    | nil => rfl
    | cons s ss =>
      have hne : (s :: ss).map chars ≠ [] := List.cons_ne_nil _ _
      rw [if_neg join_ne_empty, join, String.toList_ofList, Text.cut_glue hne]
      · exact mapM_ofChars?_eq_some_iff.mpr ⟨rfl, fun s' hs' => (h s' hs').1⟩
      · intro part hp
        obtain ⟨s', hs', rfl⟩ := List.mem_map.mp hp
        exact (h s' hs').2

end Statement
end CombatPlan
