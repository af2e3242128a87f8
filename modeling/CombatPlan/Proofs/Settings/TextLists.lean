import CombatPlan.Proofs.Settings.Layering
import Mathlib.Data.List.DropRight
import Mathlib.Data.List.Forall2

/-!
# Lists of texts in one text

A variable lists the texts for a leaf with a comma between each two. What is blank between two commas is passed over,
and around a text blanks are of no account, so each list of items can be written, and nothing but items is read
(`parts_eq_iff`).
-/

namespace CombatPlan

/-! ## Trimming -/

namespace Text

variable {p : Char → Bool} {cs : List Char}

theorem dropWhile_append_of_head? {before : List Char} (hbefore : ∀ c ∈ before, p c = true)
    (hfirst : ∀ c ∈ cs.head?, p c = false) : (before ++ cs).dropWhile p = cs := by
  rw [List.dropWhile_append_of_pos hbefore]
  cases cs with
  | nil => rfl
  | cons c cs => exact List.dropWhile_cons_of_neg (Bool.eq_false_iff.mp (hfirst c rfl))

theorem trimBy_append {before after : List Char} (hbefore : ∀ c ∈ before, p c = true) (hafter : ∀ c ∈ after, p c = true)
    (hne : cs ≠ []) (hfirst : ∀ c ∈ cs.head?, p c = false) (hlast : ∀ c ∈ cs.getLast?, p c = false) :
    trimBy p (before ++ cs ++ after) = cs := by
  have hfirst' : ∀ c ∈ (cs ++ after).head?, p c = false := by
    rwa [List.head?_append_of_ne_nil _ hne]
  have hlast' : ∀ c ∈ cs.reverse.head?, p c = false := by
    rwa [List.head?_reverse]
  unfold trimBy
  rw [List.append_assoc, dropWhile_append_of_head? hbefore hfirst', List.reverse_append,
    dropWhile_append_of_head? (by simpa using hafter) hlast', List.reverse_reverse]

theorem trimBy_eq_nil_iff : trimBy p cs = [] ↔ ∀ c ∈ cs, p c = true := by
  show (cs.dropWhile p).rdropWhile p = [] ↔ _
  rw [List.rdropWhile_eq_nil_iff]
  constructor
  · intro h
    rw [← List.takeWhile_append_dropWhile (p := p) (l := cs), List.forall_mem_append]
    exact ⟨fun c hc => List.mem_takeWhile_imp hc, h⟩
  · intro h c hc
    exact h c ((List.dropWhile_sublist p).mem hc)

theorem exists_append_trimBy (p : Char → Bool) (cs : List Char) :
    ∃ before after, (∀ c ∈ before, p c = true) ∧ (∀ c ∈ after, p c = true) ∧ cs = before ++ trimBy p cs ++ after := by
  refine ⟨cs.takeWhile p, (cs.dropWhile p).rtakeWhile p, fun c hc => List.mem_takeWhile_imp hc,
    fun c hc => List.mem_rtakeWhile_imp hc, ?_⟩
  show _ = _ ++ (cs.dropWhile p).rdropWhile p ++ _
  rw [List.append_assoc, List.rdropWhile_append_rtakeWhile, List.takeWhile_append_dropWhile]

theorem first_trimBy : ∀ c ∈ (trimBy p cs).head?, p c = false := by
  intro c hc
  obtain ⟨rest, hrest⟩ : trimBy p cs <+: cs.dropWhile p := List.rdropWhile_prefix p _
  have hhead : (cs.dropWhile p).head? = some c := by
    rw [← hrest, List.head?_append, Option.mem_def.mp hc]
    rfl
  have := List.head?_dropWhile_not p cs
  rw [hhead] at this
  simpa using this

theorem last_trimBy : ∀ c ∈ (trimBy p cs).getLast?, p c = false := by
  intro c hc
  unfold trimBy at hc
  rw [List.getLast?_reverse] at hc
  have := List.head?_dropWhile_not p (cs.dropWhile p).reverse
  rw [Option.mem_def.mp hc] at this
  simpa using this

end Text

namespace Environment

open Datum Text

/-! ## Items -/

structure IsItem (x : String) : Prop where
  ne : x ≠ ""
  no_comma : ',' ∉ x.toList
  first : ∀ c ∈ x.toList.head?, isBlank c = false
  last : ∀ c ∈ x.toList.getLast?, isBlank c = false

def Pads (x piece : String) : Prop :=
  ∃ before after, (∀ c ∈ before, isBlank c = true) ∧ (∀ c ∈ after, isBlank c = true) ∧
    piece.toList = before ++ x.toList ++ after

theorem pads_self (x : String) : Pads x x :=
  ⟨[], [], List.forall_mem_nil _, List.forall_mem_nil _, (List.append_nil _).symm⟩

def item? (piece : String) : Option String :=
  let cs := trimBy isBlank piece.toList
  if cs = [] then none else some (String.ofList cs)

theorem item?_eq_none_iff {piece : String} : item? piece = none ↔ ∀ c ∈ piece.toList, isBlank c = true := by
  rw [← trimBy_eq_nil_iff, item?]
  simp

theorem item?_of_pads {x piece : String} (hx : IsItem x) (h : Pads x piece) : item? piece = some x := by
  obtain ⟨before, after, hbefore, hafter, hpiece⟩ := h
  have hne : x.toList ≠ [] := fun hempty => hx.ne (String.toList_eq_nil_iff.mp hempty)
  rw [item?, hpiece, trimBy_append hbefore hafter hne hx.first hx.last, if_neg hne, String.ofList_toList]

theorem pads_of_item? {x piece : String} (hcomma : ',' ∉ piece.toList) (h : item? piece = some x) :
    IsItem x ∧ Pads x piece := by
  obtain ⟨hne, hx⟩ := Option.ite_none_left_eq_some.mp h
  cases hx
  obtain ⟨before, after, hbefore, hafter, hpiece⟩ := exists_append_trimBy isBlank piece.toList
  refine ⟨⟨?_, ?_, ?_, ?_⟩, before, after, hbefore, hafter, ?_⟩
  · exact fun hempty => hne (String.ofList_eq_empty_iff.mp hempty)
  · rw [String.toList_ofList]
    intro hmem
    rw [hpiece] at hcomma
    exact hcomma (List.mem_append_left _ (List.mem_append_right _ hmem))
  · rw [String.toList_ofList]
    exact first_trimBy
  · rw [String.toList_ofList]
    exact last_trimBy
  · rwa [String.toList_ofList]

theorem comma_not_blank : isBlank ',' = false := by decide

theorem Pads.no_comma {x piece : String} (hx : IsItem x) (h : Pads x piece) : ',' ∉ piece.toList := by
  obtain ⟨before, after, hbefore, hafter, hpiece⟩ := h
  have hblank : ∀ {cs : List Char}, (∀ c ∈ cs, isBlank c = true) → ',' ∉ cs := fun hcs hmem =>
    Bool.false_ne_true (comma_not_blank.symm.trans (hcs _ hmem))
  rw [hpiece, List.mem_append, List.mem_append]
  rintro ((hmem | hmem) | hmem)
  · exact hblank hbefore hmem
  · exact hx.no_comma hmem
  · exact hblank hafter hmem

/-! ## Reading a text -/

/-- The pieces between the commas list the items `xs`. -/
inductive Lists : List String → List String → Prop
  | nil : Lists [] []
  | blank {piece : String} {pieces xs : List String} : (∀ c ∈ piece.toList, isBlank c = true) → Lists pieces xs →
      Lists (piece :: pieces) xs
  | item {x piece : String} {pieces xs : List String} : IsItem x → Pads x piece → Lists pieces xs →
      Lists (piece :: pieces) (x :: xs)

theorem Lists.of_pads {xs pieces : List String} (hxs : ∀ x ∈ xs, IsItem x) (h : List.Forall₂ Pads xs pieces) :
    Lists pieces xs := by
  induction h with
  | nil => exact .nil
  | cons hx _ ih =>
    rw [List.forall_mem_cons] at hxs
    exact .item hxs.1 hx (ih hxs.2)

theorem Lists.isItem {pieces xs : List String} (h : Lists pieces xs) : ∀ x ∈ xs, IsItem x := by
  induction h with
  | nil => exact List.forall_mem_nil _
  | blank _ _ ih => exact ih
  | item hx _ _ ih => exact List.forall_mem_cons.mpr ⟨hx, ih⟩

theorem Lists.no_comma {pieces xs : List String} (h : Lists pieces xs) : ∀ piece ∈ pieces, ',' ∉ piece.toList := by
  induction h with
  | nil => exact List.forall_mem_nil _
  | blank hpiece _ ih =>
    refine List.forall_mem_cons.mpr ⟨fun hmem => ?_, ih⟩
    exact Bool.false_ne_true (comma_not_blank.symm.trans (hpiece _ hmem))
  | item hx hpads _ ih => exact List.forall_mem_cons.mpr ⟨hpads.no_comma hx, ih⟩

theorem Lists.filterMap_item? {pieces xs : List String} (h : Lists pieces xs) : pieces.filterMap item? = xs := by
  induction h with
  | nil => rfl
  | blank hpiece _ ih => rw [List.filterMap_cons_none (item?_eq_none_iff.mpr hpiece), ih]
  | item hx hpads _ ih => rw [List.filterMap_cons_some (item?_of_pads hx hpads), ih]

theorem lists_filterMap_item? : ∀ {pieces : List String}, (∀ piece ∈ pieces, ',' ∉ piece.toList) →
    Lists pieces (pieces.filterMap item?)
  | [], _ => .nil
  | piece :: pieces, h => by
    rw [List.forall_mem_cons] at h
    have hrest := lists_filterMap_item? h.2
    cases hitem : item? piece with
    | none =>
      rw [List.filterMap_cons_none hitem]
      exact .blank (item?_eq_none_iff.mp hitem) hrest
    | some x =>
      rw [List.filterMap_cons_some hitem]
      obtain ⟨hx, hpads⟩ := pads_of_item? h.1 hitem
      exact .item hx hpads hrest

theorem parts_eq (t : String) : parts t = ((cut ',' t.toList).map String.ofList).filterMap item? := by
  unfold parts
  rw [List.filterMap_map, List.filterMap_map]
  congr 1
  funext cs
  simp [item?]

theorem toList_intercalate_comma (pieces : List String) :
    (",".intercalate pieces).toList = glue ',' (pieces.map String.toList) := by
  rw [String.toList_intercalate, glue_eq_intercalate]
  rfl

theorem parts_intercalate {pieces : List String} (h : ∀ piece ∈ pieces, ',' ∉ piece.toList) :
    parts (",".intercalate pieces) = pieces.filterMap item? := by
  cases pieces with
  | nil => rfl
  | cons piece pieces =>
    have hcut : cut ',' (",".intercalate (piece :: pieces)).toList = (piece :: pieces).map String.toList := by
      rw [toList_intercalate_comma]
      exact cut_glue (List.cons_ne_nil _ _) (by simpa using h)
    rw [parts_eq, hcut, List.map_map]
    simp

theorem parts_eq_iff {t : String} {xs : List String} :
    parts t = xs ↔ ∃ pieces, t = ",".intercalate pieces ∧ Lists pieces xs := by
  constructor
  · rintro rfl
    refine ⟨(cut ',' t.toList).map String.ofList, ?_, ?_⟩
    · rw [← String.toList_inj, toList_intercalate_comma, List.map_map]
      simp [glue_cut]
    · rw [parts_eq]
      refine lists_filterMap_item? (List.forall_mem_map.mpr fun part hpart => ?_)
      rw [String.toList_ofList]
      exact not_mem_of_mem_cut hpart
  · rintro ⟨pieces, rfl, h⟩
    rw [parts_intercalate h.no_comma, h.filterMap_item?]

theorem isItem_of_mem_parts (t : String) : ∀ x ∈ parts t, IsItem x := by
  obtain ⟨pieces, -, h⟩ := parts_eq_iff.mp (Eq.refl (parts t))
  exact h.isItem

theorem parts_of_pads {xs pieces : List String} (hxs : ∀ x ∈ xs, IsItem x) (h : List.Forall₂ Pads xs pieces) :
    parts (",".intercalate pieces) = xs :=
  parts_eq_iff.mpr ⟨pieces, rfl, .of_pads hxs h⟩

theorem parts_of_blank {t : String} (h : ∀ c ∈ t.toList, isBlank c = true) : parts t = [] :=
  parts_eq_iff.mpr ⟨[t], by simp, .blank h .nil⟩

theorem parts_intercalate_self {xs : List String} (h : ∀ x ∈ xs, IsItem x) : parts (",".intercalate xs) = xs :=
  parts_of_pads h (List.forall₂_same.mpr fun x _ => pads_self x)

/-! ## Leaves that are lists of texts -/

def variableOf (above : String) (keys : List Scalar) : Except OverrideFault String := do
  variableName (← keys.foldlM path (.text above))

theorem variableOf_of_named {keys : List Scalar} (h : ∀ k ∈ keys, ∃ s, s ≠ "" ∧ k = .text s) :
    variableOf "" keys = .ok (nameOf keys) := by
  unfold variableOf
  rw [foldlM_path_of_named h]
  rfl

theorem settle_of_variable {env : Environment} {above name : String} {keys : List Scalar} {leaf : Datum}
    (hname : variableOf above keys = .ok name) (hleaf : leaf.isRecord = false) :
    settle env (.text above) keys leaf = (env.get? name).elim (.ok leaf) (convert leaf) := by
  obtain ⟨q, hq, hname⟩ := bind_eq_ok_iff.mp hname
  rw [settle_of_path hq, hleaf]
  exact overrideLeaf_of_name hname leaf

theorem exists_path_of_settle {env : Environment} {p : Scalar} {keys : List Scalar} {v v' : Datum}
    (h : settle env p keys v = .ok v') : ∃ q, keys.foldlM path p = .ok q := by
  obtain ⟨q, hq, -⟩ := bind_eq_ok_iff.mp h
  exact ⟨q, hq⟩

theorem leafwise_of_override {env : Environment} {above : String} {d d' : Datum} (h : env.override above d = .ok d') :
    Leafwise (fun keys v v' => settle env (.text above) keys v = .ok v') d d' := by
  obtain ⟨-, h⟩ := override_eq_ok_iff_overrideValue.mp h
  refine (overrideValue_eq_ok_iff d d' _ fun keys v hv => ?_).mp h
  cases hsettle : settle env (.text above) keys v with
  | ok v' => exact exists_path_of_settle hsettle
  | error f =>
    obtain ⟨g, hg⟩ := (overrideValue_fails_iff d _).mpr ⟨keys, v, hv, f, hsettle⟩
    rw [h] at hg
    cases hg

section
variable {env : Environment} {above name t : String} {keys : List Scalar} {items : List Datum}
  (hitems : ∀ d ∈ items, isText d = true) (hname : variableOf above keys = .ok name) (ht : env.get? name = some t)
include hitems hname ht

theorem settle_texts : settle env (.text above) keys (.list items) = .ok (.list ((parts t).map .text)) := by
  rw [settle_of_variable hname rfl, ht]
  exact convert_list_eq_ok_iff.mpr (.texts hitems)

theorem holds_parts {d d' : Datum} (hheld : d.Holds keys (.list items)) (h : env.override above d = .ok d') :
    d'.Holds keys (.list ((parts t).map .text)) := by
  obtain ⟨v, hv, hheld'⟩ := (leafwise_of_override h).of_holds hheld rfl
  rw [settle_texts hitems hname ht] at hv
  cases hv
  exact hheld'

end

/-- **Lists of texts.** What takes the place of a list of texts are the items between the commas of its variable, whatever
the blanks around them. Joined again, the same items are read once more. -/
theorem override_of_texts (env : Environment) (above name t : String) (fields : List (Scalar × Datum)) (keys : List Scalar)
    (items : List Datum) (hheld : (record fields).Holds keys (.list items)) (hitems : ∀ d ∈ items, isText d = true)
    (hname : variableOf above keys = .ok name) (ht : env.get? name = some t) :
    ((∃ f, env.override above (.record fields) = .error f) ↔
      ∃ keys' v, (record fields).Holds keys' v ∧ ¬(keys' = keys ∧ v = .list items) ∧
        ∃ f, settle env (.text above) keys' v = .error f) ∧
    ∀ d, env.override above (.record fields) = .ok d →
      ∃ xs : List String, d.Holds keys (.list (xs.map .text)) ∧ (∀ x ∈ xs, IsItem x) ∧
        (∀ ys pieces, (∀ y ∈ ys, IsItem y) → List.Forall₂ Pads ys pieces → t = ",".intercalate pieces → xs = ys) ∧
        ((∀ c ∈ t.toList, isBlank c = true) → xs = []) ∧
        ∀ (env' : Environment) (d' : Datum), env'.get? name = some (",".intercalate xs) →
          env'.override above (.record fields) = .ok d' ∨ env'.override above d = .ok d' →
            d'.Holds keys (.list (xs.map .text)) := by
  constructor
  · rw [override_of_isRecord rfl, overrideValue_fails_iff]
    constructor
    · rintro ⟨keys', v, hv, f, hf⟩
      refine ⟨keys', v, hv, ?_, f, hf⟩
      rintro ⟨rfl, rfl⟩
      rw [settle_texts hitems hname ht] at hf
      cases hf
    · rintro ⟨keys', v, hv, -, hf⟩
      exact ⟨keys', v, hv, hf⟩
  · intro d hd
    have hheld' := holds_parts hitems hname ht hheld hd
    refine ⟨parts t, hheld', isItem_of_mem_parts t, ?_, parts_of_blank, ?_⟩
    · rintro ys pieces hys hpads rfl
      exact parts_of_pads hys hpads
    · intro env' d' ht' hd'
      have hself := parts_intercalate_self (isItem_of_mem_parts t)
      have htexts : ∀ d ∈ (parts t).map Datum.text, isText d = true := List.forall_mem_map.mpr fun _ _ => rfl
      rw [← hself]
      rcases hd' with hd' | hd'
      · exact holds_parts hitems hname ht' hheld hd'
      · exact holds_parts htexts hname ht' hheld' hd'

theorem override_of_texts_openers :
    let keys : List Scalar := [.text "compiler", .text "opener_skills"]
    let document (openers : List String) : Datum := .record [(.text "compiler",
      .record [(.text "opener_skills", .list (openers.map .text)), (.text "area_skill", .text "Wave")])]
    let env : Environment := [("AUTOCOMBAT_COMPILER__OPENER_SKILLS", " Curse  of Weaksauce ,\tPocket Crumbs")]
    (document ["Entangle"]).Holds keys (.list [.text "Entangle"]) ∧
      variableOf "" keys = .ok "AUTOCOMBAT_COMPILER__OPENER_SKILLS" ∧
      env.override "" (document ["Entangle"]) = .ok (document ["Curse  of Weaksauce", "Pocket Crumbs"]) ∧
      ∃ xs : List String, xs = ["Curse  of Weaksauce", "Pocket Crumbs"] ∧
        (document ["Curse  of Weaksauce", "Pocket Crumbs"]).Holds keys (.list (xs.map .text)) ∧ ∀ x ∈ xs, IsItem x := by
  intro keys document env
  have hheld : (document ["Entangle"]).Holds keys (.list [.text "Entangle"]) :=
    .field (List.mem_cons_self ..) (.field (List.mem_cons_self ..) (.here _))
  have hkeys : ∀ k ∈ keys, ∃ s, s ≠ "" ∧ k = .text s :=
    List.forall_mem_cons.mpr ⟨⟨_, by decide, rfl⟩, List.forall_mem_singleton.mpr ⟨_, by decide, rfl⟩⟩
  have hname : variableOf "" keys = .ok "AUTOCOMBAT_COMPILER__OPENER_SKILLS" :=
    (variableOf_of_named hkeys).trans (congrArg Except.ok (by decide))
  have hok : env.override "" (document ["Entangle"]) = .ok (document ["Curse  of Weaksauce", "Pocket Crumbs"]) := rfl
  have htext : ∀ d ∈ [Datum.text "Entangle"], isText d = true := List.forall_mem_singleton.mpr rfl
  obtain ⟨xs, hxs, hitems, hread, -⟩ := (override_of_texts env "" _ _ _ keys _ hheld htext hname rfl).2 _ hok
  have hend : ∀ {c? : Option Char} (c : Char), c? = some c → isBlank c = false → ∀ c ∈ c?, isBlank c = false := by
    rintro _ c rfl hc _ ⟨⟩
    exact hc
  have hys : ∀ y ∈ ["Curse  of Weaksauce", "Pocket Crumbs"], IsItem y :=
    List.forall_mem_cons.mpr ⟨⟨by decide, by decide, hend _ rfl rfl, hend _ rfl rfl⟩,
      List.forall_mem_singleton.mpr ⟨by decide, by decide, hend _ rfl rfl, hend _ rfl rfl⟩⟩
  have hpads : List.Forall₂ Pads ["Curse  of Weaksauce", "Pocket Crumbs"] [" Curse  of Weaksauce ", "\tPocket Crumbs"] :=
    .cons ⟨[' '], [' '], List.forall_mem_singleton.mpr rfl, List.forall_mem_singleton.mpr rfl, rfl⟩
      (.cons ⟨['\t'], [], List.forall_mem_singleton.mpr rfl, List.forall_mem_nil _, rfl⟩ .nil)
  exact ⟨hheld, hname, hok, xs, hread _ _ hys hpads rfl, hxs, hitems⟩

end Environment
end CombatPlan
