import CombatPlan.Json.Reader
import CombatPlan.Log.Book
import CombatPlan.Proofs.Json.Text

/-!
# Lines of JSON

A log writes a record as one line of JSON, and the record is read back from it (`LogRecord.read?_jsonLine`).
-/

namespace CombatPlan

/-! ## Records of texts in JSON -/

namespace Json

theorem value?_quote (depth : Nat) (s : String) (rest : List Char) :
    value? (depth + 1) (quote s ++ rest) = some (.text s, rest) := by
  have hopen : quote s ++ rest = '"' :: (encode s.toList ++ '"' :: rest) := by
    simp [quote]
  rw [value?, hopen]
  show (decode? (encode s.toList ++ '"' :: rest)).map (fun r => (Datum.text (String.ofList r.1), r.2)) = _
  rw [decode?_encode, Option.map_some, String.ofList_toList]

end Json

namespace LogRecord

open Json

def entry (field : String × String) : List Char :=
  quote field.1 ++ ':' :: quote field.2

theorem object_eq (fields : List (String × String)) :
    object fields = '{' :: (Text.glue ',' (fields.map entry) ++ ['}']) := rfl

def added (before : List (Scalar × Datum)) (field : String × String) : List (Scalar × Datum) :=
  Datum.insert (.text field.1) (.text field.2) before

theorem fields?_entry (depth : Nat) (before : List (Scalar × Datum)) (field : String × String) (tail : List Char) :
    fields? (depth + 2) before (entry field ++ tail) =
      match skipSpace tail with
      | ',' :: rest => fields? (depth + 1) (added before field) rest
      | '}' :: rest => some (.record (added before field), rest)
      | _ => none := by
  have hopen : entry field ++ tail = '"' :: (encode field.1.toList ++ '"' :: ':' :: (quote field.2 ++ tail)) := by
    simp [entry, quote]
  rw [fields?, hopen]
  show (decode? (encode field.1.toList ++ '"' :: ':' :: (quote field.2 ++ tail))).bind _ = _
  rw [decode?_encode]
  show (value? (depth + 1) (quote field.2 ++ tail)).bind _ = _
  rw [value?_quote, String.ofList_toList]
  rfl

theorem fields?_glue (rest : List Char) : ∀ (fields : List (String × String)) (field : String × String)
    (before : List (Scalar × Datum)) (depth : Nat), fields.length + 1 < depth →
    fields? depth before (Text.glue ',' ((field :: fields).map entry) ++ '}' :: rest) =
      some (.record ((field :: fields).foldl added before), rest)
  | [], field, before, depth + 2, _ => fields?_entry depth before field ('}' :: rest)
  | other :: fields, field, before, depth + 2, h => by
    have hglue : Text.glue ',' ((field :: other :: fields).map entry) ++ '}' :: rest =
        entry field ++ ',' :: (Text.glue ',' ((other :: fields).map entry) ++ '}' :: rest) := by
      simp [Text.glue]
    rw [hglue, fields?_entry]
    exact fields?_glue rest fields other (added before field) (depth + 1) (by simpa using h)

theorem exists_glue_entry (field : String × String) (fields : List (String × String)) :
    ∃ cs, Text.glue ',' ((field :: fields).map entry) = '"' :: cs := by
  cases fields with
  | nil => exact ⟨_, rfl⟩
  | cons _ _ => exact ⟨_, rfl⟩

theorem length_le_object (fields : List (String × String)) : fields.length + 2 ≤ (object fields).length := by
  have hentry : ∀ part ∈ fields.map entry, part ≠ [] := List.forall_mem_map.mpr fun field _ => List.cons_ne_nil _ _
  have hglue := Text.length_le_glue ',' hentry
  rw [List.length_map] at hglue
  rw [object_eq, List.length_cons, List.length_append, List.length_singleton]
  omega

theorem read?_object (field : String × String) (fields : List (String × String)) :
    read? (String.ofList (object (field :: fields))) = some (.record ((field :: fields).foldl added [])) := by
  have hlength := length_le_object (field :: fields)
  obtain ⟨depth, hdepth⟩ : ∃ depth, 2 * (object (field :: fields)).length + 2 = depth + 1 := ⟨_, rfl⟩
  have hvalue : value? (depth + 1) (object (field :: fields)) = some (.record ((field :: fields).foldl added []), []) := by
    have hfields := fields?_glue [] fields field [] depth (by rw [List.length_cons] at hlength; omega)
    -- What stands behind the brace is no closing one.
    obtain ⟨cs, hcs⟩ := exists_glue_entry field fields
    rw [hcs] at hfields
    rw [value?, object_eq, hcs]
    exact hfields
  unfold read?
  rw [String.length_ofList, String.toList_ofList, hdepth, hvalue]
  rfl

theorem isPlain_object (fields : List (String × String)) : ∀ c ∈ object fields, IsPlain c := by
  have hmark : IsPlain '{' ∧ IsPlain ':' ∧ IsPlain ',' ∧ IsPlain '}' := by
    unfold IsPlain
    decide
  have hentry : ∀ part ∈ fields.map entry, ∀ c ∈ part, IsPlain c := by
    refine List.forall_mem_map.mpr fun field _ => ?_
    exact List.forall_mem_append.mpr ⟨isPlain_quote _, List.forall_mem_cons.mpr ⟨hmark.2.1, isPlain_quote _⟩⟩
  rw [object_eq, List.forall_mem_cons, List.forall_mem_append]
  exact ⟨hmark.1, Text.forall_mem_glue hmark.2.2.1 hentry, List.forall_mem_singleton.mpr hmark.2.2.2⟩

/-! ## Lines -/

theorem read?_jsonText (stamp level source message : String) :
    (∀ c ∈ (jsonText stamp level source message).toList, 0x20 ≤ c.toNat ∧ c.toNat ≤ 0x7E) ∧
    Json.read? (jsonText stamp level source message) = some (.record [(.text "ts", .text stamp),
      (.text "level", .text level), (.text "logger", .text source), (.text "msg", .text message)]) := by
  constructor
  · rw [jsonText, String.toList_ofList]
    exact isPlain_object _
  · exact read?_object _ _

/-- **Lines of JSON.** The line of a record is printable ASCII throughout, hence one line, and reads as an object with
the time, the level, the logger and the message of the record, in this order. -/
theorem read?_jsonLine (r : LogRecord) :
    (∀ c ∈ r.jsonLine.toList, 0x20 ≤ c.toNat ∧ c.toNat ≤ 0x7E) ∧
    Json.read? r.jsonLine = some (.record [(.text "ts", .text r.time.stamp), (.text "level", .text r.levelName),
      (.text "logger", .text r.source), (.text "msg", .text r.message)]) := by
  obtain ⟨hplain, hread⟩ := read?_jsonText r.time.stamp r.levelName r.source r.message
  unfold jsonLine
  exact ⟨hplain, hread⟩

theorem read?_jsonLine_gong :
    let r : LogRecord := {
      level := 15
      levelName := "\"loud\""
      source := "a\\b"
      message := "gong\n\x7f😀"
      time := .ofSeconds 86399 }
    r.jsonLine = "\x7b\"ts\":\"1970-01-01T23:59:59\",\"level\":\"\\\"loud\\\"\",\"logger\":\"a\\\\b\"," ++
      "\"msg\":\"gong\\n\\u007f\\ud83d\\ude00\"\x7d" ∧
    Json.read? r.jsonLine = some (.record [(.text "ts", .text "1970-01-01T23:59:59"), (.text "level", .text "\"loud\""),
      (.text "logger", .text "a\\b"), (.text "msg", .text "gong\n\x7f😀")]) := by
  intro r
  have hstamp : r.time.stamp = "1970-01-01T23:59:59" := by decide
  refine ⟨by decide +kernel, ?_⟩
  rw [(read?_jsonLine r).2, hstamp]

end LogRecord
end CombatPlan
