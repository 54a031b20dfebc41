import GatewayRouting.Json.Record
import GatewayRouting.Proofs.WrittenTrees

/-!
# Records that were written are read

A record is written as an object with a member for each of its fields (`Record.tree`). If the
fields are fields of a shape, each with a value that its kind can hold, no two under one name and
none missing (`RecordShape.Admits`), then the object is decoded as that record
(`Json.recordOfText_of_read`).
-/

namespace GatewayRouting

open Json (Tree RawText)

/-- The tree of a text. -/
def textTree (text : String) : Tree :=
  .string (.ofChars text.toList)

/-- The tree of a value. -/
def FieldValue.tree : FieldValue → Tree
  | .text value => textTree value
  | .tokens values => .array (values.map textTree) true
  | .flag value => .bool value
  | .signed value => .number (.ofInt value)
  | .unsigned value => .number (.ofInt value)

/-- The members of a record. -/
def Record.members (record : Record) : List (RawText × Tree) :=
  record.map fun entry => (.ofChars entry.1.toList, entry.2.tree)

/-- The tree of a record. -/
def Record.tree (record : Record) : Tree :=
  .object record.members true

theorem textTree_written (text : String) : (textTree text).Written :=
  .string text.toList

theorem FieldValue.tree_written (value : FieldValue) : value.tree.Written := by
  cases value with
  | text value => exact textTree_written value
  | tokens values =>
    refine .array fun item member => ?_
    obtain ⟨value, -, rfl⟩ := List.mem_map.mp member
    exact textTree_written value
  | flag value => exact .bool value
  | signed value => exact .number value
  | unsigned value => exact .number value

theorem Record.tree_written (record : Record) : record.tree.Written := by
  refine .object (fun member listed => ?_) fun member listed => ?_
  · obtain ⟨entry, -, rfl⟩ := List.mem_map.mp listed
    exact ⟨_, rfl⟩
  · obtain ⟨entry, -, rfl⟩ := List.mem_map.mp listed
    exact entry.2.tree_written

/-! ## Values -/

/-- The values that a kind can hold. -/
inductive FieldKind.Holds : FieldKind → FieldValue → Prop where
  | text (value : String) : Holds .text (.text value)
  | tokens (values : List String) : Holds .tokens (.tokens values)
  | flag (value : Bool) : Holds .flag (.flag value)
  | signed {value : Int} (range : inSignedRange 64 value = true) : Holds .signed (.signed value)
  | unsigned {value : Nat} (range : inUnsignedRange 64 value = true) :
      Holds .unsigned (.unsigned value)

namespace Json

theorem text?_ofChars (text : String) : (RawText.ofChars text.toList).text? = some text := by
  rw [RawText.text?, RawText.chars?_ofChars, Option.map_some, String.ofList_toList]

theorem found_textTree (text : String) : (textTree text).found = .ok (.text text) := by
  rw [textTree, Tree.found, text?_ofChars]

theorem found_number {i : Int} (low : -(twoTo 63 : Int) ≤ i) (high : i < twoTo 64) :
    (Tree.number (.ofInt i)).found = .ok (.integer i) := by
  rw [Tree.found, Numeral.datum?_ofInt low high]
  by_cases negative : i < 0
  · simp only [negative, if_true]
  · have same : (i.natAbs : Int) = i := by omega
    simp only [negative, if_false, same]

theorem tokensOf_textTrees (values : List String) :
    tokensOf (values.map textTree) true = .ok values := by
  induction values with
  | nil => rfl
  | cons value values ih =>
    have single : (textTree value).single .text = .ok (.text value) := by
      rw [Tree.single, found_textTree]
      rfl
    rw [List.map_cons, tokensOf, single]
    dsimp only
    rw [ih]
    rfl

/-- A value that its kind can hold is decoded as itself. -/
theorem decode_tree {kind : FieldKind} {value : FieldValue} (holds : kind.Holds value) :
    value.tree.decode kind = .ok value := by
  cases holds with
  | text value =>
    show (textTree value).single .text = _
    rw [Tree.single, found_textTree]
    rfl
  | tokens values =>
    show (tokensOf (values.map textTree) true).map FieldValue.tokens = _
    rw [tokensOf_textTrees]
    rfl
  | flag value => rfl
  | @signed value range =>
    obtain ⟨low, high⟩ : -(twoTo 63 : Int) ≤ value ∧ value < (twoTo 63 : Int) := by
      simpa [inSignedRange] using range
    have narrow : twoTo 63 < twoTo 64 := by decide
    show (Tree.number (.ofInt value)).single .signed = _
    rw [Tree.single, found_number low (by omega)]
    simp [FieldKind.ofFound, range]
  | @unsigned value range =>
    have high : value < twoTo 64 := by simpa [inUnsignedRange] using range
    show (Tree.number (.ofInt value)).single .unsigned = _
    rw [Tree.single, found_number (by omega) (by omega)]
    simp [FieldKind.ofFound, range]

end Json

/-! ## Records -/

/-- The complete records of a shape: each field is one of the shape, under a name of its own, with
a value that its kind can hold. -/
structure RecordShape.Admits (shape : RecordShape) (record : Record) : Prop where
  /-- each field is one of the shape's, and its value fits -/
  fields : ∀ entry ∈ record, ∃ field, shape.field? entry.1 = some field ∧ field.kind.Holds entry.2
  /-- no name comes twice -/
  distinct : (record.map Prod.fst).Nodup
  /-- what has to be given is given -/
  required : ∀ field ∈ shape.fields, field.required = true → record.has field.name = true

theorem RecordShape.Admits.complete {shape : RecordShape} {record : Record}
    (admits : shape.Admits record) : shape.complete record = .ok record := by
  have none_missing : shape.fields.find? (fun field => field.required && !record.has field.name) =
      none := by
    refine List.find?_eq_none.mpr fun field member missing => ?_
    simp only [Bool.and_eq_true, Bool.not_eq_true'] at missing
    exact absurd (admits.required field member missing.1) (by simp [missing.2])
  rw [RecordShape.complete, none_missing]

theorem Record.has_eq_false {record : Record} {name : String}
    (h : name ∉ record.map Prod.fst) : record.has name = false := by
  have absent : record.lookup name = none := by
    refine List.lookup_eq_none_iff.mpr fun entry member => ?_
    have : name ≠ entry.1 := fun same => h (same ▸ List.mem_map_of_mem member)
    simpa using this
  rw [Record.has, absent]
  rfl

namespace Json

/-- The members of a record are taken in one by one. -/
theorem recordOfMembers_members {shape : RecordShape} {record : Record} (given : Record)
    (fields : ∀ entry ∈ record,
      ∃ field, shape.field? entry.1 = some field ∧ field.kind.Holds entry.2)
    (distinct : ((given ++ record).map Prod.fst).Nodup) :
    recordOfMembers shape given record.members true = shape.complete (given ++ record) := by
  induction record generalizing given with
  | nil =>
    rw [List.append_nil]
    rfl
  | cons entry record ih =>
    obtain ⟨name, value⟩ := entry
    obtain ⟨field, known, holds⟩ := fields (name, value) (by simp)
    have fresh : given.has name = false := by
      refine Record.has_eq_false fun member => ?_
      rw [List.map_append, List.nodup_append] at distinct
      exact distinct.2.2 name member name (by simp) rfl
    have rest := ih (given ++ [(name, value)])
      (fun entry member => fields entry (by simp [member])) (by simpa using distinct)
    simp only [Record.members, List.map_cons, recordOfMembers, text?_ofChars, known, fresh,
      decode_tree holds]
    simpa [Record.members] using rest

/-- A text that is read as the tree of a complete record is that record. -/
theorem recordOfText_of_read {shape : RecordShape} {record : Record} (admits : shape.Admits record)
    {text : String} (reads : read text.toList = ⟨record.tree, true⟩) :
    recordOfText shape text = .ok record := by
  have decoded : record.tree.record shape = .ok record := by
    show recordOfMembers shape [] record.members true = .ok record
    exact (recordOfMembers_members [] admits.fields admits.distinct).trans
      admits.complete
  simp only [recordOfText, reads, decoded]
  rfl

end Json
end GatewayRouting
