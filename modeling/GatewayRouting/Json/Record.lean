import GatewayRouting.Json.Tree
import GatewayRouting.Record

/-!
# Records in JSON

A record is an object with its fields as members, or an array of its fields. The text is judged
from left to right, and the first fault decides. A member that is no field is skipped: it may hold
anything that can be read to its end. A repeated field is refused where its name stands, before
its value is looked at. Fields that are missing show only at the end.
-/

namespace GatewayRouting
namespace Json

/-- What a tree is, as far as it needs to be read to tell. An array or object is known by its first
bracket. -/
def Tree.found : Tree → Except RecordFault Found
  | .null => .ok .nothing
  | .bool value => .ok (.flag value)
  | .number numeral =>
    match numeral.datum? with
    | some (.unsigned value) => .ok (.integer value)
    | some (.signed value) => .ok (.integer value)
    | some (.real value) => .ok (.real value)
    | _ => .error .malformed
  | .string raw =>
    match raw.text? with
    | some text => .ok (.text text)
    | none => .error .malformed
  | .array .. => .ok .sequence
  | .object .. => .ok .map
  | .broken => .error .malformed

/-- The value of a field that is no sequence. -/
def Tree.single (kind : FieldKind) (tree : Tree) : Except RecordFault FieldValue :=
  match tree.found with
  | .ok found => kind.ofFound found
  | .error fault => .error fault

/-- The end of an array or object, which has to have been read. -/
def closing (closed : Bool) {α : Type} (value : α) : Except RecordFault α :=
  if closed then .ok value else .error .malformed

/-- The items of an array as tokens. -/
def tokensOf : List Tree → Bool → Except RecordFault (List String)
  | [], closed => closing closed []
  | item :: items, closed =>
    match item.single .text with
    | .ok (.text token) => (tokensOf items closed).map (token :: ·)
    | .ok _ => .error .malformed
    | .error fault => .error fault

/-- The value of a field. -/
def Tree.decode (kind : FieldKind) (tree : Tree) : Except RecordFault FieldValue :=
  match kind, tree with
  | .tokens, .array items closed => (tokensOf items closed).map .tokens
  | kind, tree => tree.single kind

/-- The members of an object, after those that have been `given`. -/
def recordOfMembers (shape : RecordShape) (given : Record) :
    List (RawText × Tree) → Bool → Except RecordFault Record
  | [], closed => (closing closed given).bind shape.complete
  | (name, value) :: members, closed =>
    match name.text? with
    | none => .error .malformed
    | some name =>
      match shape.field? name with
      | none =>
        if value.isWhole then recordOfMembers shape given members closed else .error .malformed
      | some field =>
        if given.has name then .error (.repeated name)
        else
          match value.decode field.kind with
          | .ok value => recordOfMembers shape (given ++ [(name, value)]) members closed
          | .error fault => .error fault

/-- The items of an array, for the fields that are still due. -/
def recordOfItems (shape : RecordShape) : List Field → List Tree → Bool → Except RecordFault Record
  | [], [], closed => closing closed []
  | [], _ :: _, _ => .error .malformed
  | field :: fields, [], closed =>
    match closing closed () with
    | .error fault => .error fault
    | .ok () =>
      if field.required then .error (.tooShort (shape.fields.length - (fields.length + 1)) shape)
      else recordOfItems shape fields [] closed
  | field :: fields, item :: items, closed =>
    match item.decode field.kind with
    | .ok value => (recordOfItems shape fields items closed).map ((field.name, value) :: ·)
    | .error fault => .error fault

/-- The record that a tree is. -/
def Tree.record (shape : RecordShape) : Tree → Except RecordFault Record
  | .object members closed => recordOfMembers shape [] members closed
  | .array items closed => recordOfItems shape shape.fields items closed
  | tree =>
    match tree.found with
    | .ok found => .error (.wrongType found shape.title)
    | .error fault => .error fault

/-- The record that a text is: nothing may follow it. -/
def recordOfText (shape : RecordShape) (text : String) : Except RecordFault Record :=
  let reading := read text.toList
  match reading.root.record shape with
  | .ok record => closing reading.isAll record
  | .error fault => .error fault

end Json
end GatewayRouting
