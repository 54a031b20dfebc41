import GatewayRouting.Double.Decimal
import GatewayRouting.Text.Quoted

/-!
# Records

Routes and options are written down as records: a fixed list of named fields, each of one kind,
some of which have to be given. The fields come by name, in any order, or as a sequence in the
order of declaration, where fields at the end may be left out.

What is read is a `Record`, the values that were given under the names of their fields. This
module says what fits a field (`FieldKind.ofFound`) and words the faults; how a document shows its
fields is the business of the document's format.
-/

namespace GatewayRouting

/-! ## Fields -/

/-- What a field can hold. -/
inductive FieldKind where
  /-- a text -/
  | text
  /-- a set of tokens -/
  | tokens
  /-- a truth value -/
  | flag
  /-- a signed 64-bit integer -/
  | signed
  /-- an unsigned 64-bit integer -/
  | unsigned
deriving DecidableEq, Repr

/-- How a message names a kind. -/
def FieldKind.title : FieldKind → String
  | .text => "a string"
  | .tokens => "a set"
  | .flag => "a boolean"
  | .signed => "i64"
  | .unsigned => "u64"

/-- A field of a record. -/
structure Field where
  /-- its name -/
  name : String
  /-- what it holds -/
  kind : FieldKind
  /-- whether it has to be given -/
  required : Bool := false
deriving DecidableEq, Repr

/-- A sort of record. -/
structure RecordShape where
  /-- how a message names it -/
  title : String
  /-- the fields in the order of declaration -/
  fields : List Field
deriving DecidableEq, Repr

/-- The field of a name. -/
def RecordShape.field? (shape : RecordShape) (name : String) : Option Field :=
  shape.fields.find? (·.name == name)

/-! ## Values -/

/-- A value of a field. -/
inductive FieldValue where
  /-- a text -/
  | text (value : String)
  /-- tokens in the order in which they were given -/
  | tokens (values : List String)
  /-- a truth value -/
  | flag (value : Bool)
  /-- an integer of the signed range -/
  | signed (value : Int)
  /-- an integer of the unsigned range -/
  | unsigned (value : Nat)
deriving DecidableEq, Repr

/-- The values that were given, under the names of their fields. -/
abbrev Record := List (String × FieldValue)

namespace Record

/-- Whether a field was given. -/
def has (record : Record) (name : String) : Bool :=
  (record.lookup name).isSome

/-- The text of a field, or what stands for it. -/
def text (record : Record) (name : String) (otherwise : String) : String :=
  match record.lookup name with
  | some (.text value) => value
  | _ => otherwise

/-- The tokens of a field; none if it was not given. -/
def tokens (record : Record) (name : String) : List String :=
  match record.lookup name with
  | some (.tokens values) => values
  | _ => []

/-- The truth value of a field, or what stands for it. -/
def flag (record : Record) (name : String) (otherwise : Bool) : Bool :=
  match record.lookup name with
  | some (.flag value) => value
  | _ => otherwise

/-- The signed integer of a field, or what stands for it. -/
def signed (record : Record) (name : String) (otherwise : Int64) : Int64 :=
  match record.lookup name with
  | some (.signed value) => Int64.ofInt value
  | _ => otherwise

/-- The unsigned integer of a field, or what stands for it. -/
def unsigned (record : Record) (name : String) (otherwise : UInt64) : UInt64 :=
  match record.lookup name with
  | some (.unsigned value) => UInt64.ofNat value
  | _ => otherwise

end Record

/-! ## Faults -/

/-- What a document holds in a place, as far as it needs to be looked at. -/
inductive Found where
  /-- nothing, as a value -/
  | nothing
  /-- a truth value -/
  | flag (value : Bool)
  /-- a whole number -/
  | integer (value : Int)
  /-- any other number -/
  | real (value : Double)
  /-- a text -/
  | text (value : String)
  /-- a sequence of anything -/
  | sequence
  /-- a map of anything -/
  | map
deriving DecidableEq, Repr

/-- A text between the marks that messages put around numbers and names. -/
def marked (text : String) : String :=
  "\x60" ++ text ++ "\x60"

/-- How a message names what was found. -/
def Found.title : Found → String
  | .nothing => "null"
  | .flag value => "boolean " ++ marked (if value then "true" else "false")
  | .integer value => "integer " ++ marked (String.ofList (decimalText value))
  | .real value => "floating point " ++ marked (String.ofList value.shortText)
  | .text value => "string " ++ quoted value
  | .sequence => "sequence"
  | .map => "map"

/-- Why a text is no record of a shape. -/
inductive RecordFault where
  /-- the text is not a document of its format, or the sequence has too many items -/
  | malformed
  /-- something of another type was found -/
  | wrongType (found : Found) (expected : String)
  /-- an integer outside the range of its kind was found -/
  | outOfRange (value : Int) (expected : String)
  /-- a required field was not given -/
  | missing (name : String)
  /-- a field was given twice -/
  | repeated (name : String)
  /-- a sequence ended before a required field -/
  | tooShort (length : Nat) (shape : RecordShape)
deriving DecidableEq, Repr

/-- The wording of a fault; text that is no document at all has none. -/
def RecordFault.message? : RecordFault → Option String
  | .malformed => none
  | .wrongType found expected => some ("invalid type: " ++ found.title ++ ", expected " ++ expected)
  | .outOfRange value expected =>
    some ("invalid value: " ++ (Found.integer value).title ++ ", expected " ++ expected)
  | .missing name => some ("missing field " ++ marked name)
  | .repeated name => some ("duplicate field " ++ marked name)
  | .tooShort length shape =>
    some ("invalid length " ++ String.ofList (decimalDigits length) ++
      ", expected " ++ shape.title ++
      " with " ++ String.ofList (decimalDigits shape.fields.length) ++ " elements")

/-! ## What fits -/

/-- The value of a field of a kind that is no sequence. -/
def FieldKind.ofFound : FieldKind → Found → Except RecordFault FieldValue
  | .text, .text value => .ok (.text value)
  | .flag, .flag value => .ok (.flag value)
  | .signed, .integer value =>
    if inSignedRange 64 value then .ok (.signed value)
    else .error (.outOfRange value FieldKind.signed.title)
  | .unsigned, .integer value =>
    if 0 ≤ value ∧ inUnsignedRange 64 value.toNat then .ok (.unsigned value.toNat)
    else .error (.outOfRange value FieldKind.unsigned.title)
  | kind, found => .error (.wrongType found kind.title)

/-- A record is complete if every required field was given; otherwise the first one that was not
is missing. -/
def RecordShape.complete (shape : RecordShape) (record : Record) : Except RecordFault Record :=
  match shape.fields.find? fun field => field.required && !record.has field.name with
  | some field => .error (.missing field.name)
  | none => .ok record

end GatewayRouting
