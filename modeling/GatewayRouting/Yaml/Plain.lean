import GatewayRouting.Datum
import GatewayRouting.Double.Decimal
import GatewayRouting.Text.Digits

/-!
# What plain scalars mean

A scalar that is written plainly can be more than a text: nothing, a truth value, a whole number
or another number, by its spelling alone. Whole numbers are decimal, or have a radix in front.
Digits that start with a zero are a text. A whole number that does not fit into 64 bits but into
128 bits means nothing that a document may hold.
-/

namespace GatewayRouting
namespace Yaml

/-- Whether a scalar is one of the words for nothing. -/
def isNullWord (text : String) : Bool :=
  text = "~" || text = "null" || text = "Null" || text = "NULL"

/-- The truth value that a scalar is. -/
def boolOfWord? (text : String) : Option Bool :=
  if text = "true" || text = "True" || text = "TRUE" then some true
  else if text = "false" || text = "False" || text = "FALSE" then some false
  else none

/-- Digits that start with a zero and are more than one, behind an optional sign. -/
def hasLeadingZero (text : List Char) : Bool :=
  let digits := match text with
    | '-' :: rest => rest
    | '+' :: rest => rest
    | rest => rest
  1 < digits.length && digits.head? == some '0' && digits.all isDecimalDigit

/-- A radix in front of digits, and the digits. -/
def radixAndDigits? : List Char → Option (Nat × List Char)
  | '0' :: 'x' :: digits => some (16, digits)
  | '0' :: 'o' :: digits => some (8, digits)
  | '0' :: 'b' :: digits => some (2, digits)
  | _ => none

/-- A whole number without a minus. -/
def unsignedOfPlain? (text : List Char) : Option Nat :=
  let digits := match text with
    | '+' :: rest => rest
    | rest => rest
  match (radixAndDigits? digits).bind fun (radix, digits) => natOfText? radix digits with
  | some n => some n
  | none => if hasLeadingZero text then none else natOfText? 10 digits

/-- A whole number with a minus. -/
def signedOfPlain? : List Char → Option Int
  | '-' :: digits =>
    match (radixAndDigits? digits).bind fun (radix, digits) => natOfText? radix digits with
    | some n => some (-n)
    | none =>
      if hasLeadingZero ('-' :: digits) then none
      else (natOfText? 10 digits).map fun n => -(n : Int)
  | _ => none

/-- What a whole number comes to. -/
inductive Whole where
  /-- a number that a document may hold -/
  | fits (datum : Datum)
  /-- a number that is too large for that -/
  | tooLarge

/-- The whole number that a scalar is. -/
def wholeOfPlain? (text : List Char) : Option Whole :=
  match unsignedOfPlain? text, signedOfPlain? text with
  | some n, _ =>
    if inUnsignedRange 64 n then some (.fits (.unsigned n))
    else if inUnsignedRange 128 n then some .tooLarge
    else none
  | none, some i =>
    if inSignedRange 64 i then some (.fits (.signed i))
    else if inSignedRange 128 i then some .tooLarge
    else none
  | none, none => none

/-- The number that a scalar is, with a point, an exponent or one of the words. -/
def realOfPlain? (text : List Char) : Option Double :=
  match String.ofList text with
  | ".nan" => some .nan
  | ".NaN" => some .nan
  | ".NAN" => some .nan
  | "-.inf" => some (.infinite true)
  | "-.Inf" => some (.infinite true)
  | "-.INF" => some (.infinite true)
  | _ =>
    let (signed, magnitude) := match text with
      | '+' :: rest => (true, rest)
      | rest => (false, rest)
    if signed && magnitude.head?.any (fun c => c = '+' || c = '-') then none
    else
      match String.ofList magnitude with
      | ".inf" => some (.infinite false)
      | ".Inf" => some (.infinite false)
      | ".INF" => some (.infinite false)
      | _ => (Double.ofText? magnitude).filter Double.isFinite

/-- What a plain scalar means; a number that is too large means nothing. -/
def datumOfPlain? (text : String) : Option Datum :=
  if text = "" || isNullWord text then some .null
  else
    match boolOfWord? text with
    | some b => some (.bool b)
    | none =>
      match wholeOfPlain? text.toList with
      | some (.fits datum) => some datum
      | some .tooLarge => none
      | none =>
        if hasLeadingZero text.toList then some (.text text)
        else
          match realOfPlain? text.toList with
          | some d => some (.real d)
          | none => some (.text text)

/-- Whether a tag is one's own, and not one of the language. -/
def isOwnTag (tag : String) : Bool :=
  tag.toList.head? == some '!'

/-- What a scalar with a tag means. A tag of one's own means nothing here; of the tags of the
language those for values other than texts decide how the text has to be spelled. -/
def datumOfTagged? (tag text : String) : Option Datum :=
  match tag with
  | "tag:yaml.org,2002:bool" => (boolOfWord? text).map .bool
  | "tag:yaml.org,2002:int" =>
    match wholeOfPlain? text.toList with
    | some (.fits datum) => some datum
    | _ => none
  | "tag:yaml.org,2002:float" => (realOfPlain? text.toList).map .real
  | "tag:yaml.org,2002:null" => if isNullWord text then some .null else none
  | _ => if isOwnTag tag then none else some (.text text)

end Yaml
end GatewayRouting
