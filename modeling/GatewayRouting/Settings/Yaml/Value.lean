import GatewayRouting.Settings.Setting
import GatewayRouting.Yaml.Plain

/-!
# Values in settings

What the nodes of a settings file mean, before it is known that all of it can be a setting. Plain
scalars are read more narrowly than in a routes file: whole numbers may start with zeros, and have
64 bits. The words for infinity and for what is not a number are numbers, but stand for no setting.
A scalar that is not spelled as its tag says is void. A void value is nothing as a setting, but as
a key it is passed over: what comes behind it takes its place.
-/

namespace GatewayRouting
namespace SettingsYaml

/-- What a node means. -/
inductive Value where
  /-- a single setting -/
  | single (setting : Setting)
  /-- a number that stands for no setting -/
  | boundless
  /-- no value -/
  | void
  /-- items -/
  | list (items : List Value)
  /-- keys with values, in order; no key comes twice -/
  | map (entries : List (Value × Value))
deriving Inhabited, BEq

/-! ## Scalars -/

/-- A whole number: with a radix in front, or decimal with a sign. -/
def wholeOfPlain? (text : List Char) : Option Int :=
  let inRange (value : Option Int) : Option Int := value.filter (inSignedRange 64)
  let marked := match text with
    | '0' :: 'x' :: digits => inRange (intOfText? 16 digits)
    | '0' :: 'o' :: digits => inRange (intOfText? 8 digits)
    | '+' :: rest => inRange (intOfText? 10 rest)
    | _ => none
  match marked with
  | some value => some value
  | none => inRange (intOfText? 10 text)

/-- Whether a scalar is one of the words for numbers that stand for no setting. -/
def isBoundlessWord (text : String) : Bool :=
  [".inf", ".Inf", ".INF", "+.inf", "+.Inf", "+.INF", "-.inf", "-.Inf", "-.INF",
    ".nan", ".NaN", ".NAN"].contains text

/-- A number: one of the words, or spelled with a digit at least. -/
def numberOfPlain? (text : String) : Option Value :=
  if isBoundlessWord text then some .boundless
  else if text.toList.any isDecimalDigit then
    (Double.ofText? text.toList).map fun value => .single (.real value)
  else none

/-- Whether a scalar is one of the words for nothing. -/
def isNothingWord (text : String) : Bool :=
  text = "~" || text = "null"

/-- What a plain scalar means. -/
def Value.ofPlain (text : String) : Value :=
  match wholeOfPlain? text.toList with
  | some value => .single (.integer value)
  | none =>
    if text = "" || isNothingWord text then .single .nothing
    else
      match Yaml.boolOfWord? text with
      | some value => .single (.flag value)
      | none => (numberOfPlain? text).getD (.single (.text text))

/-- What a plain scalar with a tag means. -/
def Value.ofTagged (tag text : String) : Value :=
  match tag with
  | "tag:yaml.org,2002:bool" =>
    (Yaml.boolOfWord? text).elim .void fun value => .single (.flag value)
  | "tag:yaml.org,2002:int" =>
    (int64OfText? text.toList).elim .void fun value => .single (.integer value)
  | "tag:yaml.org,2002:float" => (numberOfPlain? text).getD .void
  | "tag:yaml.org,2002:null" => if isNothingWord text then .single .nothing else .void
  | _ => .single (.text text)

/-! ## Maps -/

/-- The entries of a map by what stands in it in turn, keys and values, behind a key if there is
one; a void key is passed over, and a key without a value is left out. -/
def entriesOf : Option Value → List Value → List (Value × Value)
  | _, [] => []
  | some key, value :: values => (key, value) :: entriesOf none values
  | none, .void :: values => entriesOf none values
  | none, key :: values => entriesOf (some key) values

/-- Whether a key comes twice. -/
def hasRepeatedKey : List (Value × Value) → Bool
  | [] => false
  | (key, _) :: entries => entries.any (fun entry => entry.1 == key) || hasRepeatedKey entries

/-- The map in which values stand in turn, unless a key comes twice. -/
def Value.map? (values : List Value) : Option Value :=
  let entries := entriesOf none values
  if hasRepeatedKey entries then none else some (.map entries)

/-- The name that a key is, if it is a text or a whole number. -/
def Value.name? : Value → Option String
  | .single (.text name) => some name
  | .single (.integer value) => some (String.ofList (decimalText value))
  | _ => none

/-! ## Settings -/

mutual

/-- The setting that a value stands for. -/
def Value.setting? : Value → Option Setting
  | .single setting => some setting
  | .boundless => none
  | .void => some .nothing
  | .list items => (settingsOfItems? items).map .list
  | .map entries => (settingsOfEntries? entries).map Setting.ofEntries

/-- The settings of items. -/
def settingsOfItems? : List Value → Option (List Setting)
  | [] => some []
  | item :: items => do return (← item.setting?) :: (← settingsOfItems? items)

/-- The named settings of entries, all of whose keys have to be names. -/
def settingsOfEntries? : List (Value × Value) → Option (List (String × Setting))
  | [] => some []
  | (key, value) :: entries => do
    return (← key.name?, ← value.setting?) :: (← settingsOfEntries? entries)

end

end SettingsYaml
end GatewayRouting
