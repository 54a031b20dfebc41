import GatewayRouting.Settings.Yaml.Scanner
import GatewayRouting.Settings.Yaml.Value
import GatewayRouting.Yaml.Node

/-!
# Settings in YAML

A settings file is one document. Every anchor has a number of its own, and an alias means what the
node of its number came to; inside that node itself it is void. Tags count only if they belong to
the language.
-/

namespace GatewayRouting
namespace SettingsYaml

open Yaml (Handles Node Token)

/-- What the tags of the language start with. -/
def languagePrefix : String := "tag:yaml.org,2002:"

/-- The tag of a handle with what follows it, which is a mark alone if it does not belong to the
language. Only a handle between two marks has to have been given a meaning. -/
def tagOf? (handles : Handles) (handle rest : String) : Option String :=
  let ofMeaning (meaning : String) : String :=
    if meaning = languagePrefix then meaning ++ rest else "!"
  match handles.lookup handle with
  | some meaning => some (ofMeaning meaning)
  | none =>
    if handle = "!!" then some (ofMeaning languagePrefix)
    else if handle = "" || handle = "!" then some "!"
    else none

/-- The handles after a line of directions: those of the last line count. -/
def handlesOf? (_ : Handles) : Token → Option Handles
  | .tagHandle handle meaning => some [(handle, meaning)]
  | _ => some []

/-- How settings are read. -/
def settingsDialect : Yaml.Dialect where
  numberAfter := List.length
  tag? := tagOf?
  directed? := handlesOf?
  valuesAlone := true
  endsFirst := true

/-- The work of giving nodes a value: what the nodes came to that have a number. -/
abbrev Valuing := StateT (List (Nat × Value)) Option

mutual

/-- What a node means. -/
def valueOf : Node → Valuing Value
  | .scalar _ false text => return .single (.text text)
  | .scalar none true text => return .ofPlain text
  | .scalar (some tag) true text => return .ofTagged tag text
  | .items _ items => do return .list (← valuesOfItems items)
  | .entries _ entries => do
    match Value.map? (← valuesOfEntries entries) with
    | some value => return value
    | none => failure
  | .numbered number node => do
    let value ← valueOf node
    modify ((number, value) :: ·)
    return value
  | .alias number => do return ((← get).lookup number).getD .void

/-- What items mean. -/
def valuesOfItems : List Node → Valuing (List Value)
  | [] => return []
  | item :: items => do return (← valueOf item) :: (← valuesOfItems items)

/-- What keys and values mean, in turn. -/
def valuesOfEntries : List (Node × Node) → Valuing (List Value)
  | [] => return []
  | (key, value) :: entries => do
    return (← valueOf key) :: (← valueOf value) :: (← valuesOfEntries entries)

end

end SettingsYaml

/-- Reads settings from YAML. An empty text is an empty table. -/
def Setting.ofYaml? (text : List Char) : Option Setting := do
  match ← Yaml.Node.ofTokens? SettingsYaml.settingsDialect (← SettingsYaml.tokens? text) with
  | none => return .table []
  | some root => ((← (SettingsYaml.valueOf root).run []).1).setting?

end GatewayRouting
