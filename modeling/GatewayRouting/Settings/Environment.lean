import GatewayRouting.Settings.Setting

/-!
# Settings from the environment

A variable whose name starts with a fixed prefix, in any letter case, sets one value. The rest of
its name says where: two underscores separate the names of the section and of the value. What the
variable holds is read as a truth value, a whole number, a number or else a text.
-/

namespace GatewayRouting
namespace Setting

/-- How the names of variables start that set values. -/
def variablePrefix : List Char := "waypoint__".toList

/-- Two underscores become a point. -/
def pointed : List Char → List Char
  | '_' :: '_' :: rest => '.' :: pointed rest
  | c :: rest => c :: pointed rest
  | [] => []

/-- The place that a variable sets, if it sets one. Names of settings are ASCII, so that is all
that needs to be put in lower case. -/
def placeOfVariable? (name : String) : Option (List Step) :=
  let name := asciiLower name.toList
  if variablePrefix.isPrefixOf name then
    some (placeOfText (String.ofList (pointed (name.drop variablePrefix.length))))
  else none

/-- What a variable holds. -/
def ofVariable (value : String) : Setting :=
  let word := lower value
  if word = "true" then .flag true
  else if word = "false" then .flag false
  else
    match int64OfText? value.toList with
    | some i => .integer i
    | none =>
      match Double.ofText? value.toList with
      | some d => .real d
      | none => .text value

/-- Puts the variables of an environment over a tree, one after the other. -/
def withEnvironment (tree : Setting) (environment : List (String × String)) : Setting :=
  environment.foldl
    (fun tree entry =>
      match placeOfVariable? entry.1 with
      | some place => (ofVariable entry.2).put place tree
      | none => tree)
    tree

end Setting
end GatewayRouting
