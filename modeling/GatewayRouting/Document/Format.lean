import GatewayRouting.Document.Path
import GatewayRouting.Text.Blank
import GatewayRouting.Text.Digits

/-!
# The format of a routes file

The extension of a file's name decides its format, in any letter case. A file without an extension
is recognised by its first character that is not blank: a bracket or a brace opens JSON, and
everything else is YAML. An extension that stands for neither format is refused.

The path is bytes, and an extension that is not a text is looked at as if there were none: such a
file is not refused but recognised by what is in it.
-/

namespace GatewayRouting

/-- The formats of routes files. -/
inductive Format where
  /-- YAML -/
  | yaml
  /-- JSON -/
  | json
deriving DecidableEq, Repr

namespace Format

/-- The format that an extension stands for. -/
def ofExtension? (extension : String) : Option Format :=
  match String.ofList (asciiLower extension.toList) with
  | "yml" => some .yaml
  | "yaml" => some .yaml
  | "json" => some .json
  | _ => none

/-- The format that a text looks like. -/
def ofText (text : List Char) : Format :=
  match trimStart text with
  | '{' :: _ => .json
  | '[' :: _ => .json
  | _ => .yaml

/-- The format of a file, if it has one. -/
def detect? (path : RawPath) (text : String) : Option Format :=
  match textExtension? path with
  | some extension => ofExtension? extension
  | none => some (ofText text.toList)

end Format
end GatewayRouting
