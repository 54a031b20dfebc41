import GatewayRouting.Document.Files
import GatewayRouting.Document.Format
import GatewayRouting.Settings.Json
import GatewayRouting.Settings.Yaml
import GatewayRouting.Toml.Document

/-!
# The settings file

A settings file is asked for by a name. If there is a file of exactly that name, its extension has
to be a known one; otherwise the known extensions are put behind the name, one after the other.
Without a file there are no settings, and that is no fault. A file that is there has to be
readable, and has to be a table.
-/

namespace GatewayRouting
namespace Setting

/-- The formats of settings files. -/
inductive FileFormat where
  /-- TOML -/
  | toml
  /-- JSON -/
  | json
  /-- YAML -/
  | yaml
deriving DecidableEq, Repr

/-- The known extensions in the order in which they are tried. -/
def extensions : List (String × FileFormat) :=
  [("toml", .toml), ("json", .json), ("yaml", .yaml), ("yml", .yaml)]

/-- The format of a file by its extension, which is given exactly. -/
def FileFormat.ofPath? (path : RawPath) : Option FileFormat :=
  (textExtension? path).bind fun extension => extensions.lookup extension

/-- A path with an extension put behind it. In a directory the file has a name of its own. -/
def withExtension (path extension : String) : String :=
  if path = "" || path.endsWith "/" then path ++ ".placeholder." ++ extension
  else path ++ "." ++ extension

/-- The paths at which a settings file of a name can be. -/
def candidates (name : String) : List String :=
  name :: extensions.map fun extension => withExtension name extension.1

/-- The file of a name and its format. -/
def find? (read : RawPath → Except LoadFault (List UInt8)) (name : String) :
    Option (List UInt8 × FileFormat) :=
  let path := Utf8.encode name
  match read path with
  | .ok bytes => (FileFormat.ofPath? path).map fun format => (bytes, format)
  | .error _ =>
    extensions.findSome? fun extension =>
      (read (Utf8.encode (withExtension name extension.1))).toOption.map fun bytes =>
        (bytes, extension.2)

/-- The bytes of a file without the mark that may stand at its start. -/
def withoutMark : List UInt8 → List UInt8
  | 0xEF :: 0xBB :: 0xBF :: bytes => bytes
  | bytes => bytes

/-- Reads a text in a format. -/
def FileFormat.read? : FileFormat → List Char → Option Setting
  | .toml => Toml.read?
  | .json => ofJson?
  | .yaml => ofYaml?

/-- The settings in the file of a name. The names at the top of a file are places: points and
brackets in them lead further in. -/
def ofFile (read : RawPath → Except LoadFault (List UInt8)) (name : String) :
    Except SettingsFault Setting :=
  match find? read name with
  | none => .ok (.table [])
  | some (bytes, format) =>
    match format.read? (Utf8.decodeLossy (withoutMark bytes)).toList with
    | some (.table entries) =>
      .ok (entries.foldl (fun tree entry => entry.2.put (placeOfText entry.1) tree) (.table []))
    | _ => .error .unreadable

end Setting
end GatewayRouting
