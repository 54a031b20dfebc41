import GatewayRouting.Document.Path
import GatewayRouting.Failure

/-!
# Files

A directory as the names of what is in it, at any depth, each with its bytes, or with nothing if
it is a directory. A path is walked part by part from there: a part can only be looked for in a
directory, a single dot stays, and two dots go back. What lies outside is taken for empty
directories. A path has less than 4096 bytes and no zero byte, and a part of it that is looked
for has at most 255 bytes.
-/

namespace GatewayRouting

/-- Files and directories by their paths, written as lists of parts. -/
abbrev Files := List (List (List UInt8) × Option (List UInt8))

/-- What is found at a place. -/
inductive FoundFile where
  /-- a file with these bytes -/
  | file (bytes : List UInt8)
  /-- a directory -/
  | directory
  /-- nothing -/
  | nothing

namespace Files

open RawPath

/-- What is at a place inside the directory. A place that others are inside of is a directory. -/
def find (files : Files) (place : List (List UInt8)) : FoundFile :=
  if place.isEmpty then .directory
  else
    match files.lookup place with
    | some (some bytes) => .file bytes
    | some none => .directory
    | none => if files.any fun file => place.isPrefixOf file.1 then .directory else .nothing

/-- How many bytes a part of a path may have. -/
def longestPart : Nat := 255

/-- How many bytes a path may have. -/
def longestPath : Nat := 4095

/-- Walks on from a place; `above` counts the directories by which it lies outside. -/
def walk (files : Files) :
    List (List UInt8) → Nat → List (List UInt8) → Except LoadFault FoundFile
  | place, above, [] => .ok (if above = 0 then find files place else .directory)
  | place, above, part :: parts =>
    let here := if above = 0 then find files place else .directory
    match here with
    | .nothing => .error .missing
    | .file _ => .error .notDirectory
    | .directory =>
      if part = [] || part = [dot] then walk files place above parts
      else if part = [dot, dot] then
        if place.isEmpty then walk files [] (above + 1) parts
        else walk files place.dropLast above parts
      else if longestPart < part.length then .error .nameTooLong
      else if above = 0 then walk files (place ++ [part]) 0 parts
      else .error .missing

/-- The bytes of the file at a path. -/
def read (files : Files) (path : RawPath) : Except LoadFault (List UInt8) :=
  let found : Except LoadFault FoundFile :=
    match path with
    | [] => .error .missing
    | first :: rest =>
      if path.contains 0 then .error .badName
      else if longestPath < path.length then .error .nameTooLong
      else if first = slash then walk files [] 1 (rest.splitOn slash)
      else walk files [] 0 (path.splitOn slash)
  match found with
  | .ok (.file bytes) => .ok bytes
  | .ok .directory => .error .isDirectory
  | .ok .nothing => .error .missing
  | .error fault => .error fault

end Files

/-- The text of a file's bytes. -/
def textOfBytes (bytes : List UInt8) : Except LoadFault String :=
  match Utf8.decode? bytes with
  | some text => .ok text
  | none => .error .notText

end GatewayRouting
