import GatewayRouting.Text.Utf8

/-!
# Paths of files

A path is made of bytes, and they need not be a text. Slashes part it.

The *name* of a file is the last part of its path, slashes and dots that stand alone at the end
left aside. A name has an extension if it has a dot that is not its first byte; the extension is
what follows the last one.
-/

namespace GatewayRouting

/-- A path as its bytes. -/
abbrev RawPath := List UInt8

/-- The byte that parts a path. -/
def RawPath.slash : UInt8 := 0x2F

/-- The byte in front of an extension. -/
def RawPath.dot : UInt8 := 0x2E

open RawPath

/-- The parts of a path that are not empty. -/
def pathParts (path : RawPath) : List (List UInt8) :=
  (path.splitOn slash).filter (· ≠ [])

/-- The name of the file at a path: its last part that is not a single dot. A path that ends in two
dots, or that has no such part, names no file. -/
def fileName? (path : RawPath) : Option (List UInt8) :=
  match (pathParts path).reverse.find? (· ≠ [dot]) with
  | none => none
  | some name => if name = [dot, dot] then none else some name

/-- The extension of a file's name. -/
def extensionOf? (name : List UInt8) : Option (List UInt8) :=
  let extension := (name.reverse.takeWhile (· ≠ dot)).reverse
  if extension.length + 1 < name.length then some extension else none

/-- The extension of the file at a path. -/
def extension? (path : RawPath) : Option (List UInt8) :=
  (fileName? path).bind extensionOf?

/-- The extension of the file at a path as a text, if it has one and that is a text. -/
def textExtension? (path : RawPath) : Option String :=
  (extension? path).bind Utf8.decode?

end GatewayRouting
