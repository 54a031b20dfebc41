import GatewayRouting.Route

/-!
# Failures

What can go wrong, as causes, and the one place where each cause is put into words: a table
refuses a change (`StoreError`), a lookup has no answer (`LookupError`), or a cache does not do
its work (`CacheError`). A cache failure is never an answer; it is absorbed and counted.
-/

namespace GatewayRouting

/-- Why a routes file could not be loaded. -/
inductive LoadFault where
  /-- there is no file of that name -/
  | missing
  /-- the name is that of a directory -/
  | isDirectory
  /-- a part of the path before the last is a file -/
  | notDirectory
  /-- the path or a part of it is longer than a file system takes -/
  | nameTooLong
  /-- the path is none that a file can have -/
  | badName
  /-- the file is not UTF-8 text -/
  | notText
  /-- the name ends in an extension that stands for no known format -/
  | unknownExtension
  /-- the text is not a document of its format -/
  | unreadable
  /-- the document is neither a list of routes nor a map that holds one -/
  | wrongShape
  /-- any other cause, in its own words -/
  | other (message : String)
deriving DecidableEq, Repr

/-- The wording of a load fault. What is wrong with a name or inside an unreadable document is not
kept: a fixed text stands in for it. -/
def LoadFault.message : LoadFault → String
  | .missing => "No such file or directory (os error 2)"
  | .isDirectory => "Is a directory (os error 21)"
  | .notDirectory => "Not a directory (os error 20)"
  | .nameTooLong => "File name too long (os error 36)"
  | .badName => "<parser message>"
  | .notText => "stream did not contain valid UTF-8"
  | .unknownExtension => "unsupported routes file extension"
  | .unreadable => "<parser message>"
  | .wrongShape => "data did not match any variant of untagged enum RouteDocument"
  | .other message => message

/-- Why a table of routes refused a request or could not answer it. -/
inductive StoreError where
  /-- no route of that path is registered -/
  | notFound (path : String)
  /-- a route of that path is registered already -/
  | alreadyExists (path : String)
  /-- the route is not well formed -/
  | invalidRoute (path reason : String)
  /-- the table cannot be reached -/
  | unavailable (reason : String)
  /-- the routes that were to fill the table could not be loaded -/
  | load (source : String) (fault : LoadFault)
deriving DecidableEq, Repr

namespace StoreError

/-- The wording of a store error. -/
def message : StoreError → String
  | .notFound path => s!"route not found: {path}"
  | .alreadyExists path => s!"route already exists: {path}"
  | .invalidRoute path reason => "invalid route '" ++ path ++ "': " ++ reason
  | .unavailable reason => s!"repository unavailable: {reason}"
  | .load source fault => "failed to load routes from '" ++ source ++ "': " ++ fault.message

/-- Whether the error says that a route is not registered. -/
def isNotFound : StoreError → Bool
  | .notFound _ => true
  | _ => false

end StoreError

/-- Why a lookup has no route to answer with. -/
inductive LookupError where
  /-- every registered pattern was tried and none accepts the path -/
  | noMatch (path : String)
  /-- the list of routes was needed and the table failed -/
  | store (error : StoreError)
deriving DecidableEq, Repr

namespace LookupError

/-- The wording of a lookup error: a store error speaks for itself. -/
def message : LookupError → String
  | .noMatch path => "no route matches path '" ++ path ++ "'"
  | .store error => error.message

/-- Whether the lookup ended without a match. A path missing from the table is another matter. -/
def isNoMatch : LookupError → Bool
  | .noMatch _ => true
  | .store _ => false

/-- The store error behind a lookup error, if there is one. -/
def storeError? : LookupError → Option StoreError
  | .noMatch _ => none
  | .store error => some error

end LookupError

/-- Why a cache call failed. -/
inductive CacheError where
  /-- the cache cannot be reached -/
  | unavailable (reason : String)
  /-- a value could not be written or read back -/
  | serialization (key message : String)
  /-- any failure of the cache itself -/
  | backend (reason : String)
deriving DecidableEq, Repr

/-- The wording of a cache error. -/
def CacheError.message : CacheError → String
  | .unavailable reason => s!"cache unavailable: {reason}"
  | .serialization key message => "cache serialization failed for key '" ++ key ++ "': " ++ message
  | .backend reason => s!"cache backend error: {reason}"

end GatewayRouting
