import GatewayRouting.Cache.Timed
import GatewayRouting.Document.Routes
import GatewayRouting.Metrics.Series
import GatewayRouting.Pattern
import GatewayRouting.Resolution.Service
import GatewayRouting.Resolution.World
import GatewayRouting.Route.Written
import GatewayRouting.Settings.Settings

/-!
# The command line

The program takes an optional method and request paths. It answers each path with the route that
it belongs to, or with a line that says that there is none, and, if a method is given, with a line
that says whether the route lets it through. The routes come from the file that the settings name;
without one there are none.

What can go wrong is found out in this order: the settings, the routes, the time that entries
last, the arguments. Then nothing can fail any more.
-/

namespace GatewayRouting
namespace CommandLine

/-- Why the program ends without having answered. -/
inductive Failure where
  /-- the settings could not be read -/
  | settings (fault : SettingsFault)
  /-- the routes could not be loaded from a file -/
  | routes (path : String) (error : StoreError)
  /-- there are no paths -/
  | usage
  /-- a lookup failed -/
  | lookup (error : LookupError)
  /-- entries are to last longer than the cache can tell -/
  | lifetime

/-- The line that says why. What a file contains is not told. -/
def Failure.message? : Failure → Option String
  | .settings _ => some "failed to load settings"
  | .routes path _ => some ("failed to load routes from " ++ path)
  | .usage => some "usage: waypoint [METHOD] <path>..."
  | .lookup error => some error.message
  | .lifetime => none

/-- The exit code. -/
def Failure.code : Failure → UInt32
  | .lifetime => 101
  | _ => 1

/-- What a run leaves behind. -/
structure Outcome where
  /-- the texts that were printed, each with the end of its line -/
  printed : List String
  /-- the published metrics, if they are printed -/
  metrics : List String := []
  /-- why the run failed, if it did -/
  failure : Option Failure := none

/-- The exit code of a run. -/
def Outcome.code (outcome : Outcome) : UInt32 :=
  match outcome.failure with
  | some failure => failure.code
  | none => 0

/-- An argument is a method if it is made of capital letters, of which there is one at least. -/
def isMethod (argument : String) : Bool :=
  !argument.isEmpty && argument.toList.all Char.isUpper

/-- The arguments as an optional method and paths. -/
def request? : List String → Option (Option String × List String)
  | [] => none
  | first :: rest =>
    if isMethod first then if rest.isEmpty then none else some (some first, rest)
    else some (none, first :: rest)

/-- The longest time that an entry can last, in seconds: a thousand years. -/
def longestLifetime : UInt64 := 1000 * 365 * 24 * 3600

/-- The routes that the settings ask for. -/
def table (read : RawPath → Except LoadFault (List UInt8)) (settings : Settings) :
    Except Failure Table :=
  match settings.routesFile with
  | none => .ok {}
  | some path =>
    match Document.loadTable read (Utf8.encode path) with
    | .ok table => .ok table
    | .error error => .error (.routes path error)

/-- The surroundings of the service at the start. -/
def world (settings : Settings) (table : Table) : World TimedCache :=
  .start table (.empty settings.cacheCapacity)
    (.empty settings.memoCapacity.toNat (settings.ttlSeconds.toNat * nanosecondsPerSecond))

/-- How the program's requests are answered. -/
def handler : Handler (World TimedCache) :=
  World.handler timedCache Pattern.accepts

/-- Whether a method is let through, in words. -/
def verdict (method path : String) (allowed : Bool) : String :=
  method ++ " " ++ path ++ " -> " ++ (if allowed then "allowed" else "denied")

/-- What is printed for a path. -/
def answer (options : Options) (method : Option String) (path : String) :
    Program (Except LookupError (List String)) := do
  match ← Service.resolve options path with
  | .error error => return .ok [path ++ ": " ++ error.message]
  | .ok route =>
    match method with
    | none => return .ok [route.prettyJson]
    | some method =>
      match ← Service.permits options path method with
      | .error error => return .error error
      | .ok allowed => return .ok [route.prettyJson, verdict method path allowed]

/-- What is printed for paths, up to the first one that fails. -/
def answers (options : Options) (method : Option String) :
    List String → Program (List String × Option LookupError)
  | [] => return ([], none)
  | path :: paths => do
    match ← answer options method path with
    | .error error => return ([], some error)
    | .ok lines =>
      let (more, failure) ← answers options method paths
      return (lines ++ more, failure)

/-- A run that fails before anything is printed. -/
def fail (failure : Failure) : Outcome :=
  { printed := [], failure := some failure }

/-- Runs the program with settings and a table. -/
def serve (settings : Settings) (table : Table) (arguments : List String) : Outcome :=
  if longestLifetime < settings.ttlSeconds then fail .lifetime
  else
    match request? arguments with
    | none => fail .usage
    | some (method, paths) =>
      let ((printed, failure), world) :=
        (answers settings.options method paths).run handler (world settings table)
      match failure with
      | some error => { printed, failure := some (.lookup error) }
      | none =>
        let observed := world.observed ++ world.cache.observed
        { printed
          metrics :=
            if settings.metricsEnabled && settings.metricsOnExit then exposition observed else [] }

/-- Runs the program; `read` gives the bytes at a path. -/
def run (read : RawPath → Except LoadFault (List UInt8)) (environment : List (String × String))
    (arguments : List String) : Outcome :=
  match Settings.load read environment with
  | .error fault => fail (.settings fault)
  | .ok settings =>
    match table read settings with
    | .error failure => fail failure
    | .ok table => serve settings table arguments

end CommandLine
end GatewayRouting
