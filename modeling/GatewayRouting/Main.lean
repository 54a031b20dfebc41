import GatewayRouting.CommandLine

/-!
# The program

What is done outside of the library: the environment and the files are read, the answers are
printed, and a failure is told on standard error. Which files are wanted is known beforehand, so
they are read first and everything after that is computed.
-/

namespace GatewayRouting

/-- The variables in a block of them, in which every one ends with a zero byte. -/
def environmentOfBytes (bytes : List UInt8) : List (String × String) :=
  (bytes.splitOn 0).filterMap fun entry =>
    match entry.span (· ≠ '='.toUInt8) with
    | (_, []) => none
    | (name, _ :: value) => some (Utf8.decodeLossy name, Utf8.decodeLossy value)

/-- What a failure to read a file means. -/
def faultOfFailure : IO.Error → LoadFault
  | .noFileOrDirectory .. => .missing
  | .inappropriateType _ code _ => if code = 21 then .isDirectory else .notDirectory
  | .invalidArgument _ code _ => if code = 36 then .nameTooLong else .badName
  | failure => .other (toString failure)

/-- What is found at paths that are texts. -/
def readAll (paths : List String) : IO (List (RawPath × Except LoadFault (List UInt8))) :=
  paths.mapM fun (path : String) => do
    try
      let bytes ← IO.FS.readBinFile path
      return (Utf8.encode path, .ok bytes.toList)
    catch failure => return (Utf8.encode path, .error (faultOfFailure failure))

/-- What was found at a path. -/
def readFrom (found : List (RawPath × Except LoadFault (List UInt8))) (path : RawPath) :
    Except LoadFault (List UInt8) :=
  (found.lookup path).getD (.error .missing)

end GatewayRouting

open GatewayRouting in
/-- Answers the requests in the arguments. -/
def main (arguments : List String) : IO UInt32 := do
  let environment := environmentOfBytes (← IO.FS.readBinFile "/proc/self/environ").toList
  let found ← readAll (Setting.candidates Settings.defaultName)
  let found ← match Settings.load (readFrom found) environment with
    | .ok settings => pure (found ++ (← readAll settings.routesFile.toList))
    | .error _ => pure found
  let outcome := CommandLine.run (readFrom found) environment arguments
  outcome.printed.forM IO.println
  outcome.metrics.forM IO.println
  match outcome.failure.bind CommandLine.Failure.message? with
  | some message => IO.eprintln ("Error: " ++ message)
  | none => pure ()
  return outcome.code
