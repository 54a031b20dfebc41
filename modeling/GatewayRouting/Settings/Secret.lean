import GatewayRouting.Resolution.Description

/-!
# The signing secret

The secret is the first one that is given and not empty: in either of two environment variables,
in the settings, or else a fixed one that is good for development only. A description never shows
the secret itself, only where it was found.
-/

namespace GatewayRouting

/-- Where a secret was found. -/
inductive SecretSource where
  /-- in an environment variable -/
  | environment (name : String)
  /-- in the settings -/
  | settings
  /-- nowhere; it is the fixed one -/
  | insecureDefault
deriving DecidableEq, Repr

namespace SecretSource

/-- How a source is shown. -/
def text : SecretSource → String
  | .environment name => "env:" ++ name
  | .settings => "settings"
  | .insecureDefault => "insecure-default"

/-- The description of a source. -/
def description : SecretSource → String
  | .environment name => "Env(" ++ quoted name ++ ")"
  | .settings => "Settings"
  | .insecureDefault => "InsecureDefault"

end SecretSource

/-- A secret and where it was found. -/
structure Secret where
  /-- the secret -/
  value : String
  /-- where it was found -/
  source : SecretSource
deriving DecidableEq, Repr

namespace Secret

/-- The environment variables that can hold the secret, the first one first. -/
def variableNames : List String :=
  ["JWT_SECRET_KEY", "AG_AUTH_JWT_SECRET_KEY"]

/-- The fixed secret. -/
def insecureDefault : Secret :=
  ⟨"insecure-development-secret-do-not-use-in-production", .insecureDefault⟩

/-- Whether the secret is the fixed one. -/
def isInsecure (secret : Secret) : Bool :=
  secret.source == .insecureDefault

/-- A value that is given and not empty. -/
def given (value : Option String) : Option String :=
  value.filter (· ≠ "")

/-- The secret in an environment. -/
def ofEnvironment? (lookup : String → Option String) : Option Secret :=
  variableNames.findSome? fun name =>
    (given (lookup name)).map fun value => ⟨value, .environment name⟩

/-- The secret, by an environment and the one in the settings. -/
def resolve (lookup : String → Option String) (setting : Option String) : Secret :=
  match ofEnvironment? lookup with
  | some secret => secret
  | none =>
    match given setting with
    | some value => ⟨value, .settings⟩
    | none => insecureDefault

/-- The description of a secret. -/
def description (secret : Secret) : String :=
  described "JwtSecret"
    [("value", quoted "<redacted>"), ("source", secret.source.description)]

end Secret
end GatewayRouting
