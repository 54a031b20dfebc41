/-!
# Version
-/

namespace GatewayRouting

/-- The version of the library and of its resolver. -/
def version : String := "0.3.0"

end GatewayRouting
