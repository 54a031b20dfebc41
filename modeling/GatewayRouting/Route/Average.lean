import GatewayRouting.Double
import GatewayRouting.Route

/-!
# Average response time

The average is taken in double precision: both counters are rounded to it first, then divided.
-/

namespace GatewayRouting

/-- The average response time of the recorded calls, if there are any. -/
def Route.averageResponseTime? (route : Route) : Option Double :=
  if route.callCount ≤ 0 then none
  else some ((Double.ofInt route.totalResponseTime.toInt).div (.ofInt route.callCount.toInt))

end GatewayRouting
