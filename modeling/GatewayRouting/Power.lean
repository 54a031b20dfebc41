/-!
# Powers

The powers that numbers are made of: those of two bound the numbers of a machine and scale its
doubles, and those of ten place a decimal point.
-/

namespace GatewayRouting

/-- A power of two. -/
def twoTo (n : Nat) : Nat :=
  Nat.pow 2 n

/-- A power of ten. -/
def tenTo (n : Nat) : Nat :=
  Nat.pow 10 n

end GatewayRouting
