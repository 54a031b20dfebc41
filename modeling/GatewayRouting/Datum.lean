import GatewayRouting.Double

/-!
# Data

What a document of any format holds once it has been read: scalars, lists, and maps whose entries
keep their order and may repeat a key. Whole numbers come in two sorts, those written without a
sign and those written with a minus, because a map key of the first sort can stand for the place
of a field.
-/

namespace GatewayRouting

/-- A document's content. -/
inductive Datum where
  /-- nothing -/
  | null
  /-- a truth value -/
  | bool (value : Bool)
  /-- a whole number in the unsigned 64-bit range -/
  | unsigned (value : Nat)
  /-- a whole number written with a minus, in the signed 64-bit range -/
  | signed (value : Int)
  /-- any other number -/
  | real (value : Double)
  /-- a text -/
  | text (value : String)
  /-- a sequence -/
  | list (items : List Datum)
  /-- a map, in the order of its entries -/
  | map (entries : List (Datum × Datum))
deriving Inhabited

namespace Datum

/-- The whole number that a datum is. -/
def int? : Datum → Option Int
  | .unsigned n => some n
  | .signed i => some i
  | _ => none

end Datum
end GatewayRouting
