import QuantGateway.Foundation.CharConv

/-!
Owns JSON values as a parser hands them out: a number is kept as the integer or
the `double` it was read as.

Does not own the syntax of JSON.
-/

namespace QuantGateway.Foundation

/-- `boost::json::value`. -/
inductive Json where
  | null
  | bool (value : Bool)
  | int64 (value : Int64)
  | uint64 (value : UInt64)
  | double (value : Double)
  | string (value : Text)
  | array (elements : List Json)
  | object (members : List (Text × Json))

/-- `boost::json::object`. A key has one member at most, so the first is the one. -/
abbrev JsonObject := List (Text × Json)

namespace Json

/-- `if_contains`. -/
def ifContains (object : JsonObject) (key : Text) : Option Json :=
  object.lookup key

/-- A number held as an integer. -/
def integer? : Json → Option Int
  | .int64 value => some value.toInt
  | .uint64 value => some value.toNat
  | _ => none

/-- A number, whichever way it is held, as the real number it denotes. -/
def number? : Json → Option ExtendedRational
  | .int64 value => some (.finite value.toInt)
  | .uint64 value => some (.finite value.toNat)
  | .double value => some value
  | _ => none

end Json

end QuantGateway.Foundation
