/-
  TradingPlatform.Core.Json

  JSON documents, and the texts that the Python runtime gives to values.

  A `Decimal` is a rational here, so the digits `str` and `format` would print
  are not determined by the model; `Rendering` names the four conversions the
  backend calls, each a total function of the value.
-/

import TradingPlatform.Core.Python

namespace TradingPlatform

/-- `int` is a number written without a fraction or exponent, `number` any other. -/
inductive Json where
  | null
  | bool (value : Bool)
  | int (value : Int)
  | number (value : Decimal)
  | str (value : String)
  | array (items : List Json)
  | object (fields : List (String × Json))
deriving Repr, BEq

/-- `None` as `null`. -/
def Json.ofOption : Option Json → Json
  | none => .null
  | some value => value

/-- The texts of values: `str` and `format(…, "g")` of a `Decimal`, `isoformat` of a
    `datetime`, and `str` of a nested dict or list. -/
structure Rendering where
  str : Decimal → String
  general : Decimal → String
  isoformat : Timestamp → String
  strNested : Json → String

end TradingPlatform
