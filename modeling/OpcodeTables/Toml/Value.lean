/-!
# Values of TOML

What a TOML document says.  Fractional numbers, dates and times are recognised
and told apart from nothing else: no setting is one.
-/

namespace OpcodeTables.Toml

/-- A value of a TOML document. -/
inductive Value where
  | text (content : String)
  | integer (number : Int)
  | bool (truth : Bool)
  /-- A fractional number, a date or a time. -/
  | other
  | array (items : List Value)
  | table (fields : List (String × Value))
  deriving Repr, Inhabited

namespace Value

/-- The text that a value is. -/
def text? : Value → Option String
  | .text content => some content
  | _ => none

/-- The whole number without a sign that a value is. -/
def natural? : Value → Option Nat
  | .integer number => if 0 ≤ number then some number.toNat else none
  | _ => none

/-- The truth value that a value is. -/
def bool? : Value → Option Bool
  | .bool truth => some truth
  | _ => none

/-- The list of texts that a value is. -/
def texts? : Value → Option (List String)
  | .array items => items.mapM text?
  | _ => none

end Value

end OpcodeTables.Toml
