import SourceEdit.Decimal.Binary64

/-!
# JSON values

Numbers keep the distinction between an integer and a binary64 number: `1` and `1.0` are different
values.  What is read from a text has integers that fit in 64 bits, signed or unsigned.  An object keeps
its fields in order.
-/

namespace SourceEdit

/-- A JSON number: an integer or a binary64 number. -/
inductive Json.Number where
  | integer (value : Int)
  | float (value : Binary64)
deriving DecidableEq, Repr, Inhabited

/-- A JSON value. -/
inductive Json where
  | null
  | bool (value : Bool)
  | number (value : Json.Number)
  | string (value : String)
  | array (items : List Json)
  | object (fields : List (String × Json))
deriving Repr, Inhabited

namespace Json

/-- The first field of an object with the given name. -/
def field? (name : String) : Json → Option Json
  | .object fields => fields.lookup name
  | _ => none

/-- The text of a string value. -/
def string? : Json → Option String
  | .string s => some s
  | _ => none

/-- The natural number of a number value. -/
def nat? : Json → Option Nat
  | .number (.integer (.ofNat n)) => some n
  | _ => none

/-- An integer as a JSON number. -/
def ofInt (i : Int) : Json := .number (.integer i)

/-- A natural number as a JSON number. -/
def ofNat (n : Nat) : Json := ofInt n

/-- An optional value, `null` when absent. -/
def ofOption : Option Json → Json
  | some j => j
  | none => .null

end Json

end SourceEdit
