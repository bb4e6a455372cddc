/-
What Python makes of a JSON value.

`truthy` is its truth value, `iterate` is `for item in value`, and the `as…` functions are the
checks that a field of a given type makes.  `int`, `float` and `str` are `Conversions`: what they
do with texts and floats is a parameter.
-/
import AssuranceOS.Lib.JsonAccess

namespace JsonText

/-- A field of type `str`. -/
def asString : Value → Option String
  | .str s => some s
  | _ => none

/-- A field of type `list[str]`. -/
def asStrings : Value → Option (List String)
  | .arr items => items.mapM asString
  | _ => none

/-- A field of type `dict[str, Any]`. -/
def asObject : Value → Option Object
  | .obj entries => some entries
  | _ => none

/-- A field of type `list[dict[str, Any]]`. -/
def asObjects : Value → Option (List Value)
  | .arr items => if items.all fun v => (asObject v).isSome then some items else none
  | _ => none

/-- `for item in value`; a number and `None` raise. -/
def iterate : Value → Option (List Value)
  | .arr items => some items
  | .obj entries => some (entries.map fun e => .str e.1)
  | .str s => some (s.toList.map fun c => .str (String.singleton c))
  | .null | .bool _ | .int _ | .float _ => none

theorem asString_eq_some {v : Value} {s : String} : asString v = some s ↔ v = .str s := by
  cases v <;> simp [asString]

namespace FloatValue

/-- `x <= y`: nothing is below or above the value that is not a number. -/
def le : FloatValue → FloatValue → Bool
  | nan, _ | _, nan => false
  | infinite n, infinite m => n || !m
  | infinite n, finite _ => n
  | finite _, infinite m => !m
  | finite p, finite q => p ≤ q

/-- `x < y`. -/
def lt : FloatValue → FloatValue → Bool
  | nan, _ | _, nan => false
  | infinite n, infinite m => n && !m
  | infinite n, finite _ => n
  | finite _, infinite m => !m
  | finite p, finite q => p < q

end FloatValue

/-- What `int`, `float` and `str` do with texts, with floats and with values that have no text of
their own. -/
structure Conversions where
  intOfString : String → Option ℤ
  intOfFloat : FloatLiteral → Option ℤ
  floatOfString : String → Option FloatValue
  floatOfInt : ℤ → Option FloatValue
  real : FloatLiteral → FloatValue
  textOf : Value → String

namespace Conversions

variable (c : Conversions)

/-- `int(value)`. -/
def int : Value → Option ℤ
  | .int n => some n
  | .bool b => some (if b then 1 else 0)
  | .float literal => c.intOfFloat literal
  | .str s => c.intOfString s
  | .null | .arr _ | .obj _ => none

/-- `float(value)`. -/
def float : Value → Option FloatValue
  | .int n => c.floatOfInt n
  | .bool b => some (.finite (if b then 1 else 0))
  | .float literal => some (c.real literal)
  | .str s => c.floatOfString s
  | .null | .arr _ | .obj _ => none

/-- `str(value)`. -/
def str : Value → String
  | .str s => s
  | v => c.textOf v

/-- `bool(value)`. -/
def truthy : Value → Bool
  | .null => false
  | .bool b => b
  | .int n => n ≠ 0
  | .float literal => c.real literal ≠ .finite 0
  | .str s => s ≠ ""
  | .arr items => items ≠ []
  | .obj entries => entries ≠ []

/-- The conversions of integers alone. -/
def plain : Conversions where
  intOfString _ := none
  intOfFloat _ := none
  floatOfString _ := none
  floatOfInt n := some (.finite n)
  real _ := .nan
  textOf v := String.ofList v.text

end Conversions

end JsonText
