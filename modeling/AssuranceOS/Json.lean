/-
JSON values, as the services hold them after parsing.

Numbers are exact rationals.  An object is the list of its entries in
insertion order, as a Python `dict` keeps them.

`escaped` and the functions after it are the text that `json.dumps` writes for
strings and for objects and arrays of them, with ASCII output and no blanks
after the separators.
-/
import Mathlib.Data.Rat.Defs

/-- A JSON value. -/
inductive Json where
  | null
  | bool (b : Bool)
  | num (q : ℚ)
  | str (s : String)
  | arr (items : List Json)
  | obj (entries : List (String × Json))

/-- `dict[str, Any]`. -/
abbrev JsonObject := List (String × Json)

namespace Json

def hex4 (n : Nat) : List Char :=
  [n / 4096 % 16, n / 256 % 16, n / 16 % 16, n % 16].map Nat.digitChar

def escapeChar (c : Char) : List Char :=
  let n := c.toNat
  if n = 0x22 then ['\\', '"']
  else if n = 0x5c then ['\\', '\\']
  else if n = 0x0a then ['\\', 'n']
  else if n = 0x0d then ['\\', 'r']
  else if n = 0x09 then ['\\', 't']
  else if n = 0x0c then ['\\', 'f']
  else if n = 0x08 then ['\\', 'b']
  else if 0x20 ≤ n ∧ n ≤ 0x7e then [c]
  else if n < 0x10000 then ['\\', 'u'] ++ hex4 n
  else
    -- a surrogate pair
    ['\\', 'u'] ++ hex4 (0xd800 + (n - 0x10000) / 1024) ++
      ['\\', 'u'] ++ hex4 (0xdc00 + (n - 0x10000) % 1024)

def escaped (s : String) : String :=
  "\"" ++ String.ofList (s.toList.flatMap escapeChar) ++ "\""

def arrayText (items : List String) : String :=
  "[" ++ ",".intercalate items ++ "]"

/-- The text of an object, from its keys and the texts of its values. -/
def objectText (entries : List (String × String)) : String :=
  "\x7b" ++ ",".intercalate (entries.map fun e => escaped e.1 ++ ":" ++ e.2) ++ "\x7d"

end Json
