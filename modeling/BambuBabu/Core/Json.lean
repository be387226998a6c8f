import BambuBabu.Core.Text
import Mathlib.Data.Rat.Defs

/-!
# `Core.Json` — decoded JSON, and what Python's built-ins do with it

The values `json.loads` returns, with the operations a caller applies to them before it knows their shape: every
one raises on the shapes it does not support. How text and large integers convert is a parameter
(`Conversions`); which exception a failed conversion raises is not.
-/

namespace BambuBabu

inductive PyExc where
  | jsonDecodeError
  | unicodeDecodeError
  | valueError
  | typeError
  | attributeError
  | keyError
  | overflowError
  | recursionError
  deriving DecidableEq

/-- A `float`, the finite ones by their value. -/
inductive PyFloat where
  | finite (x : ℚ)
  | inf (negative : Bool)
  | nan
  deriving DecidableEq

/-- In an object the first entry of a key counts. -/
inductive Json where
  | null
  | bool (b : Bool)
  | int (n : Int)
  | float (x : PyFloat)
  | str (s : String)
  | arr (items : List Json)
  | obj (fields : List (String × Json))

/-- `int(text)`, `float(text)` and `float(integer)`: `none` where they raise. -/
structure Conversions where
  intOfStr : String → Option Int
  floatOfStr : String → Option PyFloat
  floatOfInt : Int → Option PyFloat

namespace Json

/-- `value == text` -/
def isStr (text : String) : Json → Bool
  | str s => s = text
  | _ => false

/-- `key in value` -/
def contains (key : String) : Json → Except PyExc Bool
  | obj fields => .ok (fields.any fun f => f.1 = key)
  | arr items => .ok (items.any (isStr key))
  | str s => .ok (BambuBabu.contains key s)
  | _ => .error .typeError

/-- `value[key]` -/
def item (key : String) : Json → Except PyExc Json
  | obj fields => (fields.lookup key).elim (.error .keyError) .ok
  | _ => .error .typeError

/-- `value.get(key, default)` -/
def get (value : Json) (key : String) (default : Json) : Except PyExc Json :=
  match value with
  | obj fields => .ok ((fields.lookup key).getD default)
  | _ => .error .attributeError

/-- Whether the value can be a key of a `dict`. -/
def hashable : Json → Bool
  | arr _ => false
  | obj _ => false
  | _ => true

variable (conv : Conversions)

/-- `int(value)` -/
def toInt : Json → Except PyExc Int
  | int n => .ok n
  | bool b => .ok (if b then 1 else 0)
  | float (.finite x) => .ok (x.num.tdiv x.den)
  | float (.inf _) => .error .overflowError
  | float .nan => .error .valueError
  | str s => (conv.intOfStr s).elim (.error .valueError) .ok
  | null => .error .typeError
  | arr _ => .error .typeError
  | obj _ => .error .typeError

/-- `float(value)` -/
def toFloat : Json → Except PyExc PyFloat
  | float x => .ok x
  | bool b => .ok (.finite (if b then 1 else 0))
  | int n => (conv.floatOfInt n).elim (.error .overflowError) .ok
  | str s => (conv.floatOfStr s).elim (.error .valueError) .ok
  | null => .error .typeError
  | arr _ => .error .typeError
  | obj _ => .error .typeError

end Json

end BambuBabu
