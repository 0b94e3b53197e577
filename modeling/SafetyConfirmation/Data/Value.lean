import Mathlib.Data.Rat.Defs

/-!
# Values and exceptions

The values the handlers receive from JSON bodies and from DynamoDB, and the exceptions they raise. `bool` is
a Python `int` under `isinstance`, which several checks of the source depend on, so the two are kept apart
here and `isInt` joins them where the source does.
-/

namespace SafetyConfirmation

/-- A Python value as `json.loads` or a DynamoDB read returns it. -/
inductive Value where
  | none
  | bool (b : Bool)
  | int (n : Int)
  | decimal (q : ℚ)
  | float (q : ℚ)
  | str (s : String)
  | list (items : List Value)
  | dict (items : List (String × Value))
  deriving Inhabited

namespace Value

def typeName : Value → String
  | none => "NoneType"
  | bool _ => "bool"
  | int _ => "int"
  | decimal _ => "Decimal"
  | float _ => "float"
  | str _ => "str"
  | list _ => "list"
  | dict _ => "dict"

/-- `d.get(key)`, `none` where the key is absent or the value is no dictionary. -/
def get? : Value → String → Option Value
  | dict items, key => items.lookup key
  | _, _ => Option.none

/-- The integer a value passes `isinstance(v, int)` with: `True` is `1` and `False` is `0`. -/
def asInt? : Value → Option Int
  | int n => some n
  | bool b => some (if b then 1 else 0)
  | _ => Option.none

/-- The string a value passes `isinstance(v, str)` with. -/
def asStr? : Value → Option String
  | str s => some s
  | _ => Option.none

/-- The number of which ECMAScript says `typeof v === 'number'`. -/
def asNumber? : Value → Option ℚ
  | int n => some n
  | float q => some q
  | _ => Option.none

/-- `v !== null && typeof v === 'object'` of ECMAScript, which holds of arrays too. -/
def isObject : Value → Bool
  | list _ | dict _ => true
  | _ => false

/-- The number a value compares equal to other numbers as. -/
def number? : Value → Option ℚ
  | bool b => some (if b then 1 else 0)
  | int n => some n
  | decimal q => some q
  | float q => some q
  | _ => Option.none

def truthy : Value → Bool
  | none => false
  | bool b => b
  | int n => n != 0
  | decimal q | float q => q != 0
  | str s => s != ""
  | list items => !items.isEmpty
  | dict items => !items.isEmpty

/-- An attribute of an item, which is not there where it was never written. -/
def entry (key : String) (v : Option Value) : List (String × Value) := (v.map fun v => (key, v)).toList

end Value

/-- An exception, with the text it carries up to the value that ends it. -/
inductive PyError where
  | valueError (message : String) (got : Option Value := none)
  | typeError (message : String) (got : Option Value := none)
  | noTargetsError (message : String)
  | clientError (code : String)
  | other (name : String)
  deriving Inhabited

namespace PyError

/-- The class of the exception, which Lambda reports as the error's name. -/
def errorName : PyError → String
  | valueError .. => "ValueError"
  | typeError .. => "TypeError"
  | noTargetsError _ => "NoTargetsError"
  | clientError _ => "ClientError"
  | other name => name

def message : PyError → String
  | valueError message _ | typeError message _ | noTargetsError message => message
  | clientError code => code
  | other name => name

end PyError

/-- Hashing a list or a dictionary raises, as `v in frozenset` does. -/
def Value.requireHashable : Value → Except PyError PUnit
  | .list _ => .error (.typeError "unhashable type: 'list'")
  | .dict _ => .error (.typeError "unhashable type: 'dict'")
  | _ => .ok ⟨⟩

/-- `(v or {}).get(key)`: what is falsy reads as an empty dictionary, and what has no `get` raises. -/
def Value.getOrEmpty (v : Value) (key : String) : Except PyError Value :=
  match v with
  | .dict items => .ok ((items.lookup key).getD .none)
  | v => if v.truthy then .error (.other "AttributeError") else .ok .none

/-- An instant, in microseconds since the Unix epoch. -/
abbrev Instant := Int

end SafetyConfirmation
