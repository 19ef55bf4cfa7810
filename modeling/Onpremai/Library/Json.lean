import Mathlib.Data.Rat.Defs
import Onpremai.Library.Dict
import Onpremai.Library.Text

/-!
# JSON values

The values a JSON decoder produces and the accessors of dictionary-like code.
Numbers are rationals; a decoder that yields floating-point numbers is read as
yielding their exact values.
-/

namespace Onpremai.Library

/-- A decoded JSON document.  The fields of an object keep their order. -/
inductive Json where
  | null
  | bool (value : Bool)
  | num (value : Rat)
  | str (value : String)
  | arr (items : List Json)
  | obj (fields : List (String × Json))
  deriving Repr

namespace Json

def field? (key : String) : List (String × Json) → Option Json
  | [] => none
  | entry :: rest => if entry.1 = key then some entry.2 else field? key rest

/-- The value of a field of an object; a value of another shape has no fields. -/
def get? (key : String) : Json → Option Json
  | .obj fields => field? key fields
  | _ => none

def isString (value : Json) (text : String) : Bool :=
  match value with
  | .str other => decide (other = text)
  | _ => false

@[simp] theorem field?_nil (key : String) : field? key [] = none := rfl

@[simp] theorem field?_cons (key : String) (entry : String × Json)
    (rest : List (String × Json)) :
    field? key (entry :: rest) = if entry.1 = key then some entry.2 else field? key rest := rfl

@[simp] theorem get?_obj (key : String) (fields : List (String × Json)) :
    get? key (.obj fields) = field? key fields := rfl

def strings (items : List String) : Json := .arr (items.map .str)

/-- Read back an array of strings. -/
def asStrings? : Json → Option (List String)
  | .arr items => items.mapM fun item =>
    match item with
    | .str value => some value
    | _ => none
  | _ => none

end Json

end Onpremai.Library

/-!
## Values of Python code

What Python code does with a decoded value: its truth, its items, its dictionary access, and
the fields of validated records that are read from it.
-/

namespace Onpremai.Library

theorem Json.field?_eq_findEntry (key : String) (fields : List (String × Json)) :
    Json.field? key fields = Dict.findEntry key fields := by
  induction fields with
  | nil => rfl
  | cons entry rest ih => rw [Json.field?, Dict.findEntry, ih]

/-- Reading a field after `value[key] = item`. -/
theorem Json.field?_setEntry (key query : String) (item : Json)
    (fields : List (String × Json)) :
    Json.field? query (Dict.setEntry key item fields) =
      if key = query then some item else Json.field? query fields := by
  rw [Json.field?_eq_findEntry, Dict.findEntry_setEntry, Json.field?_eq_findEntry]

namespace Python

/-- `bool(value)`. -/
def truthy : Json → Bool
  | .null => false
  | .bool value => value
  | .num value => decide (value ≠ 0)
  | .str text => decide (text ≠ "")
  | .arr items => !items.isEmpty
  | .obj fields => !fields.isEmpty

/-- `value.get(key, default)`; only a dictionary has the method. -/
def getOr (key : String) (default : Json) : Json → Except String Json
  | .obj fields => .ok ((Json.field? key fields).getD default)
  | _ => .error "object has no attribute 'get'"

/-- The items a loop over a value visits. -/
def iterated : Json → Except String (List Json)
  | .arr items => .ok items
  | .obj fields => .ok (fields.map fun field => .str field.1)
  | .str text => .ok (text.toList.map fun char => .str (String.singleton char))
  | _ => .error "object is not iterable"

/-- `text in value`. -/
def occursInValue (text : String) : Json → Except String Bool
  | .str value => .ok (Text.contains text value)
  | .arr items => .ok (items.any fun item => item.isString text)
  | .obj fields => .ok (fields.any fun field => decide (field.1 = text))
  | _ => .error "argument is not iterable"

def textField : Json → Except String String
  | .str text => .ok text
  | _ => .error "Input should be a valid string"

def intField : Json → Except String Int
  | .num value =>
    if value.den = 1 then .ok value.num else .error "Input should be a valid integer"
  | .bool value => .ok (if value then 1 else 0)
  | .str text =>
    match text.toInt? with
    | some value => .ok value
    | none => .error "Input should be a valid integer"
  | _ => .error "Input should be a valid integer"

end Python

end Onpremai.Library
