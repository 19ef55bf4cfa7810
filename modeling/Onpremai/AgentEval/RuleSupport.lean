import Onpremai.AgentEval.RulesEngine
import Onpremai.AgentEval.Sandbox
import Onpremai.Library.Datetime
import Onpremai.Library.Regex

/-!
# What the rule checks share

Reading of check parameters, whose values are arbitrary JSON, with the exceptions of
unguarded accesses; the results the checks return; and the numbers in pass conditions.
-/

namespace Onpremai.AgentEval

open Onpremai.Library

/-- Character data of the runtime.  The case mapping of a text does not look across a
space. -/
structure UnicodeData where
  lower : String → String
  isWord : Char → Bool
  decimal : Char → Option Nat
  lower_empty : lower "" = ""
  lower_space : ∀ first second, lower (first ++ " " ++ second) = lower first ++ " " ++ lower second
  isWord_space : isWord ' ' = false

/-- How a number is written in a message. -/
inductive NumberFormat where
  | plain
  | grouped
  | fixed (digits : Nat)
  deriving DecidableEq, Repr

/-- What `float` reads from a text. -/
inductive FloatValue where
  | finite (value : Rat)
  | infinite (positive : Bool)
  | nan
  deriving DecidableEq, Repr

/-- What the rule checks ask of the runtime: its character data, `float` of a text,
`re.search` for a pattern of a criterion, the clock, and the texts of numbers and values. -/
structure RuleServices where
  unicode : UnicodeData
  floatOfText : String → Option FloatValue
  reSearch : String → String → Except RaisedException Bool
  now : Timestamp
  numberText : NumberFormat → Rat → String
  strOf : Json → String

/-- `bool(value)`. -/
def isTruthy : Json → Bool
  | .null => false
  | .bool value => value
  | .num value => decide (value ≠ 0)
  | .str text => decide (text ≠ "")
  | .arr items => !items.isEmpty
  | .obj fields => !fields.isEmpty

/-- `type(value).__name__`. -/
def typeName : Json → String
  | .null => "NoneType"
  | .bool _ => "bool"
  | .num value => if value.den = 1 then "int" else "float"
  | .str _ => "str"
  | .arr _ => "list"
  | .obj _ => "dict"

def attributeError (value : Json) (name : String) : RaisedException where
  typeName := "AttributeError"
  message := "'" ++ typeName value ++ "' object has no attribute '" ++ name ++ "'"

def typeError (message : String) : RaisedException where
  typeName := "TypeError"
  message := message

/-- A list or a dictionary is no key of a dictionary. -/
def unhashable (value : Json) : RaisedException :=
  typeError ("unhashable type: '" ++ typeName value ++ "'")

/-- `params.get(key)`: a stored `None` reads like an absent key. -/
def param? (params : Json) (key : String) : Option Json :=
  match params.get? key with
  | some .null => none
  | other => other

/-- `params.get(key, default)`. -/
def paramOr (params : Json) (key : String) (default : Json) : Json := (params.get? key).getD default

/-- `for item in value`. -/
def itemsOf : Json → Except RaisedException (List Json)
  | .arr items => .ok items
  | .obj fields => .ok (fields.map fun field => .str field.1)
  | .str text => .ok (text.toList.map fun char => .str (String.ofList [char]))
  | value => .error (typeError ("'" ++ typeName value ++ "' object is not iterable"))

/-- `value.lower()`. -/
def lowerOf (unicode : UnicodeData) : Json → Except RaisedException String
  | .str text => .ok (unicode.lower text)
  | value => .error (attributeError value "lower")

def numberOf (message : Json → String) : Json → Except RaisedException Rat
  | .num value => .ok value
  | .bool value => .ok (if value then 1 else 0)
  | value => .error (typeError (message value))

/-- `f"{value}"`: a string is written as it is. -/
def textOf (services : RuleServices) : Json → String
  | .str text => text
  | value => services.strOf value

/-- `f"{value:,}"`. -/
def groupedText (services : RuleServices) : Json → Except RaisedException String
  | .num value => .ok (services.numberText .grouped value)
  | .bool value => .ok (if value then "1" else "0")
  | .str _ => .error { typeName := "ValueError", message := "Cannot specify ',' with 's'." }
  | value => .error
      (typeError ("unsupported format string passed to " ++ typeName value ++ ".__format__"))

def lowerItems (unicode : UnicodeData) (value : Json) : Except RaisedException (List String) := do
  let items ← itemsOf value
  items.mapM (lowerOf unicode)

namespace FloatValue

/-- `left <= right`: no number compares with `nan`. -/
def le : FloatValue → FloatValue → Bool
  | nan, _ => false
  | _, nan => false
  | infinite positive, infinite other => !positive || other
  | infinite positive, finite _ => !positive
  | finite _, infinite positive => positive
  | finite left, finite right => decide (left ≤ right)

/-- `left < right`. -/
def lt (left right : FloatValue) : Bool := left.le right && !right.le left

/-- `abs(left - right) < 0.001`. -/
def near : FloatValue → FloatValue → Bool
  | finite left, finite right => decide (left - right < 1 / 1000 ∧ right - left < 1 / 1000)
  | _, _ => false

end FloatValue

def toFloat (value : Rat) : Except RaisedException Rat :=
  if floatLimit ≤ value ∨ value ≤ -floatLimit then
    .error { typeName := "OverflowError", message := "int too large to convert to float" }
  else .ok value

/-- `f"{value}"` of a float. -/
def floatText (services : RuleServices) : FloatValue → String
  | .finite value => services.numberText .plain value
  | .infinite positive => if positive then "inf" else "-inf"
  | .nan => "nan"

def ruleResult (criterion : Criterion) (result : CriterionResultEnum) (method : EvalMethod)
    (reason : String) (evidenceUsed : List String) : CriterionResult where
  criterionId := criterion.id
  category := criterion.category
  result := result
  method := method
  reason := reason
  evidenceUsed := evidenceUsed

/-- `separator.join(parts)`. -/
def joinWith (separator : String) (parts : List String) : String := separator.intercalate parts

section

variable (unicode : UnicodeData)

/-- `\d`. -/
def isDigit (char : Char) : Bool := (unicode.decimal char).isSome

/-- `\d+(?:\.\d+)?`. -/
def numberPattern : Regex := .seq (Regex.some1 (isDigit unicode))
    (Regex.optional (.seq (.one fun char => char == '.') (Regex.some1 (isDigit unicode))))

def digitsValue (digits : List Char) : Nat :=
  digits.foldl (fun value digit => 10 * value + (unicode.decimal digit).getD 0) 0

/-- `int(digits)`: a number has at most 4300 digits. -/
def intOf (digits : List Char) : Except RaisedException Nat :=
  if 4300 < digits.length then
    .error
      { typeName := "ValueError"
        message := "Exceeds the limit (4300 digits) for integer string conversion: value has " ++
          toString digits.length ++
            " digits; use sys.set_int_max_str_digits() to increase the limit" }
  else .ok (digitsValue unicode digits)

def decimalOf (text : List Char) : Rat :=
  let whole := text.takeWhile fun char => char != '.'
  let fraction := (text.dropWhile fun char => char != '.').drop 1
  digitsValue unicode whole + digitsValue unicode fraction / 10 ^ fraction.length

/-- `float(text)` of digits with a decimal point; a number beyond the floats is infinite. -/
def floatOfDigits (text : List Char) : FloatValue :=
  let value := decimalOf unicode text
  if floatLimit ≤ value then .infinite true else .finite value

def firstNumber (patterns : List Regex) (text : String) : Option FloatValue :=
  (patterns.findSome? fun pattern => pattern.search text.toList).map (floatOfDigits unicode)

def spelled (text : String) : Regex := Regex.literal text.toList

/-- `\s*`. -/
def spaces : Regex := .many Text.isSpace

/-- `\s+`. -/
def spaces1 : Regex := Regex.some1 Text.isSpace

/-- `[:\s]+`. -/
def colonOrSpaces : Regex := Regex.some1 fun char => char == ':' || Text.isSpace char

end

end Onpremai.AgentEval
