import Onpremai.Library.Json

/-!
# Decoding of JSON texts

A decoder that reads a text from left to right, one character after the other.  The containers
that are still open stand on a stack, and the text is a document if at its end one value has been
read and none is open.
-/

namespace Onpremai.Library.JsonText

/-- Why a text is not decoded: it is no document, an integer has too many digits, or the nesting is
too deep. -/
inductive Failure where
  | noDocument
  | tooManyDigits
  | tooDeep
  deriving DecidableEq, Repr

/-- The limits of a decoder, and how it reads a number that is written with a fraction or an
exponent, or as one of the words for what is no finite number. -/
structure Reader where
  maxDigits : Nat
  maxDepth : Nat
  float : List Char → Rat

/-! ## The decoder -/

/-- A container that is still open.  The items read so far are reversed. -/
inductive Frame where
  | array (items : List Json)
  | object (fields : List (String × Json)) (key : String)

/-- How far a number is written. -/
inductive NumberPart where
  | minus
  | zero
  | whole
  | point
  | fraction
  | exponent
  | exponentSign
  | exponentDigits
  deriving DecidableEq

/-- The value that a word stands for. -/
inductive Word where
  | null
  | bool (value : Bool)
  | num (value : Rat)

def Word.value : Word → Json
  | .null => .null
  | .bool value => .bool value
  | .num value => .num value

/-- What comes next.  What is written of a string or a number is reversed; a string is kept as its
code units. -/
inductive Mode where
  | value
  | firstItem
  | firstKey
  | key
  | colon
  | after
  | string (isKey : Bool) (written : List Nat)
  | escape (isKey : Bool) (written : List Nat)
  | code (isKey : Bool) (written : List Nat) (digits : Nat) (unit : Nat)
  | word (rest : List Char) (word : Word)
  | number (part : NumberPart) (written : List Char)

inductive State where
  | running (mode : Mode) (stack : List Frame)
  | ended (value : Json)
  | failed (failure : Failure)

/-- White space between the tokens. -/
def isBlank (char : Char) : Bool := char = ' ' || char = '\t' || char = '\n' || char = '\r'

def setField (key : String) (value : Json) : List (String × Json) → List (String × Json)
  | [] => [(key, value)]
  | entry :: rest =>
    if entry.1 = key then (key, value) :: rest else entry :: setField key value rest

def close (value : Json) : List Frame → State
  | [] => .ended value
  | .array items :: stack => .running .after (.array (value :: items) :: stack)
  | .object fields key :: stack =>
    .running .after (.object (setField key value fields) key :: stack)

def setKey (key : String) : List Frame → List Frame
  | .object fields _ :: stack => .object fields key :: stack
  | stack => stack

/-- The character of a code unit; a surrogate that has lost its pair is replaced. -/
def charOf (unit : Nat) : Char :=
  if 0xd800 ≤ unit ∧ unit ≤ 0xdfff then Char.ofNat 0xfffd else Char.ofNat unit

/-- The characters of a sequence of code units. -/
def joinUnits : List Nat → List Char
  | [] => []
  | [unit] => [charOf unit]
  | high :: low :: rest =>
    if 0xd800 ≤ high ∧ high ≤ 0xdbff ∧ 0xdc00 ≤ low ∧ low ≤ 0xdfff then
      Char.ofNat (0x10000 + (high - 0xd800) * 0x400 + (low - 0xdc00)) :: joinUnits rest
    else charOf high :: joinUnits (low :: rest)

def stringOf (written : List Nat) : String := String.ofList (joinUnits written.reverse)

/-- The code unit that a character after a backslash stands for. -/
def escapeUnit? (char : Char) : Option Nat :=
  if char = '"' ∨ char = '\\' ∨ char = '/' then some char.toNat
  else if char = 'b' then some 8
  else if char = 'f' then some 12
  else if char = 'n' then some 10
  else if char = 'r' then some 13
  else if char = 't' then some 9
  else none

/-- The value of a hexadecimal digit. -/
def hexDigit? (char : Char) : Option Nat :=
  if '0' ≤ char ∧ char ≤ '9' then some (char.toNat - 48)
  else if 'a' ≤ char ∧ char ≤ 'f' then some (char.toNat - 87)
  else if 'A' ≤ char ∧ char ≤ 'F' then some (char.toNat - 55)
  else none

def isDigit (char : Char) : Bool := '0' ≤ char && char ≤ '9'

def NumberPart.next? (part : NumberPart) (char : Char) : Option NumberPart :=
  match part with
  | .minus => if char = '0' then some .zero else if isDigit char then some .whole else none
  | .zero =>
    if char = '.' then some .point
    else if char = 'e' ∨ char = 'E' then some .exponent else none
  | .whole =>
    if isDigit char then some .whole
    else if char = '.' then some .point
    else if char = 'e' ∨ char = 'E' then some .exponent else none
  | .point => if isDigit char then some .fraction else none
  | .fraction =>
    if isDigit char then some .fraction
    else if char = 'e' ∨ char = 'E' then some .exponent else none
  | .exponent =>
    if char = '+' ∨ char = '-' then some .exponentSign
    else if isDigit char then some .exponentDigits else none
  | .exponentSign => if isDigit char then some .exponentDigits else none
  | .exponentDigits => if isDigit char then some .exponentDigits else none

def integerOf (written : List Char) : Rat :=
  let digits := written.reverse.filter isDigit
  let size : Nat := digits.foldl (fun size digit => 10 * size + (digit.toNat - 48)) 0
  if '-' ∈ written then -(size : Rat) else (size : Rat)

variable (reader : Reader)

def integer (written : List Char) : Except Failure Rat :=
  if reader.maxDigits < (written.filter isDigit).length then .error .tooManyDigits
  else .ok (integerOf written)

def numberOf (part : NumberPart) (written : List Char) : Except Failure Rat :=
  match part with
  | .minus => .error .noDocument
  | .zero => integer reader written
  | .whole => integer reader written
  | .fraction => .ok (reader.float written.reverse)
  | .exponentDigits => .ok (reader.float written.reverse)
  | _ => do
    if '.' ∉ written.tail then
      let _ ← integer reader written
    .error .noDocument

/-- A character where a value begins. -/
def openValue (char : Char) (stack : List Frame) : State :=
  if char = '"' then .running (.string false []) stack
  else if char = '\x7b' then
    if stack.length < reader.maxDepth then .running .firstKey (.object [] "" :: stack)
    else .failed .tooDeep
  else if char = '[' then
    if stack.length < reader.maxDepth then .running .firstItem (.array [] :: stack)
    else .failed .tooDeep
  else if char = 'n' then .running (.word ['u', 'l', 'l'] .null) stack
  else if char = 't' then .running (.word ['r', 'u', 'e'] (.bool true)) stack
  else if char = 'f' then .running (.word ['a', 'l', 's', 'e'] (.bool false)) stack
  else if char = 'N' then .running (.word ['a', 'N'] (.num (reader.float "NaN".toList))) stack
  else if char = 'I' then
    .running (.word "nfinity".toList (.num (reader.float "Infinity".toList))) stack
  else if char = '-' then .running (.number .minus [char]) stack
  else if char = '0' then .running (.number .zero [char]) stack
  else if isDigit char then .running (.number .whole [char]) stack
  else .failed .noDocument

def afterValue (char : Char) : State → State
  | .ended value => if isBlank char then .ended value else .failed .noDocument
  | .running .after (.array items :: stack) =>
    if isBlank char then .running .after (.array items :: stack)
    else if char = ',' then .running .value (.array items :: stack)
    else if char = ']' then close (.arr items.reverse) stack
    else .failed .noDocument
  | .running .after (.object fields key :: stack) =>
    if isBlank char then .running .after (.object fields key :: stack)
    else if char = ',' then .running .key (.object fields key :: stack)
    else if char = '\x7d' then close (.obj fields) stack
    else .failed .noDocument
  | _ => .failed .noDocument

def stringStep (isKey : Bool) (written : List Nat) (char : Char) (stack : List Frame) : State :=
  if char = '"' then
    if isKey then .running .colon (setKey (stringOf written) stack)
    else close (.str (stringOf written)) stack
  else if char = '\\' then .running (.escape isKey written) stack
  else if char.toNat < 32 then .failed .noDocument
  else .running (.string isKey (char.toNat :: written)) stack

/-- A character after a backslash. -/
def escapeStep (isKey : Bool) (written : List Nat) (char : Char) (stack : List Frame) : State :=
  if char = 'u' then .running (.code isKey written 4 0) stack
  else
    match escapeUnit? char with
    | some unit => .running (.string isKey (unit :: written)) stack
    | none => .failed .noDocument

def codeStep (isKey : Bool) (written : List Nat) (digits unit : Nat) (char : Char)
    (stack : List Frame) : State :=
  match hexDigit? char with
  | none => .failed .noDocument
  | some digit =>
    if digits ≤ 1 then .running (.string isKey ((16 * unit + digit) :: written)) stack
    else .running (.code isKey written (digits - 1) (16 * unit + digit)) stack

def wordStep (rest : List Char) (word : Word) (char : Char) (stack : List Frame) : State :=
  if rest.head? ≠ some char then .failed .noDocument
  else if rest.tail = [] then close word.value stack
  else .running (.word rest.tail word) stack

def numberStep (part : NumberPart) (written : List Char) (char : Char) (stack : List Frame) :
    State :=
  match part.next? char with
  | some following => .running (.number following (char :: written)) stack
  | none =>
    if part = .minus ∧ char = 'I' then
      .running (.word "nfinity".toList (.num (reader.float "-Infinity".toList))) stack
    else
      match numberOf reader part written with
      | .error failure => .failed failure
      | .ok value => afterValue char (close (.num value) stack)

/-- Read one character. -/
def step (state : State) (char : Char) : State :=
  match state with
  | .failed failure => .failed failure
  | .ended value => afterValue char (.ended value)
  | .running .value stack =>
    if isBlank char then .running .value stack else openValue reader char stack
  | .running .firstItem stack =>
    if isBlank char then .running .firstItem stack
    else if char = ']' then close (.arr []) stack.tail
    else openValue reader char stack
  | .running .firstKey stack =>
    if isBlank char then .running .firstKey stack
    else if char = '\x7d' then close (.obj []) stack.tail
    else if char = '"' then .running (.string true []) stack
    else .failed .noDocument
  | .running .key stack =>
    if isBlank char then .running .key stack
    else if char = '"' then .running (.string true []) stack
    else .failed .noDocument
  | .running .colon stack =>
    if isBlank char then .running .colon stack
    else if char = ':' then .running .value stack
    else .failed .noDocument
  | .running .after stack => afterValue char (.running .after stack)
  | .running (.string isKey written) stack => stringStep isKey written char stack
  | .running (.escape isKey written) stack => escapeStep isKey written char stack
  | .running (.code isKey written digits unit) stack =>
    codeStep isKey written digits unit char stack
  | .running (.word rest word) stack => wordStep rest word char stack
  | .running (.number part written) stack => numberStep reader part written char stack

/-- The state before the first character. -/
def start : State := .running .value []

def conclude : State → Except Failure Json
  | .failed failure => .error failure
  | .ended value => .ok value
  | .running (.number part written) stack =>
    match numberOf reader part written with
    | .error failure => .error failure
    | .ok value => if stack.isEmpty then .ok (.num value) else .error .noDocument
  | .running _ _ => .error .noDocument

def scan (state : State) (text : List Char) : State := text.foldl (step reader) state

def loads (text : List Char) : Except Failure Json := conclude reader (scan reader start text)

section Runs

variable {reader}

theorem scan_append (state : State) (first second : List Char) :
    scan reader state (first ++ second) = scan reader (scan reader state first) second :=
  List.foldl_append

@[simp] theorem scan_nil (state : State) : scan reader state [] = state := rfl

@[simp] theorem scan_cons (state : State) (char : Char) (rest : List Char) :
    scan reader state (char :: rest) = scan reader (step reader state char) rest := rfl

theorem scan_failed (failure : Failure) (text : List Char) :
    scan reader (.failed failure) text = .failed failure := by
  induction text with
  | nil => rfl
  | cons char rest ih => exact ih

theorem step_ended (value : Json) (char : Char) : step reader (.ended value) char =
      if isBlank char then .ended value else .failed .noDocument := rfl

theorem scan_ended (value : Json) (text : List Char) :
    scan reader (.ended value) text = .ended value ∧ (∀ char ∈ text, isBlank char = true) ∨
      scan reader (.ended value) text = .failed .noDocument := by
  induction text with
  | nil => exact .inl ⟨rfl, by simp⟩
  | cons char rest ih =>
    rw [scan_cons, step_ended]
    by_cases blank : isBlank char = true
    · rw [if_pos blank]
      simpa [blank] using ih
    · rw [if_neg blank]
      exact .inr (scan_failed _ _)

/-- A number or a word for one stands outside of all containers, or has stood there. -/
def Numeric : State → Prop
  | .running (.number _ _) stack => stack = []
  | .running (.word _ (.num _)) stack => stack = []
  | .ended (.num _) => True
  | .failed _ => True
  | _ => False

theorem numeric_afterValue (value : Rat) (char : Char) :
    Numeric (afterValue char (.ended (.num value))) := by
  rw [afterValue]
  split <;> trivial

section

variable {state : State}

theorem Numeric.step (numeric : Numeric state) (char : Char) :
    Numeric (JsonText.step reader state char) := by
  cases state with
  | failed failure => trivial
  | ended value =>
    cases value with
    | num value => exact numeric_afterValue value char
    | _ => cases numeric
  | running mode stack =>
    cases mode with
    | number part written =>
      cases numeric
      rw [JsonText.step, numberStep]
      split
      · rfl
      · split
        · rfl
        · split
          · trivial
          · exact numeric_afterValue _ char
    | word rest word =>
      cases word with
      | num value =>
        cases numeric
        rw [JsonText.step, wordStep]
        split
        · trivial
        · split
          · trivial
          · rfl
      | _ => cases numeric
    | _ => cases numeric

theorem Numeric.scan (numeric : Numeric state) (text : List Char) :
    Numeric (JsonText.scan reader state text) := by
  induction text generalizing state with
  | nil => exact numeric
  | cons char rest ih => exact ih (numeric.step char)

theorem Numeric.conclude_ne (numeric : Numeric state)
    (fields : List (String × Json)) : conclude reader state ≠ .ok (.obj fields) := by
  cases state with
  | failed failure => simp [conclude]
  | ended value =>
    cases value with
    | num value => simp [conclude]
    | _ => cases numeric
  | running mode stack =>
    cases mode with
    | number part written =>
      cases numeric
      rw [conclude]
      split
      · simp
      · simp
    | word rest word => simp [conclude]
    | _ => cases numeric

theorem conclude_ok {value : Json} (concluded : conclude reader state = .ok value) :
    state = .ended value ∨ Numeric state := by
  cases state with
  | failed failure => cases concluded
  | ended other =>
    cases concluded
    exact .inl rfl
  | running mode stack =>
    cases mode with
    | number part written =>
      right
      rw [conclude] at concluded
      split at concluded
      · cases concluded
      · split at concluded
        · next empty => exact List.isEmpty_iff.mp empty
        · cases concluded
    | _ => cases concluded

end

theorem loads_of_append {first second : List Char} {fields : List (String × Json)} {value : Json}
    (whole : loads reader (first ++ second) = .ok (.obj fields))
    (cut : loads reader first = .ok value) : value = .obj fields := by
  rw [loads, scan_append] at whole
  rcases conclude_ok cut with ended | numeric
  · rw [ended] at whole
    rcases @scan_ended reader value second with ⟨kept, -⟩ | failed
    · rw [kept] at whole
      exact Except.ok.inj whole
    · rw [failed] at whole
      cases whole
  · exact absurd whole ((numeric.scan second).conclude_ne fields)

/-! ## The cut before the last brace -/

theorem close_eq_ended {value other : Json} {stack : List Frame}
    (closed : close value stack = .ended other) : value = other := by
  cases stack with
  | nil => exact State.ended.inj closed
  | cons frame stack => cases frame <;> cases closed

theorem openValue_ne_ended (char : Char) (stack : List Frame) (value : Json) :
    openValue reader char stack ≠ .ended value := by
  rw [openValue]
  repeat' split
  all_goals simp

section

variable {state : State} {char : Char} {fields : List (String × Json)}

theorem afterValue_eq_ended (stepped : afterValue char state = .ended (.obj fields)) :
    state = .ended (.obj fields) ∧ isBlank char = true ∨ char = '\x7d' := by
  unfold afterValue at stepped
  split at stepped
  · split at stepped
    · next blank =>
      rw [stepped]
      exact .inl ⟨rfl, blank⟩
    · cases stepped
  · split at stepped
    · cases stepped
    · split at stepped
      · cases stepped
      · split at stepped
        · cases close_eq_ended stepped
        · cases stepped
  · split at stepped
    · cases stepped
    · split at stepped
      · cases stepped
      · split at stepped
        · next brace => exact .inr brace
        · cases stepped
  · cases stepped

theorem brace_of_step_eq_ended (stepped : step reader state char = .ended (.obj fields)) :
    state = .ended (.obj fields) ∧ isBlank char = true ∨ char = '\x7d' := by
  cases state with
  | failed failure => cases stepped
  | ended value => exact afterValue_eq_ended stepped
  | running mode stack =>
    cases mode with
    | value =>
      rw [step] at stepped
      split at stepped
      · cases stepped
      · exact absurd stepped (openValue_ne_ended _ _ _)
    | firstItem =>
      rw [step] at stepped
      split at stepped
      · cases stepped
      · split at stepped
        · cases close_eq_ended stepped
        · exact absurd stepped (openValue_ne_ended _ _ _)
    | firstKey =>
      rw [step] at stepped
      split at stepped
      · cases stepped
      · split at stepped
        · next brace => exact .inr brace
        · split at stepped <;> cases stepped
    | key =>
      rw [step] at stepped
      split at stepped
      · cases stepped
      · split at stepped <;> cases stepped
    | colon =>
      rw [step] at stepped
      split at stepped
      · cases stepped
      · split at stepped <;> cases stepped
    | after =>
      rcases afterValue_eq_ended stepped with ⟨other, -⟩ | brace
      · cases other
      · exact .inr brace
    | string isKey written =>
      rw [step, stringStep] at stepped
      split at stepped
      · split at stepped
        · cases stepped
        · cases close_eq_ended stepped
      · split at stepped
        · cases stepped
        · split at stepped <;> cases stepped
    | escape isKey written =>
      rw [step, escapeStep] at stepped
      split at stepped
      · cases stepped
      · split at stepped <;> cases stepped
    | code isKey written digits unit =>
      rw [step, codeStep] at stepped
      split at stepped
      · cases stepped
      · split at stepped <;> cases stepped
    | word rest word =>
      rw [step, wordStep] at stepped
      split at stepped
      · cases stepped
      · split at stepped
        · have named := close_eq_ended stepped
          cases word <;> cases named
        · cases stepped
    | number part written =>
      rw [step, numberStep] at stepped
      split at stepped
      · cases stepped
      · split at stepped
        · cases stepped
        · split at stepped
          · cases stepped
          · rcases afterValue_eq_ended stepped with ⟨closed, -⟩ | brace
            · cases close_eq_ended closed
            · exact .inr brace

end

theorem exists_brace_of_loads {text : List Char} {fields : List (String × Json)}
    (whole : loads reader text = .ok (.obj fields)) :
    ∃ before blanks, text = before ++ '\x7d' :: blanks ∧
      ∀ char ∈ blanks, isBlank char = true := by
  have ended : scan reader start text = .ended (.obj fields) := by
    rcases conclude_ok whole with ended | numeric
    · exact ended
    · exact absurd whole (numeric.conclude_ne fields)
  clear whole
  induction text using List.reverseRecOn with
  | nil => cases ended
  | append_singleton before char ih =>
    rw [scan_append] at ended
    rcases brace_of_step_eq_ended ended with ⟨earlier, blank⟩ | rfl
    · obtain ⟨cut, blanks, parts, all⟩ := ih earlier
      refine ⟨cut, blanks ++ [char], by rw [parts]; simp, ?_⟩
      intro other member
      rcases List.mem_append.mp member with inside | last
      · exact all other inside
      · rw [List.mem_singleton.mp last]
        exact blank
    · exact ⟨before, [], rfl, by simp⟩

/-- A character that no number and no word for one goes on with. -/
def Breaks (char : Char) : Prop := isDigit char = false ∧ char ∉ ['.', 'e', 'E', '+', '-', 'I']

instance (char : Char) : Decidable (Breaks char) := inferInstanceAs (Decidable (_ ∧ _))

theorem Breaks.next?_eq_none {char : Char} (breaks : Breaks char) (part : NumberPart) :
    part.next? char = none := by
  obtain ⟨digit, others⟩ := breaks
  simp only [List.mem_cons, List.not_mem_nil, or_false, not_or] at others
  obtain ⟨point, small, large, plus, minus, -⟩ := others
  have zero : char ≠ '0' := by
    rintro rfl
    exact absurd digit (by decide)
  cases part <;> simp [NumberPart.next?, digit, zero, point, small, large, plus, minus]

theorem conclude_of_breaks {state : State} {char : Char} (breaks : Breaks char)
    (goesOn : ∀ failure, step reader state char ≠ .failed failure) :
    (∃ value, conclude reader state = .ok value) ∨
      conclude reader state = .error .noDocument := by
  cases state with
  | failed failure => exact absurd rfl (goesOn failure)
  | ended value => exact .inl ⟨value, rfl⟩
  | running mode stack =>
    cases mode with
    | number part written =>
      have other : ¬ (part = .minus ∧ char = 'I') := by
        rintro ⟨-, rfl⟩
        exact absurd breaks (by decide)
      rw [conclude]
      simp only [step, numberStep, breaks.next?_eq_none, if_neg other] at goesOn
      cases read : numberOf reader part written with
      | error failure => exact absurd (by rw [read]) (goesOn failure)
      | ok value =>
        cases stack with
        | nil => exact .inl ⟨.num value, rfl⟩
        | cons frame rest => exact .inr rfl
    | _ => exact .inr rfl

theorem loads_before_brace {first second blanks : List Char} {fields : List (String × Json)}
    (whole : loads reader (first ++ (second ++ '\x7d' :: blanks)) = .ok (.obj fields))
    (breaks : ∀ char ∈ second, Breaks char) : loads reader first = .error .noDocument := by
  rw [loads, scan_append] at whole
  have undecoded : ∀ value, loads reader first ≠ .ok value := by
    intro value decoded
    rcases conclude_ok decoded with ended | numeric
    · rw [ended] at whole
      rcases @scan_ended reader value (second ++ '\x7d' :: blanks) with ⟨-, all⟩ | failed
      · exact absurd (all '\x7d' (by simp)) (by decide)
      · rw [failed] at whole
        cases whole
    · exact absurd whole ((numeric.scan _).conclude_ne fields)
  obtain ⟨char, rest, follows, break_char⟩ : ∃ char rest,
      second ++ '\x7d' :: blanks = char :: rest ∧ Breaks char := by
    cases second with
    | nil => exact ⟨'\x7d', blanks, rfl, by decide⟩
    | cons char rest => exact ⟨char, _, rfl, breaks char List.mem_cons_self⟩
  rw [follows, scan_cons] at whole
  have goesOn : ∀ failure, step reader (scan reader start first) char ≠ .failed failure := by
    intro failure failed
    rw [failed, scan_failed] at whole
    cases whole
  rcases conclude_of_breaks break_char goesOn with ⟨value, decoded⟩ | failed
  · exact absurd decoded (undecoded value)
  · exact failed

/-- The characters that a value begins with. -/
def opens (char : Char) : Bool :=
  isDigit char || ['"', '\x7b', '[', 'n', 't', 'f', 'N', 'I', '-'].contains char

theorem openValue_of_not_opens {char : Char} (closed : opens char = false) (stack : List Frame) :
    openValue reader char stack = .failed .noDocument := by
  simp only [opens, Bool.or_eq_false_iff, List.contains_eq_mem, decide_eq_false_iff_not,
    List.mem_cons, List.not_mem_nil, or_false, not_or] at closed
  obtain ⟨digit, quote, brace, bracket, nullWord, trueWord, falseWord, nan, infinity, minus⟩ :=
    closed
  have zero : char ≠ '0' := by
    rintro rfl
    exact absurd digit (by decide)
  simp [openValue, digit, quote, brace, bracket, nullWord, trueWord, falseWord, nan, infinity,
    minus, zero]

theorem loads_of_not_opens_append {first second : List Char} {value : Json}
    (closed : ∀ char ∈ first, opens char = false)
    (whole : loads reader (first ++ second) = .ok value) : loads reader second = .ok value := by
  induction first with
  | nil => exact whole
  | cons char rest ih =>
    rw [List.forall_mem_cons] at closed
    apply ih closed.2
    by_cases blank : isBlank char = true
    · rw [loads, List.cons_append, scan_cons, start, step, if_pos blank] at whole
      exact whole
    · rw [loads, List.cons_append, scan_cons, start, step, if_neg blank,
        openValue_of_not_opens closed.1, scan_failed] at whole
      cases whole

theorem loads_cons_of_not_opens {char : Char} (closed : opens char = false)
    (visible : isBlank char = false) (rest : List Char) :
    loads reader (char :: rest) = .error .noDocument := by
  rw [loads, scan_cons, start, step, if_neg (Bool.eq_false_iff.mp visible),
    openValue_of_not_opens closed, scan_failed]
  rfl

end Runs

end Onpremai.Library.JsonText
