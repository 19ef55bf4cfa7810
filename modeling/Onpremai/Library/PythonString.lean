import Mathlib.Data.List.Basic

/-!
# Single-quoted string literals of Python

The reader of a literal from its opening quote on: it undoes the escapes and stops at
the closing quote.  A text written between two quotes as it stands is read back as
that text exactly when it is plain.
-/

namespace Onpremai.Library.PythonString

def quote : Char := Char.ofNat 39

def backslash : Char := Char.ofNat 92

/-- The tokenizer reads a carriage return as a line feed. -/
def isNewline (char : Char) : Bool := char == '\n' || char == '\r'

def letterEscape? (char : Char) : Option Nat :=
  if char = backslash ∨ char = quote ∨ char = '"' then some char.toNat
  else if char = 'a' then some 7
  else if char = 'b' then some 8
  else if char = 't' then some 9
  else if char = 'n' then some 10
  else if char = 'v' then some 11
  else if char = 'f' then some 12
  else if char = 'r' then some 13
  else none

def octalDigit? (char : Char) : Option Nat :=
  if '0' ≤ char ∧ char ≤ '7' then some (char.toNat - 48) else none

def hexDigit? (char : Char) : Option Nat :=
  if '0' ≤ char ∧ char ≤ '9' then some (char.toNat - 48)
  else if 'a' ≤ char ∧ char ≤ 'f' then some (char.toNat - 87)
  else if 'A' ≤ char ∧ char ≤ 'F' then some (char.toNat - 55)
  else none

/-- How many digits the numeric escape of a letter has. -/
def hexLength? (char : Char) : Option Nat :=
  if char = 'x' then some 2
  else if char = 'u' then some 4
  else if char = 'U' then some 8
  else none

/-- Does a backslash before the character start an escape?  Before any other
character it stands for itself. -/
def isEscape (char : Char) : Bool :=
  isNewline char || (letterEscape? char).isSome || (octalDigit? char).isSome ||
    (hexLength? char).isSome || char == 'N'

/-- Where the reader is. -/
inductive Mode where
  | text
  /-- After a backslash. -/
  | escape
  /-- After an escaped carriage return, to which a line feed belongs. -/
  | carriage
  /-- In an octal escape, which ends after at most so many more digits. -/
  | octal (left value : Nat)
  /-- In a hexadecimal escape with one more digit than given to come. -/
  | hex (left value : Nat)
  /-- Before the brace of a named escape. -/
  | nameStart
  /-- In the name of a named escape; the letters are in reverse order. -/
  | name (letters : List Char)

/-- The value read so far is in front of what is read later. -/
def emit (code : Nat) (read : Option (List Nat × List Char)) : Option (List Nat × List Char) :=
  read.map fun result => (code :: result.1, result.2)

/-- A character outside of escapes. -/
def readText (char : Char) (rest : List Char)
    (next : Mode → Option (List Nat × List Char)) : Option (List Nat × List Char) :=
  if char = quote then some ([], rest)
  else if char = backslash then next .escape
  else if isNewline char then none
  else emit char.toNat (next .text)

def readEscape (char : Char) (next : Mode → Option (List Nat × List Char)) :
    Option (List Nat × List Char) :=
  if char = '\n' then next .text
  else if char = '\r' then next .carriage
  else match letterEscape? char with
    | some code => emit code (next .text)
    | none => match octalDigit? char with
      | some digit => next (.octal 2 digit)
      | none => match hexLength? char with
        | some length => next (.hex (length - 1) 0)
        | none =>
          if char = 'N' then next .nameStart
          else emit backslash.toNat (emit char.toNat (next .text))

/-- The value of a literal and the text after its closing quote; `none` where the
tokenizer reports an error.  `names` gives the characters that have a name. -/
def readLiteral (names : List Char → Option Nat) : Mode → List Char → Option (List Nat × List Char)
  | _, [] => none
  | .text, char :: rest => readText char rest fun mode => readLiteral names mode rest
  | .escape, char :: rest => readEscape char fun mode => readLiteral names mode rest
  | .carriage, char :: rest =>
    if char = '\n' then readLiteral names .text rest
    else readText char rest fun mode => readLiteral names mode rest
  | .octal 0 value, char :: rest =>
    emit value (readText char rest fun mode => readLiteral names mode rest)
  | .octal (left + 1) value, char :: rest =>
    match octalDigit? char with
    | some digit => readLiteral names (.octal left (8 * value + digit)) rest
    | none => emit value (readText char rest fun mode => readLiteral names mode rest)
  | .hex 0 value, char :: rest =>
    match hexDigit? char with
    | some digit =>
      if 16 * value + digit ≤ 0x10ffff then
        emit (16 * value + digit) (readLiteral names .text rest)
      else none
    | none => none
  | .hex (left + 1) value, char :: rest =>
    match hexDigit? char with
    | some digit => readLiteral names (.hex left (16 * value + digit)) rest
    | none => none
  | .nameStart, char :: rest =>
    if char = Char.ofNat 123 then readLiteral names (.name []) rest else none
  | .name letters, char :: rest =>
    if char = quote ∨ isNewline char then none
    else if char = Char.ofNat 125 then
      match names letters.reverse with
      | some code => emit code (readLiteral names .text rest)
      | none => none
    else readLiteral names (.name (char :: letters)) rest

/-- No quote, no line end, and no backslash that starts an escape or ends the text.
The flag tells whether a backslash came just before. -/
def plainFrom : Bool → List Char → Bool
  | escaped, [] => !escaped
  | true, char :: rest => !isEscape char && plainFrom false rest
  | false, char :: rest =>
    if char = backslash then plainFrom true rest
    else char != quote && !isNewline char && plainFrom false rest

/-- A text that is read back as it stands. -/
def isPlain (text : List Char) : Bool := plainFrom false text

/-- Characters that have no role in a literal do not matter to what follows them. -/
theorem isPlain_append {start : List Char}
    (ordinary : ∀ char ∈ start, char ≠ backslash ∧ char ≠ quote ∧ isNewline char = false)
    (text : List Char) : isPlain (start ++ text) = isPlain text := by
  induction start with
  | nil => rfl
  | cons char start ih =>
    rw [List.forall_mem_cons] at ordinary
    rcases ordinary with ⟨⟨notBackslash, notQuote, notNewline⟩, others⟩
    have rest := ih others
    rw [isPlain] at rest
    simp [isPlain, plainFrom, notBackslash, notQuote, notNewline, rest]

/-! ## What is read is no longer than what was written -/

variable {names : List Char → Option Nat}

theorem emit_eq_some {code : Nat} {read : Option (List Nat × List Char)}
    {result : List Nat × List Char} :
    emit code read = some result ↔
      ∃ later, read = some later ∧ result = (code :: later.1, later.2) := by
  rw [emit, Option.map_eq_some_iff]
  simp only [eq_comm]

def Bounded (text tail : List Char) (result : List Nat × List Char) : Mode → Prop
  | .text => result.1.length ≤ text.length ∧
      (result.1.length = text.length → plainFrom false text ∧ result.2 = tail)
  | .escape => result.1.length ≤ text.length + 1 ∧
      (result.1.length = text.length + 1 → plainFrom true text ∧ result.2 = tail)
  | _ => result.1.length ≤ text.length + 1

theorem Bounded.length_le {text tail : List Char} {result : List Nat × List Char}
    {mode : Mode} (bounded : Bounded text tail result mode) :
    result.1.length ≤ text.length + 1 := by
  cases mode with
  | text => exact Nat.le_succ_of_le bounded.1
  | escape => exact bounded.1
  | carriage => exact bounded
  | octal left value => exact bounded
  | hex left value => exact bounded
  | nameStart => exact bounded
  | name letters => exact bounded

section

variable {tail : List Char} {char : Char} {text : List Char}

section

variable {next : Mode → Option (List Nat × List Char)}

theorem bounded_readText
    (later : ∀ mode result, next mode = some result → Bounded text tail result mode)
    {rest : List Char} {result : List Nat × List Char}
    (read : readText char rest next = some result) : Bounded (char :: text) tail result .text := by
  rw [readText] at read
  split at read
  · rw [← Option.some.inj read]
    simp [Bounded]
  · split at read
    · next isBackslash =>
      have bounded := later .escape result read
      simp only [Bounded, List.length_cons] at bounded ⊢
      refine ⟨bounded.1, fun same => ?_⟩
      rw [plainFrom, if_pos isBackslash]
      exact bounded.2 same
    · split at read
      · cases read
      · next notQuote notBackslash notNewline =>
        rcases emit_eq_some.mp read with ⟨remaining, readRest, rfl⟩
        have bounded := later .text remaining readRest
        simp only [Bounded, List.length_cons] at bounded ⊢
        refine ⟨by omega, fun same => ?_⟩
        have plain := bounded.2 (by omega)
        rw [plainFrom, if_neg notBackslash]
        exact ⟨by simp [notQuote, notNewline, plain.1], plain.2⟩

theorem bounded_readEscape
    (later : ∀ mode result, next mode = some result → Bounded text tail result mode)
    {result : List Nat × List Char} (read : readEscape char next = some result) :
    Bounded (char :: text) tail result .escape := by
  -- a reading that is one shorter than the text is no case of equality
  have shorter : result.1.length ≤ text.length + 1 →
      Bounded (char :: text) tail result .escape := by
    intro bound
    refine ⟨Nat.le_succ_of_le bound, fun same => ?_⟩
    rw [List.length_cons] at same
    omega
  rw [readEscape] at read
  split at read
  · exact shorter (later _ _ read).length_le
  · split at read
    · exact shorter (later _ _ read).length_le
    · next notLine notReturn =>
      split at read
      · rcases emit_eq_some.mp read with ⟨remaining, readRest, rfl⟩
        have bounded := (later _ _ readRest).1
        apply shorter
        rw [List.length_cons]
        omega
      · next notLetter =>
        split at read
        · exact shorter (later _ _ read).length_le
        · next notOctal =>
          split at read
          · exact shorter (later _ _ read).length_le
          · next notHex =>
            split at read
            · exact shorter (later _ _ read).length_le
            · next notName =>
              rcases emit_eq_some.mp read with ⟨_, readChar, rfl⟩
              rcases emit_eq_some.mp readChar with ⟨remaining, readRest, rfl⟩
              have bounded := later _ _ readRest
              simp only [Bounded, List.length_cons] at bounded ⊢
              refine ⟨by omega, fun same => ?_⟩
              have plain := bounded.2 (by omega)
              refine ⟨?_, plain.2⟩
              simp [plainFrom, isEscape, isNewline, notLine, notReturn, notLetter,
                notOctal, notHex, notName, plain.1]

end

end

theorem bounded_readLiteral_quote {tail : List Char}
    (unclosed : readLiteral names .text tail = none) {mode : Mode}
    {result : List Nat × List Char}
    (read : readLiteral names mode (quote :: tail) = some result) :
    Bounded [] tail result mode := by
  have closes : ∀ next, readText quote tail next = some ([], tail) := fun next => rfl
  cases mode with
  | text =>
    rw [readLiteral, closes] at read
    rw [← Option.some.inj read]
    exact ⟨Nat.le_refl 0, fun _ => ⟨rfl, rfl⟩⟩
  | escape =>
    -- the quote is escaped, and the tail closes no literal
    have escaped : readEscape quote (fun mode => readLiteral names mode tail) =
        emit quote.toNat (readLiteral names .text tail) := rfl
    rw [readLiteral, escaped, unclosed] at read
    cases read
  | carriage =>
    have apart : quote ≠ '\n' := by decide
    rw [readLiteral, if_neg apart, closes] at read
    rw [← Option.some.inj read]
    exact Nat.zero_le _
  | octal left value =>
    cases left <;>
      · have digit : octalDigit? quote = none := rfl
        simp only [readLiteral, digit, closes, emit, Option.map_some] at read
        rw [← Option.some.inj read]
        exact Nat.le_refl 1
  | hex left value =>
    cases left <;>
      · have digit : hexDigit? quote = none := rfl
        simp [readLiteral, digit] at read
  | nameStart =>
    have brace : quote ≠ Char.ofNat 123 := by decide
    simp [readLiteral, brace] at read
  | name letters => simp [readLiteral] at read

theorem bounded_readLiteral {tail : List Char}
    (unclosed : readLiteral names .text tail = none) {mode : Mode} {text : List Char}
    {result : List Nat × List Char}
    (read : readLiteral names mode (text ++ quote :: tail) = some result) :
    Bounded text tail result mode := by
  induction text generalizing mode result with
  | nil => exact bounded_readLiteral_quote unclosed read
  | cons char text ih =>
    have later : ∀ mode result, readLiteral names mode (text ++ quote :: tail) = some result →
          Bounded text tail result mode := fun mode result => ih
    have textBound : ∀ result, readText char (text ++ quote :: tail)
          (fun mode => readLiteral names mode (text ++ quote :: tail)) = some result →
            result.1.length ≤ text.length + 1 := by
      intro result read
      exact (bounded_readText later read).1
    -- in the other modes two characters stand for at most one
    have longer : ∀ {count : Nat}, count ≤ text.length + 1 →
        count ≤ (char :: text).length + 1 := by
      intro count bound
      rw [List.length_cons]
      omega
    rw [List.cons_append] at read
    cases mode with
    | text => exact bounded_readText later read
    | escape => exact bounded_readEscape later read
    | carriage =>
      rw [readLiteral] at read
      split at read
      · exact longer (ih read).length_le
      · exact longer (textBound result read)
    | octal left value =>
      cases left with
      | zero =>
        rw [readLiteral] at read
        rcases emit_eq_some.mp read with ⟨remaining, readRest, rfl⟩
        exact Nat.succ_le_succ (textBound remaining readRest)
      | succ left =>
        rw [readLiteral] at read
        split at read
        · exact longer (ih read).length_le
        · rcases emit_eq_some.mp read with ⟨remaining, readRest, rfl⟩
          exact Nat.succ_le_succ (textBound remaining readRest)
    | hex left value =>
      cases left with
      | zero =>
        rw [readLiteral] at read
        split at read
        · split at read
          · rcases emit_eq_some.mp read with ⟨remaining, readRest, rfl⟩
            exact Nat.succ_le_succ (ih readRest).length_le
          · cases read
        · cases read
      | succ left =>
        rw [readLiteral] at read
        split at read
        · exact longer (ih read).length_le
        · cases read
    | nameStart =>
      rw [readLiteral] at read
      split at read
      · exact longer (ih read).length_le
      · cases read
    | name letters =>
      rw [readLiteral] at read
      split at read
      · cases read
      · split at read
        · split at read
          · rcases emit_eq_some.mp read with ⟨remaining, readRest, rfl⟩
            exact Nat.succ_le_succ (ih readRest).length_le
          · cases read
        · exact longer (ih read).length_le

theorem readLiteral_plain (tail : List Char) {text : List Char} {escaped : Bool}
    (plain : plainFrom escaped text) :
    readLiteral names (if escaped then .escape else .text) (text ++ quote :: tail) =
      some ((if escaped then [backslash.toNat] else []) ++ text.map Char.toNat, tail) := by
  induction text generalizing escaped with
  | nil =>
    cases escaped with
    | true => cases plain
    | false => rfl
  | cons char text ih =>
    cases escaped with
    | true =>
      simp only [plainFrom, isEscape, isNewline, Bool.and_eq_true, Bool.not_eq_true',
        Bool.or_eq_false_iff, beq_eq_false_iff_ne, Option.isSome_eq_false_iff,
        Option.isNone_iff_eq_none] at plain
      rcases plain with ⟨⟨⟨⟨⟨⟨notLine, notReturn⟩, letter⟩, octal⟩, hex⟩, notName⟩, plain⟩
      have read := ih plain
      simp only [Bool.false_eq_true, if_false, List.nil_append] at read
      simp [readLiteral, readEscape, notLine, notReturn, letter, octal, hex, notName, read, emit]
    | false =>
      rw [plainFrom] at plain
      split at plain
      · next isBackslash =>
        have read := ih plain
        subst isBackslash
        simp only [if_true, List.singleton_append] at read
        have apart : backslash ≠ quote := by decide
        simp [readLiteral, readText, apart, read]
      · next notBackslash =>
        simp only [Bool.and_eq_true, bne_iff_ne, Bool.not_eq_true'] at plain
        rcases plain with ⟨⟨notQuote, notNewline⟩, plain⟩
        have read := ih plain
        simp only [Bool.false_eq_true, if_false, List.nil_append] at read
        simp [readLiteral, readText, notQuote, notBackslash, notNewline, read, emit]

theorem readLiteral_eq_iff {text tail rest : List Char}
    (unclosed : readLiteral names .text tail = none) :
    readLiteral names .text (text ++ quote :: tail) = some (text.map Char.toNat, rest) ↔
      isPlain text ∧ rest = tail := by
  constructor
  · intro read
    have bounded := bounded_readLiteral unclosed read
    exact bounded.2 (List.length_map _)
  · rintro ⟨plain, rfl⟩
    exact readLiteral_plain rest plain

end Onpremai.Library.PythonString
