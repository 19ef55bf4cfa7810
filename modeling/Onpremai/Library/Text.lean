import Mathlib.Data.List.Infix
import Mathlib.Data.List.TakeWhile

/-!
# Text operations

The string operations of the services, on lists of code points.  Case mapping is
given where it can produce an ASCII letter: every text that a mapped string is
compared with is ASCII, so the other code points can stay as they are.
-/

namespace Onpremai.Library.Text

/-- Code points that `strip` removes. -/
def isSpace (char : Char) : Bool :=
  let code := char.toNat
  (9 ≤ code && code ≤ 13) || (28 ≤ code && code ≤ 32) || code == 0x85 ||
    code == 0xa0 || code == 0x1680 || (0x2000 ≤ code && code ≤ 0x200a) ||
    code == 0x2028 || code == 0x2029 || code == 0x202f || code == 0x205f ||
    code == 0x3000

/-- Remove the leading and trailing characters that satisfy a test. -/
def stripChars (accept : Char → Bool) (text : List Char) : List Char :=
  ((text.dropWhile accept).reverse.dropWhile accept).reverse

/-- `text.strip()`. -/
def strip (text : String) : String := String.ofList (stripChars isSpace text.toList)

/-- `text.lstrip(chars)`. -/
def lstrip (chars : List Char) (text : String) : String :=
  String.ofList (text.toList.dropWhile fun char => chars.contains char)

/-- `text.strip("/")`. -/
def stripSlashes (text : String) : String :=
  String.ofList (stripChars (fun char => char == '/') text.toList)

/-- `text.rsplit("/", 1)[-1]`. -/
def afterLastSlash (text : String) : String :=
  String.ofList ((text.toList.reverse.takeWhile fun char => char != '/').reverse)

/-- Lower case of one code point: ASCII letters, and the two other code points
whose lower case contains an ASCII letter. -/
def lowerChar (char : Char) : List Char :=
  if char.toNat = 0x130 then ['i', Char.ofNat 0x307]
  else if char.toNat = 0x212a then ['k']
  else [char.toLower]

/-- `text.lower()`. -/
def lower (text : String) : String := String.ofList (text.toList.flatMap lowerChar)

/-- Upper case of one code point: ASCII letters, and the other code points whose
upper case contains an ASCII letter. -/
def upperChar (char : Char) : List Char :=
  match char.toNat with
  | 0xdf => ['S', 'S']
  | 0x131 => ['I']
  | 0x149 => [Char.ofNat 0x2bc, 'N']
  | 0x17f => ['S']
  | 0x1f0 => ['J', Char.ofNat 0x30c]
  | 0x1e96 => ['H', Char.ofNat 0x331]
  | 0x1e97 => ['T', Char.ofNat 0x308]
  | 0x1e98 => ['W', Char.ofNat 0x30a]
  | 0x1e99 => ['Y', Char.ofNat 0x30a]
  | 0x1e9a => ['A', Char.ofNat 0x2be]
  | 0xfb00 => ['F', 'F']
  | 0xfb01 => ['F', 'I']
  | 0xfb02 => ['F', 'L']
  | 0xfb03 => ['F', 'F', 'I']
  | 0xfb04 => ['F', 'F', 'L']
  | 0xfb05 => ['S', 'T']
  | 0xfb06 => ['S', 'T']
  | _ => [char.toUpper]

/-- `text.upper()`. -/
def upper (text : String) : String := String.ofList (text.toList.flatMap upperChar)

def occursIn (needle text : List Char) : Bool :=
  text.tails.any fun suffix => needle.isPrefixOf suffix

/-- `needle in text`. -/
def contains (needle text : String) : Bool := occursIn needle.toList text.toList

/-- Position of the first occurrence of the needle in the text. -/
def indexOf? (needle : List Char) : List Char → Option Nat
  | [] => if needle = [] then some 0 else none
  | char :: rest =>
    if needle.isPrefixOf (char :: rest) then some 0
    else (indexOf? needle rest).map (· + 1)

/-- `text.startswith(start)`. -/
def startsWith (start text : String) : Bool := start.toList.isPrefixOf text.toList

/-- `text.endswith(ending)`. -/
def endsWith (ending text : String) : Bool := ending.toList.isSuffixOf text.toList

/-- `text[:count]`. -/
def truncate (count : Nat) (text : String) : String := String.ofList (text.toList.take count)

/-- `text.split("\n")`. -/
def lines (text : String) : List String := (text.toList.splitOn '\n').map String.ofList

/-- Maximal runs of characters that are not spaces. -/
def wordsAux : List Char → List Char → List (List Char)
  | current, [] => if current.isEmpty then [] else [current.reverse]
  | current, char :: rest =>
    if isSpace char then
      if current.isEmpty then wordsAux [] rest
      else current.reverse :: wordsAux [] rest
    else wordsAux (char :: current) rest

/-- `text.split()`. -/
def words (text : String) : List String := (wordsAux [] text.toList).map String.ofList

/-- `"\n".join(lines)`. -/
def joinLines (parts : List String) : String :=
  String.ofList (List.intercalate ['\n'] (parts.map String.toList))

theorem contains_iff {needle text : String} :
    contains needle text = true ↔ needle.toList <:+: text.toList := by
  simp only [contains, occursIn, List.any_eq_true, List.mem_tails, List.isPrefixOf_iff_prefix,
    List.infix_iff_prefix_suffix]
  exact ⟨fun ⟨rest, suffix, start⟩ => ⟨rest, start, suffix⟩,
    fun ⟨rest, start, suffix⟩ => ⟨rest, suffix, start⟩⟩

theorem strip_eq_empty_iff {text : String} :
    strip text = "" ↔ ∀ char ∈ text.toList, isSpace char = true := by
  rw [strip, ← String.toList_inj, String.toList_ofList, stripChars]
  simp only [String.toList_empty, List.reverse_eq_nil_iff, List.dropWhile_eq_nil_iff,
    List.mem_reverse]
  constructor
  · intro inner char member
    rw [← @List.takeWhile_append_dropWhile _ isSpace text.toList, List.mem_append] at member
    rcases member with start | rest
    · exact List.mem_takeWhile_imp start
    · exact inner char rest
  · intro all char member
    exact all char ((List.dropWhile_sublist _).subset member)

@[simp] theorem truncate_empty (count : Nat) : truncate count "" = "" := by
  simp [truncate]

end Onpremai.Library.Text

/-!
## Decimal texts

The text of an integer, read back from a longer text: it ends where the digits end.
-/

namespace Onpremai.Library.Decimals

/-- The text of an integer. -/
def decimal (number : Int) : List Char := (toString number).toList

/-- What stands before the digits. -/
def sign (number : Int) : List Char := if 0 ≤ number then [] else ['-']

def digits (number : Int) : List Char := Nat.toDigits 10 number.natAbs

theorem decimal_eq (number : Int) : decimal number = sign number ++ digits number := by
  rw [decimal, sign, digits, Int.toString_eq_repr, Int.repr_eq_if]
  split
  · next positive =>
    have same : number.toNat = number.natAbs := by omega
    rw [Nat.toList_repr, same, List.nil_append]
  · next negative =>
    have same : (-number).toNat = number.natAbs := by omega
    rw [String.toList_append, Nat.toList_repr, same]
    rfl

theorem isDigit_of_mem_digits {number : Int} {char : Char} (inside : char ∈ digits number) :
    char.isDigit = true :=
  Nat.isDigit_of_mem_toDigits (by decide) (by decide) inside

theorem digits_ne_nil (number : Int) : digits number ≠ [] := Nat.toDigits_ne_nil

theorem notMem_decimal {number : Int} {char : Char} (noDigit : char.isDigit = false)
    (noMinus : char ≠ '-') : char ∉ decimal number := by
  rw [decimal_eq, List.mem_append, not_or]
  constructor
  · rw [sign]
    split
    · exact List.not_mem_nil
    · exact fun inside => noMinus (List.mem_singleton.mp inside)
  · intro inside
    rw [isDigit_of_mem_digits inside] at noDigit
    cases noDigit

theorem natAbs_of_digits {one two : Int} (same : digits one = digits two) :
    one.natAbs = two.natAbs := by
  rw [← Nat.ofDigitChars_ten_toDigits (n := one.natAbs),
    ← Nat.ofDigitChars_ten_toDigits (n := two.natAbs)]
  exact congrArg (fun chars => Nat.ofDigitChars 10 chars 0) same

/-- A text goes on with no digit. -/
def NoDigitAhead (rest : List Char) : Prop := ∀ char ∈ rest.head?, char.isDigit = false

theorem takeWhile_digits {number : Int} {rest : List Char} (ends : NoDigitAhead rest) :
    (digits number ++ rest).takeWhile Char.isDigit = digits number := by
  rw [List.takeWhile_append_of_pos fun char inside => isDigit_of_mem_digits inside]
  cases rest with
  | nil => simp
  | cons char rest => simp [ends char rfl]

theorem digits_append_inj {one two : Int} {rest other : List Char} (ends : NoDigitAhead rest)
    (otherEnds : NoDigitAhead other) (same : digits one ++ rest = digits two ++ other) :
    digits one = digits two ∧ rest = other := by
  have first : digits one = digits two := by
    rw [← takeWhile_digits ends, same, takeWhile_digits otherEnds]
  rw [first] at same
  exact ⟨first, List.append_cancel_left same⟩

theorem head?_digits_ne (number : Int) (rest : List Char) :
    (digits number ++ rest).head? ≠ some '-' := by
  cases shape : digits number with
  | nil => exact absurd shape (digits_ne_nil number)
  | cons char more =>
    intro minus
    have inside : char ∈ digits number := by
      rw [shape]
      exact List.mem_cons_self
    have digit := isDigit_of_mem_digits inside
    rw [Option.some.inj minus] at digit
    cases digit

theorem decimal_append_inj {one two : Int} {rest other : List Char} (ends : NoDigitAhead rest)
    (otherEnds : NoDigitAhead other) (same : decimal one ++ rest = decimal two ++ other) :
    one = two ∧ rest = other := by
  rw [decimal_eq, decimal_eq, List.append_assoc, List.append_assoc, sign, sign] at same
  split at same
  · next positive =>
    split at same
    · next alsoPositive =>
      have both := digits_append_inj ends otherEnds same
      have size := natAbs_of_digits both.1
      exact ⟨by omega, both.2⟩
    · have minus := congrArg List.head? same
      exact absurd minus (head?_digits_ne one rest)
  · next negative =>
    split at same
    · have minus := congrArg List.head? same
      exact absurd minus.symm (head?_digits_ne two other)
    · next alsoNegative =>
      have both := digits_append_inj ends otherEnds (List.cons.inj same).2
      have size := natAbs_of_digits both.1
      exact ⟨by omega, both.2⟩

theorem decimal_injective : Function.Injective decimal := by
  intro one two same
  have ends : NoDigitAhead [] := by
    intro char none
    cases none
  have whole : decimal one ++ [] = decimal two ++ [] := by rw [same]
  exact (decimal_append_inj ends ends whole).1

section

variable {α : Type} {char : α}

theorem eq_nil_of_cons_eq_append {rest middle ending : List α}
    (free : char ∉ rest) (same : char :: rest = middle ++ char :: ending) : middle = [] := by
  cases middle with
  | nil => rfl
  | cons first more =>
    rw [List.cons_append] at same
    rw [(List.cons.inj same).2] at free
    exact absurd (List.mem_append_right more List.mem_cons_self) free

/-- A text is split at the last place of a character in only one way. -/
theorem append_cons_inj_of_last {start other rest ending : List α}
    (restFree : char ∉ rest) (endingFree : char ∉ ending)
    (same : start ++ char :: rest = other ++ char :: ending) : start = other ∧ rest = ending := by
  rcases List.append_eq_append_iff.mp same with ⟨middle, rfl, ahead⟩ | ⟨middle, rfl, ahead⟩
  · have none := eq_nil_of_cons_eq_append restFree ahead
    rw [none, List.nil_append] at ahead
    rw [none, List.append_nil]
    exact ⟨rfl, (List.cons.inj ahead).2⟩
  · have none := eq_nil_of_cons_eq_append endingFree ahead
    rw [none, List.nil_append] at ahead
    rw [none, List.append_nil]
    exact ⟨rfl, (List.cons.inj ahead).2.symm⟩

/-- A text is split at the first place of a character in only one way. -/
theorem append_cons_inj_of_first {start other rest ending : List α}
    (startFree : char ∉ start) (otherFree : char ∉ other)
    (same : start ++ char :: rest = other ++ char :: ending) : start = other ∧ rest = ending := by
  have reversed := congrArg List.reverse same
  simp only [List.reverse_append, List.reverse_cons, List.append_assoc,
    List.singleton_append] at reversed
  rcases append_cons_inj_of_last (by rwa [List.mem_reverse]) (by rwa [List.mem_reverse])
    reversed with ⟨rests, starts⟩
  exact ⟨List.reverse_inj.mp starts, List.reverse_inj.mp rests⟩

end

end Onpremai.Library.Decimals
