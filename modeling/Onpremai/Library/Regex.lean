import Mathlib.Data.List.Basic

/-!
# Regular expressions

Patterns with one group, matched by backtracking: of all matches the one that is found
first when the alternatives and the lengths of repetitions are tried in order.
-/

namespace Onpremai.Library

/-- Patterns in which only classes of characters are repeated. -/
inductive Regex where
  | empty
  | one (accept : Char → Bool)
  | many (accept : Char → Bool)
  | manyLazy (accept : Char → Bool)
  | seq (first second : Regex)
  | alt (first second : Regex)
  | group (inner : Regex)
  | boundary (isWord : Char → Bool)
  | atEnd

namespace Regex

/-- A position in a text, and the text of the group so far. -/
structure Cursor where
  previous : Option Char
  rest : List Char
  captured : List Char

/-- One of two neighbouring characters belongs to a word. -/
def isBoundary (isWord : Char → Bool) (left right : Option Char) : Bool :=
  (left.any isWord) != (right.any isWord)

/-- Repeat a class as often as possible, then less often. -/
def greedy (accept : Char → Bool) (next : Cursor → Option Cursor) (captured : List Char) :
    Option Char → List Char → Option Cursor
  | previous, [] => next ⟨previous, [], captured⟩
  | previous, char :: rest =>
    if accept char then
      (greedy accept next captured (some char) rest).or
        (next ⟨previous, char :: rest, captured⟩)
    else next ⟨previous, char :: rest, captured⟩

/-- Repeat a class as rarely as possible, then more often. -/
def reluctant (accept : Char → Bool) (next : Cursor → Option Cursor) (captured : List Char) :
    Option Char → List Char → Option Cursor
  | previous, [] => next ⟨previous, [], captured⟩
  | previous, char :: rest =>
    (next ⟨previous, char :: rest, captured⟩).or
      (if accept char then reluctant accept next captured (some char) rest else none)

def matchFrom : Regex → (Cursor → Option Cursor) → Cursor → Option Cursor
  | .empty, next, cursor => next cursor
  | .one accept, next, cursor =>
    match cursor.rest with
    | [] => none
    | char :: rest => if accept char then next ⟨some char, rest, cursor.captured⟩ else none
  | .many accept, next, cursor =>
    greedy accept next cursor.captured cursor.previous cursor.rest
  | .manyLazy accept, next, cursor =>
    reluctant accept next cursor.captured cursor.previous cursor.rest
  | .seq first second, next, cursor => first.matchFrom (second.matchFrom next) cursor
  | .alt first second, next, cursor =>
    (first.matchFrom next cursor).or (second.matchFrom next cursor)
  | .group inner, next, cursor =>
    inner.matchFrom (fun after =>
      next { after with
        captured := cursor.rest.take (cursor.rest.length - after.rest.length) }) cursor
  | .boundary isWord, next, cursor =>
    if isBoundary isWord cursor.previous cursor.rest.head? then next cursor else none
  | .atEnd, next, cursor =>
    if cursor.rest = [] ∨ cursor.rest = ['\n'] then next cursor else none

/-- A match in a text: what stands before it, and the position after it. -/
structure Found where
  before : List Char
  after : Cursor

/-- `re.search`, from a position on. -/
def searchFrom (regex : Regex) : Option Char → List Char → Option Found
  | previous, [] => (regex.matchFrom some ⟨previous, [], []⟩).map fun after => ⟨[], after⟩
  | previous, char :: rest =>
    match regex.matchFrom some ⟨previous, char :: rest, []⟩ with
    | some after => some ⟨[], after⟩
    | none =>
      (searchFrom regex (some char) rest).map fun found =>
        ⟨char :: found.before, found.after⟩

/-- The group of the first match. -/
def search (regex : Regex) (text : List Char) : Option (List Char) :=
  (regex.searchFrom none text).map fun found => found.after.captured

def findFrom (regex : Regex) : Nat → Option Char → List Char → List (List Char)
  | 0, _, _ => []
  | count + 1, previous, text =>
    match regex.searchFrom previous text with
    | none => []
    | some found =>
      found.after.captured :: findFrom regex count found.after.previous found.after.rest

/-- `re.findall`, for a pattern that no empty text matches. -/
def findAll (regex : Regex) (text : List Char) : List (List Char) :=
  regex.findFrom text.length none text

/-- The pieces around a number of matches. -/
def splitFrom (regex : Regex) : Nat → Option Char → List Char → List (List Char)
  | 0, _, text => [text]
  | count + 1, previous, text =>
    match regex.searchFrom previous text with
    | none => [text]
    | some found =>
      found.before :: splitFrom regex count found.after.previous found.after.rest

/-- `re.split`, for a pattern without a group that no empty text matches. -/
def splitOn (regex : Regex) (text : List Char) : List (List Char) :=
  regex.splitFrom text.length none text

/-- A text, character by character. -/
def literal (text : List Char) : Regex :=
  text.foldr (fun char rest => .seq (.one fun other => other == char) rest) .empty

/-- The patterns of a list, one after the other. -/
def sequence (parts : List Regex) : Regex := parts.foldr .seq .empty

/-- One or more characters of a class. -/
def some1 (accept : Char → Bool) : Regex := .seq (.one accept) (.many accept)

/-- A pattern or nothing. -/
def optional (inner : Regex) : Regex := .alt inner .empty

/-- One of several patterns, the first that leads to a match. -/
def oneOf (first : Regex) (others : List Regex) : Regex :=
  match others with
  | [] => first
  | second :: rest => .alt first (oneOf second rest)

def wholeWord (isWord : Char → Bool) (text : List Char) : Regex :=
  .seq (.boundary isWord) (.seq (literal text) (.boundary isWord))

example : search (.seq (.one Char.isUpper) (.group (some1 Char.isDigit))) "ab C42d".toList =
    some ['4', '2'] := by decide

section

variable {isWord : Char → Bool} {next : Cursor → Option Cursor} {word text : List Char}

def lastOr (previous : Option Char) (text : List Char) : Option Char := text.getLast?.or previous

theorem matchFrom_literal (previous : Option Char) (captured : List Char) :
    ((literal word).matchFrom next ⟨previous, text, captured⟩).isSome = true ↔
      ∃ rest, text = word ++ rest ∧
        (next ⟨lastOr previous word, rest, captured⟩).isSome = true := by
  induction word generalizing previous text with
  | nil => simp [literal, matchFrom, lastOr]
  | cons char word ih =>
    cases text with
    | nil => simp [literal, matchFrom]
    | cons first rest =>
      have step : (literal (char :: word)).matchFrom next ⟨previous, first :: rest, captured⟩ =
          if first == char then
            (literal word).matchFrom next ⟨some first, rest, captured⟩ else none := rfl
      rw [step]
      by_cases same : first = char
      · subst same
        rw [if_pos (by simp), ih]
        cases word with
        | nil => simp [lastOr]
        | cons second word => simp [lastOr, List.getLast?_cons]
      · simp [same]

theorem lastOr_cons (previous : Option Char) (char : Char) :
    lastOr previous (char :: text) = lastOr (some char) text := by
  simp only [lastOr, List.getLast?_cons]
  cases text.getLast? with
  | none => rfl
  | some last => rfl

def OccursAsWord (isWord : Char → Bool) (word : List Char) (previous : Option Char)
    (text : List Char) : Prop :=
  ∃ before after, text = before ++ (word ++ after) ∧
    isBoundary isWord (lastOr previous before) (word ++ after).head? = true ∧
      isBoundary isWord (lastOr previous (before ++ word)) after.head? = true

theorem matchFrom_wholeWord (previous : Option Char) :
    ((wholeWord isWord word).matchFrom some ⟨previous, text, []⟩).isSome = true ↔
      ∃ after, text = word ++ after ∧ isBoundary isWord previous (word ++ after).head? = true ∧
          isBoundary isWord (lastOr previous word) after.head? = true := by
  have step : (wholeWord isWord word).matchFrom some ⟨previous, text, []⟩ =
      if isBoundary isWord previous text.head? then
        (literal word).matchFrom ((Regex.boundary isWord).matchFrom some) ⟨previous, text, []⟩
      else none := rfl
  rw [step]
  by_cases opens : isBoundary isWord previous text.head? = true
  · rw [if_pos opens, matchFrom_literal]
    constructor
    · rintro ⟨after, rfl, closes⟩
      refine ⟨after, rfl, opens, ?_⟩
      by_contra open_
      simp [matchFrom, open_] at closes
    · rintro ⟨after, rfl, -, closes⟩
      exact ⟨after, rfl, by simp [matchFrom, closes]⟩
  · rw [if_neg opens]
    constructor
    · intro matched
      cases matched
    · rintro ⟨after, rfl, also, -⟩
      exact absurd also opens

theorem searchFrom_wholeWord (previous : Option Char) :
    ((wholeWord isWord word).searchFrom previous text).isSome = true ↔
      OccursAsWord isWord word previous text := by
  induction text generalizing previous with
  | nil =>
    rw [searchFrom, Option.isSome_map, matchFrom_wholeWord]
    constructor
    · rintro ⟨after, here, opens, closes⟩
      exact ⟨[], after, here, opens, closes⟩
    · rintro ⟨before, after, here, opens, closes⟩
      rcases List.append_eq_nil_iff.mp here.symm with ⟨rfl, rest⟩
      exact ⟨after, rest.symm, opens, closes⟩
  | cons char text ih =>
    rw [searchFrom]
    have here := @matchFrom_wholeWord isWord word (char :: text) previous
    cases matched : (wholeWord isWord word).matchFrom some ⟨previous, char :: text, []⟩ with
    | some after =>
      rw [matched] at here
      rcases here.mp rfl with ⟨rest, split, opens, closes⟩
      exact iff_of_true rfl ⟨[], rest, split, opens, closes⟩
    | none =>
      rw [matched] at here
      rw [Option.isSome_map, ih]
      constructor
      · rintro ⟨before, after, rfl, opens, closes⟩
        refine ⟨char :: before, after, rfl, ?_, ?_⟩
        · rwa [lastOr_cons]
        · rwa [List.cons_append, lastOr_cons]
      · rintro ⟨before, after, split, opens, closes⟩
        cases before with
        | nil => cases here.mpr ⟨after, split, opens, closes⟩
        | cons first before =>
          rw [List.cons_append, List.cons.injEq] at split
          rcases split with ⟨rfl, rest⟩
          refine ⟨before, after, rest, ?_, ?_⟩
          · rwa [lastOr_cons] at opens
          · rwa [List.cons_append, lastOr_cons] at closes

end

section

variable {regex inner : Regex} {accept : Char → Bool} {next : Cursor → Option Cursor}
  {word captured : List Char} {previous : Option Char}

/-- The longest repetition is the one that is taken: what follows it always matches, or never
where the repetition could go on. -/
def Settles (accept : Char → Bool) (next : Cursor → Option Cursor) : Prop :=
  (∀ cursor, (next cursor).isSome = true) ∨ ∀ previous char rest captured, accept char = true →
      next ⟨previous, char :: rest, captured⟩ = none

end

end Regex

end Onpremai.Library

/-!
## Readings

A pattern without boundaries does not look back: what it matches depends on the text that is left
and on the group alone.  Its matches are found here without the character that stands before.
-/

namespace Onpremai.Library.Regex

/-- The text after a match, and the group. -/
abbrev Reading := List Char × List Char

def Cursor.reading (cursor : Cursor) : Reading := (cursor.rest, cursor.captured)

/-- A pattern without boundaries. -/
def LooksAhead : Regex → Prop
  | .boundary _ => False
  | .seq first second => first.LooksAhead ∧ second.LooksAhead
  | .alt first second => first.LooksAhead ∧ second.LooksAhead
  | .group inner => inner.LooksAhead
  | _ => True

/-- Repeat a class as often as possible, then less often. -/
def greedyReads (accept : Char → Bool) (next : List Char → Option Reading) :
    List Char → Option Reading
  | [] => next []
  | char :: rest =>
    if accept char then (greedyReads accept next rest).or (next (char :: rest))
    else next (char :: rest)

/-- Repeat a class as rarely as possible, then more often. -/
def reluctantReads (accept : Char → Bool) (next : List Char → Option Reading) :
    List Char → Option Reading
  | [] => next []
  | char :: rest =>
    (next (char :: rest)).or (if accept char then reluctantReads accept next rest else none)

/-- Match a pattern at the start of a text and go on with the rest of the match. -/
def reads : Regex → (List Char → List Char → Option Reading) → List Char → List Char →
    Option Reading
  | .empty, next, text, captured => next text captured
  | .one _, _, [], _ => none
  | .one accept, next, char :: rest, captured =>
    if accept char then next rest captured else none
  | .many accept, next, text, captured =>
    greedyReads accept (fun rest => next rest captured) text
  | .manyLazy accept, next, text, captured =>
    reluctantReads accept (fun rest => next rest captured) text
  | .seq first second, next, text, captured => first.reads (second.reads next) text captured
  | .alt first second, next, text, captured =>
    (first.reads next text captured).or (second.reads next text captured)
  | .group inner, next, text, captured =>
    inner.reads (fun rest _ => next rest (text.take (text.length - rest.length))) text captured
  | .boundary _, _, _, _ => none
  | .atEnd, next, text, captured =>
    if text = [] ∨ text = ['\n'] then next text captured else none

/-- The match is the end of a text and its group. -/
def found (rest captured : List Char) : Option Reading := some (rest, captured)

/-- The first match in a text. -/
def firstReading (regex : Regex) : List Char → Option Reading
  | [] => regex.reads found [] []
  | char :: rest => (regex.reads found (char :: rest) []).or (firstReading regex rest)

/-- The groups of a number of matches, one after the other. -/
def readAll (regex : Regex) : Nat → List Char → List (List Char)
  | 0, _ => []
  | count + 1, text =>
    match regex.firstReading text with
    | none => []
    | some (rest, captured) => captured :: readAll regex count rest

section

variable {accept : Char → Bool}

section

variable {next : Cursor → Option Cursor} {captured : List Char}
  {reading : List Char → Option Reading}

theorem greedy_reading (agree : ∀ previous rest,
      (next ⟨previous, rest, captured⟩).map Cursor.reading = reading rest)
    (previous : Option Char) (text : List Char) :
    (greedy accept next captured previous text).map Cursor.reading =
      greedyReads accept reading text := by
  induction text generalizing previous with
  | nil => exact agree previous []
  | cons char rest ih =>
    rw [greedy, greedyReads]
    split
    · rw [Option.map_or, ih, agree]
    · exact agree previous _

theorem reluctant_reading (agree : ∀ previous rest,
      (next ⟨previous, rest, captured⟩).map Cursor.reading = reading rest)
    (previous : Option Char) (text : List Char) :
    (reluctant accept next captured previous text).map Cursor.reading =
      reluctantReads accept reading text := by
  induction text generalizing previous with
  | nil => exact agree previous []
  | cons char rest ih =>
    rw [reluctant, reluctantReads, Option.map_or, agree]
    split
    · rw [ih]
    · rfl

end

theorem matchFrom_reading {regex : Regex} (ahead : regex.LooksAhead)
    {next : Cursor → Option Cursor} {reading : List Char → List Char → Option Reading}
    (agree : ∀ cursor, (next cursor).map Cursor.reading = reading cursor.rest cursor.captured)
    (cursor : Cursor) :
    (regex.matchFrom next cursor).map Cursor.reading =
      regex.reads reading cursor.rest cursor.captured := by
  induction regex generalizing next reading cursor with
  | empty => exact agree cursor
  | one accept =>
    rw [matchFrom]
    cases cursor.rest with
    | nil => rfl
    | cons char rest =>
      rw [reads]
      dsimp only
      split
      · exact agree _
      · rfl
  | many accept =>
    exact greedy_reading (fun previous rest => agree ⟨previous, rest, cursor.captured⟩) _ _
  | manyLazy accept =>
    exact reluctant_reading (fun previous rest => agree ⟨previous, rest, cursor.captured⟩) _ _
  | seq first second ihFirst ihSecond =>
    exact ihFirst ahead.1 (fun cursor => ihSecond ahead.2 agree cursor) cursor
  | alt first second ihFirst ihSecond =>
    rw [matchFrom, reads, Option.map_or, ihFirst ahead.1 agree, ihSecond ahead.2 agree]
  | group inner ih =>
    let taken (rest : List Char) := cursor.rest.take (cursor.rest.length - rest.length)
    exact @ih ahead (fun after => next { after with captured := taken after.rest })
      (fun rest _ => reading rest (taken rest)) (fun after => agree _) cursor
  | boundary isWord => exact ahead.elim
  | atEnd =>
    rw [matchFrom, reads]
    split
    · exact agree cursor
    · rfl

theorem searchFrom_reading {regex : Regex} (ahead : regex.LooksAhead) (previous : Option Char)
    (text : List Char) :
    (regex.searchFrom previous text).map (fun found => found.after.reading) =
      regex.firstReading text := by
  have here : ∀ previous text, (regex.matchFrom some ⟨previous, text, []⟩).map Cursor.reading =
      regex.reads found text [] := fun previous text =>
    matchFrom_reading ahead (fun _ => rfl) ⟨previous, text, []⟩
  induction text generalizing previous with
  | nil =>
    rw [searchFrom, Option.map_map, firstReading, ← here previous []]
    rfl
  | cons char rest ih =>
    rw [searchFrom, firstReading, ← here previous (char :: rest)]
    cases regex.matchFrom some ⟨previous, char :: rest, []⟩ with
    | some after => rfl
    | none =>
      rw [Option.map_map]
      exact ih (some char)

theorem findFrom_reading {regex : Regex} (ahead : regex.LooksAhead) (count : Nat)
    (previous : Option Char) (text : List Char) :
    regex.findFrom count previous text = regex.readAll count text := by
  induction count generalizing previous text with
  | zero => rfl
  | succ count ih =>
    rw [findFrom, readAll, ← searchFrom_reading ahead previous text]
    cases regex.searchFrom previous text with
    | none => rfl
    | some found => exact congrArg (found.after.captured :: ·) (ih _ _)

end

section

variable {accept : Char → Bool} {next : List Char → Option Reading}

/-- The longest repetition is taken where what follows it never starts with the class. -/
theorem greedyReads_of_stops
    (stops : ∀ char rest, accept char = true → next (char :: rest) = none) (text : List Char) :
    greedyReads accept next text = next (text.dropWhile accept) := by
  induction text with
  | nil => rfl
  | cons char rest ih =>
    rw [greedyReads]
    by_cases accepted : accept char = true
    · rw [if_pos accepted, ih, stops char rest accepted, Option.or_none,
        List.dropWhile_cons_of_pos accepted]
    · rw [if_neg accepted, List.dropWhile_cons_of_neg accepted]

theorem looksAhead_literal (word : List Char) : (literal word).LooksAhead := by
  induction word with
  | nil => trivial
  | cons char word ih => exact ⟨trivial, ih⟩

theorem reads_literal (word : List Char) (next : List Char → List Char → Option Reading)
    (text captured : List Char) :
    (literal word).reads next text captured =
      if word <+: text then next (text.drop word.length) captured else none := by
  induction word generalizing text with
  | nil => rw [if_pos List.nil_prefix]; rfl
  | cons char word ih =>
    have step : (literal (char :: word)).reads next text captured =
        (Regex.one fun other => other == char).reads ((literal word).reads next) text captured :=
      rfl
    rw [step]
    cases text with
    | nil => rw [if_neg (by simp)]; rfl
    | cons first rest =>
      rw [reads, ih]
      by_cases same : first = char
      · rw [same]
        simp [List.cons_prefix_cons]
      · have apart : ¬ char :: word <+: first :: rest := fun starts =>
          same (List.cons_prefix_cons.mp starts).1.symm
        rw [if_neg apart, if_neg (by simpa using same)]

end

end Onpremai.Library.Regex
