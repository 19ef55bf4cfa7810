import Onpremai.Library.JsonText
import Onpremai.Library.Regex

/-!
# Tool calls in text

Models without native tool calls write them as text: an action and its input.  The calls are found
by a pattern with two groups, the name of the tool and the text of its arguments; here the pattern
is shown to find what a reader of the text finds by hand.
-/

namespace Onpremai.Gateway.React

open Onpremai.Library
open Onpremai.Library.Regex (Reading reads found greedyReads reluctantReads firstReading readAll)

def actionMark : List Char := "Action:".toList

def inputMark : List Char := "Action Input:".toList

def isAny (_ : Char) : Bool := true

def isLineEnd (char : Char) : Bool := char == '\n'

/-- A part of a pattern, as its group or not. -/
def marked (captures : Bool) (inner : Regex) : Regex :=
  if captures then .group inner else inner

/-- One or more characters, as few as possible. -/
def lazySome : Regex := .seq (.one isAny) (.manyLazy isAny)

def inputPattern (capturesInput : Bool) : Regex :=
  .seq (.many Text.isSpace) (.seq (marked capturesInput lazySome) (.alt (.one isLineEnd) .atEnd))

/-- What stands after the name: the mark of the arguments on a line of its own. -/
def cutPattern (capturesInput : Bool) : Regex :=
  .seq (.many Text.isSpace) (.seq (.one isLineEnd) (.seq (.many Text.isSpace)
    (.seq (Regex.literal inputMark) (inputPattern capturesInput))))

/-- `Action:\s*(.+?)\s*\n\s*Action Input:\s*(.+?)(?:\n|$)`, where the dot matches every
character.  One of the groups is captured. -/
def callPattern (capturesName capturesInput : Bool) : Regex :=
  .seq (Regex.literal actionMark) (.seq (.many Text.isSpace)
    (.seq (marked capturesName lazySome) (cutPattern capturesInput)))

/-- A tool call: the name of the tool, and the value whose text its arguments are. -/
structure ToolCall where
  name : String
  arguments : Json

def strip (text : List Char) : List Char := Text.stripChars Text.isSpace text

def readCall (reader : JsonText.Reader) (groups : List Char × List Char) :
    Except JsonText.Failure ToolCall :=
  let toolName := String.ofList (strip groups.1)
  let rawInput := strip groups.2
  match JsonText.loads reader rawInput with
  | .ok parsed => .ok { name := toolName, arguments := parsed }
  | .error .noDocument =>
    .ok { name := toolName, arguments := .obj [("input", .str (String.ofList rawInput))] }
  | .error failure => .error failure

def parseReactResponse (reader : JsonText.Reader) (content : List Char) :
    Except JsonText.Failure (Option (List ToolCall)) :=
  if content = [] then .ok none
  else do
    let names := (callPattern true false).findAll content
    let inputs := (callPattern false true).findAll content
    let toolCalls ← (names.zip inputs).mapM (readCall reader)
    return if toolCalls.isEmpty then none else some toolCalls

/-- Both groups of a match, and the text after it. -/
structure FoundCall where
  name : List Char
  input : List Char
  rest : List Char
  deriving DecidableEq, Repr

/-- The group that a pattern captures. -/
def FoundCall.reading (capturesName capturesInput : Bool) (captured : List Char)
    (call : FoundCall) : Reading :=
  (call.rest, if capturesInput then call.input else if capturesName then call.name else captured)

def lineOf (char : Char) (rest : List Char) : List Char × List Char :=
  (char :: rest.takeWhile fun char => !isLineEnd char,
    (rest.dropWhile fun char => !isLineEnd char).drop 1)

def inputOf (text : List Char) : Option (List Char × List Char) :=
  match text.dropWhile Text.isSpace with
  | char :: rest => some (lineOf char rest)
  | [] => text.getLast?.map fun last => ([last], [])

/-- The text goes on with the mark of the arguments on another line. -/
def Cuts (text : List Char) : Prop :=
  '\n' ∈ text.takeWhile Text.isSpace ∧ inputMark <+: text.dropWhile Text.isSpace

instance (text : List Char) : Decidable (Cuts text) := inferInstanceAs (Decidable (_ ∧ _))

/-- What stands after the name. -/
def cutOf (text : List Char) : Option (List Char × List Char) :=
  if Cuts text then inputOf ((text.dropWhile Text.isSpace).drop inputMark.length) else none

/-- A name goes on up to the first place where it may end. -/
def nameAfter : List Char → Option FoundCall
  | [] => none
  | char :: rest =>
    ((cutOf (char :: rest)).map fun both => { name := [], input := both.1, rest := both.2 }).or
      ((nameAfter rest).map fun call => { call with name := char :: call.name })

def nameOf : List Char → Option FoundCall
  | [] => none
  | char :: rest => (nameAfter rest).map fun call => { call with name := char :: call.name }

/-- A name begins after as many spaces as possible. -/
def callAt : List Char → Option FoundCall
  | [] => none
  | char :: rest =>
    if Text.isSpace char then (callAt rest).or (nameOf (char :: rest)) else nameOf (char :: rest)

def nextCall : List Char → Option FoundCall
  | [] => none
  | char :: rest =>
    (if actionMark <+: char :: rest then callAt ((char :: rest).drop actionMark.length)
      else none).or (nextCall rest)

/-- The groups of a number of calls. -/
def callsIn : Nat → List Char → List (List Char × List Char)
  | 0, _ => []
  | count + 1, text =>
    match nextCall text with
    | none => []
    | some call => (call.name, call.input) :: callsIn count call.rest

/-! ## The pattern finds them -/

section

variable {capturesName capturesInput : Bool} {captured : List Char}

theorem looksAhead_marked (captures : Bool) : (marked captures lazySome).LooksAhead := by
  cases captures with
  | false => exact ⟨trivial, trivial⟩
  | true => exact ⟨trivial, trivial⟩

theorem looksAhead_callPattern (capturesName capturesInput : Bool) :
    (callPattern capturesName capturesInput).LooksAhead :=
  ⟨Regex.looksAhead_literal _, trivial, looksAhead_marked _, trivial, trivial, trivial,
    Regex.looksAhead_literal _, trivial, looksAhead_marked _, trivial, trivial⟩

theorem reluctantReads_line {next : List Char → Option Reading}
    (ends : ∀ rest, (next ('\n' :: rest)).isSome = true)
    (goesOn : ∀ char rest, isLineEnd char = false → next (char :: rest) = none)
    (text : List Char) :
    reluctantReads isAny next text = next (text.dropWhile fun char => !isLineEnd char) := by
  induction text with
  | nil => rfl
  | cons char rest ih =>
    rw [reluctantReads]
    cases lineEnd : isLineEnd char with
    | true =>
      have newline : char = '\n' := by simpa [isLineEnd] using lineEnd
      rw [List.dropWhile_cons_of_neg (by simp [lineEnd]), newline, Option.or_of_isSome (ends rest)]
    | false =>
      rw [List.dropWhile_cons_of_pos (by simp [lineEnd]), goesOn char rest lineEnd, Option.none_or]
      exact ih

theorem take_group (char : Char) (before rest : List Char) :
    (char :: (before ++ rest)).take ((char :: (before ++ rest)).length - rest.length) =
      char :: before := by
  have count : (char :: (before ++ rest)).length - rest.length = (char :: before).length := by
    simp only [List.length_cons, List.length_append]
    omega
  rw [count, ← List.cons_append, List.take_left]

def inputEnd (text captured : List Char) : Option Reading :=
  (Regex.alt (.one isLineEnd) .atEnd).reads found text captured

theorem inputEnd_newline (rest captured : List Char) :
    inputEnd ('\n' :: rest) captured = some (rest, captured) := rfl

theorem inputEnd_goesOn {char : Char} (goesOn : isLineEnd char = false) (rest captured : List Char) :
    inputEnd (char :: rest) captured = none := by
  have newline : char ≠ '\n' := by
    rintro rfl
    cases goesOn
  simp [inputEnd, reads, goesOn, newline]

theorem reads_line (char : Char) (rest : List Char) :
    (marked capturesInput lazySome).reads inputEnd (char :: rest) captured =
      some ((lineOf char rest).2, if capturesInput then (lineOf char rest).1 else captured) := by
  have ends : ∀ group : List Char → List Char,
      reluctantReads isAny (fun rest => inputEnd rest (group rest)) rest =
        some ((lineOf char rest).2, group (rest.dropWhile fun char => !isLineEnd char)) := by
    intro group
    rw [reluctantReads_line (fun rest => by rw [inputEnd_newline]; rfl)
      fun char rest goesOn => inputEnd_goesOn goesOn rest _, lineOf]
    cases after : rest.dropWhile fun char => !isLineEnd char with
    | nil => rfl
    | cons first more =>
      have stops : isLineEnd first = true := by
        have head := List.head?_dropWhile_not (fun char => !isLineEnd char) rest
        rw [after] at head
        simpa using head
      have newline : first = '\n' := by simpa [isLineEnd] using stops
      rw [newline, inputEnd_newline]
      rfl
  cases capturesInput with
  | false => exact ends fun _ => captured
  | true =>
    have group := take_group char (rest.takeWhile fun char => !isLineEnd char)
      (rest.dropWhile fun char => !isLineEnd char)
    rw [List.takeWhile_append_dropWhile] at group
    have both := ends fun after => (char :: rest).take ((char :: rest).length - after.length)
    rw [group] at both
    exact both

def inputReading (capturesInput : Bool) (captured : List Char) (both : List Char × List Char) :
    Reading :=
  (both.2, if capturesInput then both.1 else captured)

theorem reads_input (text : List Char) : (inputPattern capturesInput).reads found text captured =
      (inputOf text).map (inputReading capturesInput captured) := by
  have line : ∀ char rest, (marked capturesInput lazySome).reads inputEnd (char :: rest) captured =
      some (inputReading capturesInput captured (lineOf char rest)) := fun char rest =>
    reads_line char rest
  have nothing : (marked capturesInput lazySome).reads inputEnd [] captured = none := by
    cases capturesInput <;> rfl
  change greedyReads Text.isSpace
    (fun rest => (marked capturesInput lazySome).reads inputEnd rest captured) text = _
  induction text with
  | nil => exact nothing
  | cons char rest ih =>
    rw [greedyReads, ih, inputOf, inputOf]
    by_cases space : Text.isSpace char = true
    · rw [if_pos space, List.dropWhile_cons_of_pos space]
      cases rest.dropWhile Text.isSpace with
      | cons first more => rfl
      | nil =>
        cases rest with
        | nil => exact line char []
        | cons second more =>
          rw [List.getLast?_cons_cons, List.getLast?_eq_some_getLast (List.cons_ne_nil _ _)]
          rfl
    · rw [if_neg space, List.dropWhile_cons_of_neg space, line]
      rfl

theorem not_isSpace_inputMark (char : Char) (rest : List Char) (space : Text.isSpace char = true) :
    ¬ inputMark <+: char :: rest := by
  intro starts
  have first : 'A' = char := (List.cons_prefix_cons.mp starts).1
  rw [← first] at space
  exact absurd space (by decide)

def afterBlanks (capturesInput : Bool) (captured text : List Char) : Option Reading :=
  if inputMark <+: text then
    (inputOf (text.drop inputMark.length)).map (inputReading capturesInput captured)
  else none

theorem reads_afterBlanks (text : List Char) :
    (Regex.seq (.many Text.isSpace) (.seq (Regex.literal inputMark)
        (inputPattern capturesInput))).reads found text captured =
      afterBlanks capturesInput captured (text.dropWhile Text.isSpace) := by
  have mark : ∀ rest, (Regex.seq (Regex.literal inputMark) (inputPattern capturesInput)).reads
      found rest captured = afterBlanks capturesInput captured rest := by
    intro rest
    rw [reads, Regex.reads_literal, reads_input, afterBlanks]
  rw [reads, reads, Regex.greedyReads_of_stops]
  · exact mark _
  · intro char rest space
    rw [mark, afterBlanks, if_neg (not_isSpace_inputMark char rest space)]

theorem reads_cut (text : List Char) : (cutPattern capturesInput).reads found text captured =
      (cutOf text).map (inputReading capturesInput captured) := by
  have line : ∀ char rest, (Regex.seq (.one isLineEnd) (.seq (.many Text.isSpace)
      (.seq (Regex.literal inputMark) (inputPattern capturesInput)))).reads found (char :: rest)
        captured =
      if isLineEnd char = true then
        afterBlanks capturesInput captured (rest.dropWhile Text.isSpace)
      else none := by
    intro char rest
    rw [reads, reads, reads_afterBlanks]
  have value : (cutOf text).map (inputReading capturesInput captured) =
      if '\n' ∈ text.takeWhile Text.isSpace then
        afterBlanks capturesInput captured (text.dropWhile Text.isSpace) else none := by
    rw [cutOf, afterBlanks]
    by_cases ends : '\n' ∈ text.takeWhile Text.isSpace
    · by_cases starts : inputMark <+: text.dropWhile Text.isSpace
      · rw [if_pos ⟨ends, starts⟩, if_pos ends, if_pos starts]
      · rw [if_neg fun both => starts both.2, if_pos ends, if_neg starts]
        rfl
    · rw [if_neg fun both => ends both.1, if_neg ends]
      rfl
  rw [value, cutPattern, reads, reads]
  clear value
  induction text with
  | nil => rfl
  | cons char rest ih =>
    rw [greedyReads, ih, line]
    by_cases space : Text.isSpace char = true
    · rw [if_pos space, List.takeWhile_cons_of_pos space, List.dropWhile_cons_of_pos space]
      simp only [isLineEnd, beq_iff_eq, List.mem_cons]
      by_cases here : char = '\n'
      · simp only [here, if_true, true_or]
        split
        · exact Option.or_self
        · rfl
      · simp only [Ne.symm here, false_or, if_neg here, Option.or_none]
    · have other : ¬ isLineEnd char = true := by
        intro lineEnd
        have newline : char = '\n' := by simpa [isLineEnd] using lineEnd
        rw [newline] at space
        exact space (by decide)
      rw [if_neg space, List.takeWhile_cons_of_neg space, if_neg other, if_neg List.not_mem_nil]

theorem reluctantReads_name (before text : List Char) :
    reluctantReads isAny (fun rest => (cutPattern capturesInput).reads found rest
        (if capturesName then (before ++ text).take ((before ++ text).length - rest.length)
          else captured)) text =
      (nameAfter text).map fun call =>
        ({ call with name := before ++ call.name } : FoundCall).reading capturesName capturesInput
          captured := by
  simp only [reads_cut]
  induction text generalizing before with
  | nil => rfl
  | cons char rest ih =>
    rw [reluctantReads, nameAfter]
    cases ends : cutOf (char :: rest) with
    | some both =>
      have group : (before ++ char :: rest).take
          ((before ++ char :: rest).length - (char :: rest).length) = before := by
        rw [List.length_append, Nat.add_sub_cancel, List.take_left]
      rw [group]
      simp [FoundCall.reading, inputReading]
    | none =>
      have further := ih (before ++ [char])
      simp only [List.append_assoc, List.singleton_append] at further
      rw [Option.map_none, Option.none_or, Option.map_none, Option.none_or, isAny, if_pos rfl,
        further, Option.map_map]
      rfl

theorem reads_name (text : List Char) :
    (marked capturesName lazySome).reads ((cutPattern capturesInput).reads found) text captured =
      (nameOf text).map (FoundCall.reading capturesName capturesInput captured) := by
  cases text with
  | nil => cases capturesName <;> rfl
  | cons char rest =>
    have named := @reluctantReads_name capturesName capturesInput captured [char] rest
    rw [nameOf, Option.map_map]
    cases capturesName with
    | false => exact named
    | true => exact named

theorem reads_callAt (text : List Char) :
    (Regex.seq (.many Text.isSpace) (.seq (marked capturesName lazySome)
        (cutPattern capturesInput))).reads found text captured =
      (callAt text).map (FoundCall.reading capturesName capturesInput captured) := by
  have name : ∀ rest, (Regex.seq (marked capturesName lazySome)
      (cutPattern capturesInput)).reads found rest captured =
        (nameOf rest).map (FoundCall.reading capturesName capturesInput captured) := fun rest =>
    reads_name rest
  rw [reads, reads]
  induction text with
  | nil => exact name []
  | cons char rest ih =>
    rw [greedyReads, callAt, ih, name]
    split
    · rw [Option.map_or]
    · rfl

theorem firstReading_call (text : List Char) :
    (callPattern capturesName capturesInput).firstReading text =
      (nextCall text).map (FoundCall.reading capturesName capturesInput []) := by
  have here : ∀ rest, (callPattern capturesName capturesInput).reads found rest [] =
      (if actionMark <+: rest then callAt (rest.drop actionMark.length) else none).map
        (FoundCall.reading capturesName capturesInput []) := by
    intro rest
    rw [callPattern, reads, Regex.reads_literal, reads_callAt]
    split <;> rfl
  induction text with
  | nil => exact here []
  | cons char rest ih =>
    rw [firstReading, here, ih, nextCall, Option.map_or]

end

theorem zip_readAll (count : Nat) (text : List Char) :
    ((callPattern true false).readAll count text).zip
        ((callPattern false true).readAll count text) = callsIn count text := by
  induction count generalizing text with
  | zero => rfl
  | succ count ih =>
    rw [readAll, readAll, callsIn, firstReading_call, firstReading_call]
    cases nextCall text with
    | none => rfl
    | some call => exact congrArg ((call.name, call.input) :: ·) (ih call.rest)

theorem parseReactResponse_eq (reader : JsonText.Reader) {content : List Char}
    (something : content ≠ []) :
    parseReactResponse reader content =
      ((callsIn content.length content).mapM (readCall reader)).map fun toolCalls =>
        if toolCalls.isEmpty then none else some toolCalls := by
  rw [parseReactResponse, if_neg something]
  simp only [Regex.findAll, Regex.findFrom_reading (looksAhead_callPattern _ _), zip_readAll]
  cases (callsIn content.length content).mapM (readCall reader) with
  | error failure => rfl
  | ok toolCalls => rfl

end Onpremai.Gateway.React
