import Onpremai.Gateway.ReactCalls
import Onpremai.Library.VisibleLines

/-!
# Round trips of tool calls

A list of tool calls is written in the format that a model is told to use, with any text between
the calls, and parsed.  The calls come back exactly when the arguments of each stand on one line,
the text before a call does not contain the mark of an action, and the names are plain.
-/

namespace Onpremai.Gateway.React

open Onpremai.Library

theorem prefix_of_prefix_append {mark text rest : List Char} {char : Char}
    (alone : char ∉ mark.tail) (something : text ≠ []) (starts : mark <+: text ++ char :: rest) :
    mark <+: text := by
  rcases List.prefix_or_prefix_of_prefix starts (List.prefix_append text (char :: rest)) with
    inside | ⟨more, parts⟩
  · exact inside
  cases more with
  | nil => exact ⟨[], by rw [← parts, List.append_nil, List.append_nil]⟩
  | cons other more =>
    rw [← parts, List.prefix_append_right_inj, List.cons_prefix_cons] at starts
    have inTail : char ∈ mark.tail := by
      rw [← parts, List.tail_append_of_ne_nil something, starts.1]
      simp
    exact absurd inTail alone

theorem actionMark_eq : actionMark = 'A' :: "ction:".toList := by decide

theorem visible_of_mem_actionMark : ∀ char ∈ actionMark, Text.isSpace char = false := by
  simp [actionMark, Text.isSpace]

theorem not_cuts_cons {char : Char} (visible : Text.isSpace char = false) (rest : List Char) :
    ¬ Cuts (char :: rest) := by
  rintro ⟨breaks, -⟩
  rw [List.takeWhile_cons_of_neg (Bool.eq_false_iff.mp visible)] at breaks
  cases breaks

/-- The mark of the arguments can be seen. -/
theorem Cuts.visible {text : List Char} (cuts : Cuts text) :
    ∃ char ∈ text, Text.isSpace char = false := by
  obtain ⟨more, parts⟩ := cuts.2
  have inside : 'A' ∈ text.dropWhile Text.isSpace := by
    rw [← parts]
    exact List.mem_append_left _ (by decide)
  exact ⟨'A', (List.dropWhile_sublist _).subset inside, by decide⟩

theorem Cuts.append {text : List Char} (cuts : Cuts text) (rest : List Char) :
    Cuts (text ++ rest) := by
  have kept := cuts.visible
  obtain ⟨breaks, starts⟩ := cuts
  refine ⟨?_, ?_⟩
  · obtain ⟨char, inside, refused⟩ := kept
    rw [List.takeWhile_append, if_neg]
    · exact breaks
    · intro whole
      have all := List.takeWhile_eq_self_iff.mp ((List.takeWhile_prefix _).eq_of_length whole)
      rw [all char inside] at refused
      cases refused
  · rw [Text.dropWhile_append_of_exists kept]
    exact starts.trans (List.prefix_append _ _)

theorem Cuts.of_append {text rest : List Char} {char : Char} (cuts : Cuts (text ++ char :: rest))
    (alone : char ∉ inputMark.tail) (kept : ∃ char ∈ text, Text.isSpace char = false) :
    Cuts text := by
  obtain ⟨breaks, starts⟩ := cuts
  rw [Text.dropWhile_append_of_exists kept] at starts
  obtain ⟨visible, inside, refused⟩ := kept
  have all : ¬ ∀ char ∈ text, Text.isSpace char = true := by
    intro all
    rw [all visible inside] at refused
    cases refused
  refine ⟨?_, prefix_of_prefix_append alone ?_ starts⟩
  · rwa [List.takeWhile_append, if_neg] at breaks
    exact fun whole =>
      all (List.takeWhile_eq_self_iff.mp ((List.takeWhile_prefix _).eq_of_length whole))
  · rw [ne_eq, List.dropWhile_eq_nil_iff]
    exact all

/-! ## What the reader finds -/

theorem inputOf_eq_none_iff {text : List Char} : inputOf text = none ↔ text = [] := by
  rw [inputOf]
  cases visible : text.dropWhile Text.isSpace with
  | nil => rw [Option.map_eq_none_iff, List.getLast?_eq_none_iff]
  | cons char rest =>
    constructor
    · intro nothing
      cases nothing
    · rintro rfl
      cases visible

/-- A name ends where the mark of the arguments stands on another line with something after it. -/
theorem cutOf_eq_none_iff {text : List Char} : cutOf text = none ↔
      ¬ (Cuts text ∧ (text.dropWhile Text.isSpace).drop inputMark.length ≠ []) := by
  rw [cutOf]
  split
  next cuts => simp [inputOf_eq_none_iff, cuts]
  next whole => simp [whole]

theorem nameAfter_append {name rest : List Char} {both : List Char × List Char}
    (ends : cutOf rest = some both)
    (goesOn : ∀ start later, name = start ++ later → later ≠ [] → cutOf (later ++ rest) = none) :
    nameAfter (name ++ rest) = some { name, input := both.1, rest := both.2 } := by
  induction name with
  | nil =>
    cases rest with
    | nil => cases ends
    | cons char rest =>
      rw [List.nil_append, nameAfter, ends]
      rfl
  | cons char name ih =>
    have further := ih fun start later parts =>
      goesOn (char :: start) later (by rw [parts, List.cons_append])
    rw [List.cons_append, nameAfter, further,
      ← List.cons_append, goesOn [] (char :: name) rfl (List.cons_ne_nil _ _)]
    rfl

theorem nameAfter_some {text : List Char} {call : FoundCall} (named : nameAfter text = some call) :
    ∃ rest, text = call.name ++ rest ∧ cutOf rest = some (call.input, call.rest) ∧
      ∀ start later, call.name = start ++ later → later ≠ [] → cutOf (later ++ rest) = none := by
  induction text generalizing call with
  | nil => cases named
  | cons char text ih =>
    rw [nameAfter] at named
    cases ends : cutOf (char :: text) with
    | some both =>
      rw [ends] at named
      cases named
      refine ⟨char :: text, rfl, ends, ?_⟩
      intro start later parts something
      exact absurd (List.append_eq_nil_iff.mp parts.symm).2 something
    | none =>
      rw [ends, Option.map_none, Option.none_or, Option.map_eq_some_iff] at named
      obtain ⟨found, further, rfl⟩ := named
      obtain ⟨rest, parts, cut, goesOn⟩ := ih further
      refine ⟨rest, congrArg (char :: ·) parts, cut, ?_⟩
      intro start later split something
      cases start with
      | nil =>
        rw [← show char :: found.name = later from split, List.cons_append, ← parts]
        exact ends
      | cons first start => exact goesOn start later (List.cons.inj split).2 something

theorem nameAfter_eq_none_iff {text : List Char} :
    nameAfter text = none ↔ ∀ start rest, text = start ++ rest → cutOf rest = none := by
  induction text with
  | nil =>
    refine ⟨fun _ start rest parts => ?_, fun _ => rfl⟩
    rw [(List.append_eq_nil_iff.mp parts.symm).2]
    rfl
  | cons char text ih =>
    rw [nameAfter, Option.or_eq_none_iff, Option.map_eq_none_iff, Option.map_eq_none_iff, ih]
    constructor
    · rintro ⟨here, further⟩ start rest parts
      cases start with
      | nil =>
        rw [← show char :: text = rest from parts]
        exact here
      | cons first start => exact further start rest (List.cons.inj parts).2
    · intro all
      exact ⟨all [] _ rfl, fun start rest parts => all (char :: start) rest (by rw [parts]; rfl)⟩

theorem nameOf_append {name rest : List Char} {both : List Char × List Char} (something : name ≠ [])
    (ends : cutOf rest = some both)
    (goesOn : ∀ start later, name = start ++ later → start ≠ [] → later ≠ [] →
      cutOf (later ++ rest) = none) :
    nameOf (name ++ rest) = some { name, input := both.1, rest := both.2 } := by
  cases name with
  | nil => exact absurd rfl something
  | cons char name =>
    rw [List.cons_append, nameOf, nameAfter_append ends]
    · rfl
    · intro start later parts more
      exact goesOn (char :: start) later (by rw [parts]; rfl) (List.cons_ne_nil _ _) more

theorem nameOf_some {text : List Char} {call : FoundCall} (named : nameOf text = some call) :
    call.name ≠ [] ∧ ∃ rest, text = call.name ++ rest ∧ cutOf rest = some (call.input, call.rest) ∧
      ∀ start later, call.name = start ++ later → start ≠ [] → later ≠ [] →
        cutOf (later ++ rest) = none := by
  cases text with
  | nil => cases named
  | cons char text =>
    rw [nameOf, Option.map_eq_some_iff] at named
    obtain ⟨found, after, rfl⟩ := named
    obtain ⟨rest, parts, cut, goesOn⟩ := nameAfter_some after
    refine ⟨List.cons_ne_nil _ _, rest, congrArg (char :: ·) parts, cut, ?_⟩
    intro start later split first something
    cases start with
    | nil => exact absurd rfl first
    | cons first start => exact goesOn start later (List.cons.inj split).2 something

theorem callAt_append {blanks text : List Char} {call : FoundCall}
    (spaces : ∀ char ∈ blanks, Text.isSpace char = true) (found : callAt text = some call) :
    callAt (blanks ++ text) = some call := by
  induction blanks with
  | nil => exact found
  | cons char blanks ih =>
    rw [List.forall_mem_cons] at spaces
    rw [List.cons_append, callAt, if_pos spaces.1, ih spaces.2]
    rfl

theorem callAt_cons {char : Char} (visible : Text.isSpace char = false) (rest : List Char) :
    callAt (char :: rest) = nameOf (char :: rest) := by
  rw [callAt, if_neg (Bool.eq_false_iff.mp visible)]

theorem callAt_some {text : List Char} {call : FoundCall} (found : callAt text = some call) :
    ∃ blanks rest, text = blanks ++ rest ∧ nameOf rest = some call := by
  induction text with
  | nil => cases found
  | cons char text ih =>
    rw [callAt] at found
    split at found
    · rcases Option.or_eq_some_iff.mp found with further | ⟨-, here⟩
      · obtain ⟨blanks, rest, parts, named⟩ := ih further
        exact ⟨char :: blanks, rest, congrArg (char :: ·) parts, named⟩
      · exact ⟨[], _, rfl, here⟩
    · exact ⟨[], _, rfl, found⟩

theorem nextCall_some {text : List Char} {call : FoundCall} (found : nextCall text = some call) :
    ∃ start rest, text = start ++ (actionMark ++ rest) ∧ callAt rest = some call := by
  induction text with
  | nil => cases found
  | cons char text ih =>
    rw [nextCall] at found
    rcases Option.or_eq_some_iff.mp found with here | ⟨-, further⟩
    · split at here
      next starts =>
        obtain ⟨rest, parts⟩ := starts
        refine ⟨[], rest, parts.symm, ?_⟩
        rwa [← parts, List.drop_left] at here
      next => cases here
    · obtain ⟨start, rest, parts, called⟩ := ih further
      exact ⟨char :: start, rest, congrArg (char :: ·) parts, called⟩

theorem nextCall_append {start rest : List Char} {call : FoundCall}
    (clear : ¬ actionMark <:+: start) (found : callAt rest = some call) :
    nextCall (start ++ (actionMark ++ rest)) = some call := by
  induction start with
  | nil =>
    have starts : actionMark <+: actionMark ++ rest := List.prefix_append _ _
    rw [List.nil_append]
    nth_rewrite 1 [actionMark_eq]
    rw [List.cons_append, nextCall, ← List.cons_append, ← actionMark_eq, if_pos starts,
      List.drop_left, found]
    rfl
  | cons char start ih =>
    have apart : ¬ actionMark <+: char :: start ++ (actionMark ++ rest) := by
      intro starts
      nth_rewrite 2 [actionMark_eq] at starts
      rw [List.cons_append] at starts
      exact clear (prefix_of_prefix_append (by decide) (List.cons_ne_nil _ _) starts).isInfix
    rw [List.cons_append] at apart ⊢
    rw [nextCall, if_neg apart, Option.none_or]
    exact ih fun inside => clear (inside.trans (List.suffix_cons _ _).isInfix)

theorem length_cutOf {text : List Char} {both : List Char × List Char}
    (ends : cutOf text = some both) : both.2.length ≤ text.length := by
  rw [cutOf] at ends
  split at ends
  · have input : both.2.length ≤
        ((text.dropWhile Text.isSpace).drop inputMark.length).length := by
      rw [inputOf] at ends
      have shorter := List.length_dropWhile_le Text.isSpace
        ((text.dropWhile Text.isSpace).drop inputMark.length)
      split at ends
      next char rest visible =>
        cases ends
        have line := List.length_dropWhile_le (fun char => !isLineEnd char) rest
        rw [visible] at shorter
        simp only [lineOf, List.length_drop, List.length_cons] at shorter ⊢
        omega
      next =>
        obtain ⟨last, -, rfl⟩ := Option.map_eq_some_iff.mp ends
        exact Nat.zero_le _
    have blanks := List.length_dropWhile_le Text.isSpace text
    rw [List.length_drop] at input
    omega
  · cases ends

theorem length_nextCall {text : List Char} {call : FoundCall} (found : nextCall text = some call) :
    call.rest.length < text.length := by
  obtain ⟨start, rest, rfl, called⟩ := nextCall_some found
  obtain ⟨blanks, after, rfl, named⟩ := callAt_some called
  obtain ⟨something, tail, rfl, cut, -⟩ := nameOf_some named
  have shorter := length_cutOf cut
  have longer := List.length_pos_of_ne_nil something
  simp only [List.length_append] at shorter ⊢
  omega

theorem callsIn_of_le {first second : Nat} {text : List Char} (enough : text.length ≤ first)
    (more : text.length ≤ second) : callsIn first text = callsIn second text := by
  induction first generalizing second text with
  | zero =>
    rw [List.length_eq_zero_iff.mp (Nat.le_zero.mp enough)]
    cases second <;> rfl
  | succ first ih =>
    cases second with
    | zero =>
      rw [List.length_eq_zero_iff.mp (Nat.le_zero.mp more)]
      rfl
    | succ second =>
      rw [callsIn, callsIn]
      cases found : nextCall text with
      | none => rfl
      | some call =>
        have shorter := length_nextCall found
        exact congrArg ((call.name, call.input) :: ·) (ih (by omega) (by omega))

def readCalls (reader : JsonText.Reader) (text : List Char) :
    Except JsonText.Failure (List ToolCall) :=
  (callsIn text.length text).mapM (readCall reader)

section

variable {reader : JsonText.Reader}

theorem readCalls_of_none {text : List Char} (nothing : nextCall text = none) :
    readCalls reader text = .ok [] := by
  rw [readCalls]
  cases text with
  | nil => rfl
  | cons char rest =>
    rw [List.length_cons, callsIn, nothing]
    rfl

theorem readCalls_of_some {text : List Char} {call : FoundCall}
    (found : nextCall text = some call) :
    readCalls reader text = (do
      let toolCall ← readCall reader (call.name, call.input)
      let others ← readCalls reader call.rest
      return toolCall :: others) := by
  have shorter := length_nextCall found
  rw [readCalls, readCalls]
  cases text with
  | nil => cases found
  | cons char rest =>
    rw [List.length_cons, callsIn, found]
    dsimp only
    rw [callsIn_of_le (Nat.lt_succ_iff.mp shorter) (Nat.le_refl _), List.mapM_cons]

def answer (toolCalls : List ToolCall) : Option (List ToolCall) :=
  if toolCalls.isEmpty then none else some toolCalls

theorem parseReactResponse_eq_ok_iff {content : List Char} {toolCalls : List ToolCall} :
    parseReactResponse reader content = .ok (answer toolCalls) ↔
      readCalls reader content = .ok toolCalls := by
  have injective : ∀ other, answer other = answer toolCalls ↔ other = toolCalls := by
    intro other
    cases other <;> cases toolCalls <;> simp [answer]
  by_cases something : content = []
  · have nothing : readCalls reader [] = .ok [] := rfl
    rw [something, nothing, parseReactResponse, if_pos rfl, Except.ok.injEq, Except.ok.injEq]
    exact injective []
  · rw [parseReactResponse_eq reader something, readCalls]
    cases (callsIn content.length content).mapM (readCall reader) with
    | error failure =>
      constructor <;> intro impossible <;> cases impossible
    | ok others =>
      rw [Except.map, Except.ok.injEq, Except.ok.injEq]
      exact injective others

end

/-- Whether the arguments are written on one line, or pretty-printed over several. -/
inductive Layout where
  | oneLine
  | severalLines
  deriving DecidableEq, Repr

/-- A tool call to write, and the text that stands before it. -/
structure ReactCall where
  lead : List Char
  name : List Char
  arguments : List (String × Json)
  layout : Layout

def ReactCall.toolCall (call : ReactCall) : ToolCall :=
  { name := String.ofList call.name, arguments := .obj call.arguments }

/-- A text of the arguments in the layout of the call. -/
structure Writes (reader : JsonText.Reader) (call : ReactCall) (text : List Char) : Prop where
  decodes : JsonText.loads reader text = .ok (.obj call.arguments)
  opens : text.head? = some '\x7b'
  closes : text.getLast? = some '\x7d'
  layout : '\n' ∈ text ↔ call.layout = .severalLines

def actionLine (name : List Char) : List Char := actionMark ++ ' ' :: name

def inputLine (text : List Char) : List Char := inputMark ++ ' ' :: text

def followingLines : List (ReactCall × List Char) → Option (List Char) → List Char
  | [], none => []
  | [], some closing => '\n' :: closing
  | (call, text) :: written, closing =>
    '\n' :: (call.lead ++ (actionLine call.name ++ '\n' :: (inputLine text ++
      followingLines written closing)))

def write (written : List (ReactCall × List Char)) (closing : Option (List Char)) : List Char :=
  (followingLines written closing).drop 1

/-- A text without a further call: nowhere is the mark of an action followed by something and, on
another line, by the mark of arguments. -/
def Quiet (text : List Char) : Prop :=
  ∀ start name later, text = start ++ (actionMark ++ (name ++ later)) → name ≠ [] → ¬ Cuts later

/-- However the arguments are written in their layouts, the calls come back in order. -/
def Recovers (reader : JsonText.Reader) (calls : List ReactCall) (closing : Option (List Char)) :
    Prop :=
  ∀ written : List (ReactCall × List Char), written.map Prod.fst = calls →
    (∀ entry ∈ written, Writes reader entry.1 entry.2) →
    parseReactResponse reader (write written closing) = .ok (answer (calls.map ReactCall.toolCall))

/-- A name without outer spaces that does not break off before a line with arguments. -/
def Plain (name : List Char) : Prop :=
  strip name = name ∧ ∀ start later, name = start ++ later → start ≠ [] → ¬ Cuts later

def GivesInput (text : List Char) : Prop :=
  ∃ start later, text = start ++ later ∧ cutOf later ≠ none

/-- A call that is found as it is written, whatever its arguments. -/
structure Legible (call : ReactCall) : Prop where
  clear : ¬ actionMark <:+: call.lead
  plain : Plain call.name
  oneLine : call.layout = .oneLine

def AllLegible : List ReactCall → Option (List Char) → Prop
  | [], _ => True
  | call :: calls, closing =>
    Legible call ∧ (call.name = [] → calls = [] ∧ ¬ GivesInput (followingLines [] closing)) ∧
      AllLegible calls closing

section

variable {name : List Char}

theorem length_strip_le (text : List Char) : (strip text).length ≤ text.length := by
  obtain ⟨first, last, parts, -⟩ := Text.exists_stripChars Text.isSpace text
  have count := congrArg List.length parts
  simp only [List.length_append] at count
  rw [strip]
  omega

theorem strip_eq_self {text : List Char}
    (first : ∀ char, text.head? = some char → Text.isSpace char = false)
    (last : ∀ char, text.getLast? = some char → Text.isSpace char = false) : strip text = text := by
  have front : text.dropWhile Text.isSpace = text := by
    cases text with
    | nil => rfl
    | cons char rest =>
      exact List.dropWhile_cons_of_neg (Bool.eq_false_iff.mp (first char rfl))
  rw [strip, Text.stripChars_eq_rdropWhile, front, List.rdropWhile_eq_self_iff]
  intro something
  exact Bool.eq_false_iff.mp (last _ (List.getLast?_eq_some_getLast something))

theorem visible_head {char : Char} {rest : List Char}
    (stripped : strip (char :: rest) = char :: rest) : Text.isSpace char = false := by
  rw [← Bool.not_eq_true]
  intro space
  rw [strip, Text.stripChars_cons space] at stripped
  have shorter := length_strip_le rest
  rw [strip, stripped, List.length_cons] at shorter
  omega

theorem visible_last {start later : List Char} (stripped : strip (start ++ later) = start ++ later)
    (something : later ≠ []) : ∃ char ∈ later, Text.isSpace char = false := by
  by_contra blank
  push Not at blank
  rw [strip, Text.stripChars_append_left fun char inside => eq_true_of_ne_false
    (blank char inside)] at stripped
  have shorter := length_strip_le start
  have longer := List.length_pos_of_ne_nil something
  rw [strip, stripped, List.length_append] at shorter
  omega

theorem plain_strip {text : List Char} {call : FoundCall} (named : nameOf text = some call) :
    Plain (strip call.name) := by
  refine ⟨Text.stripChars_idempotent _ _, ?_⟩
  intro start later parts first cuts
  obtain ⟨first', last, whole, -⟩ := Text.exists_stripChars Text.isSpace call.name
  obtain ⟨-, rest, -, cut, goesOn⟩ := nameOf_some named
  have split : call.name = (first' ++ start) ++ (later ++ last) := by
    rw [whole, ← strip, parts]
    simp
  have something : later ++ last ≠ [] := by
    rintro empty
    rw [(List.append_eq_nil_iff.mp empty).1] at cuts
    exact absurd cuts (by decide)
  have nothing := goesOn _ _ split (by simp [first]) something
  rw [cutOf_eq_none_iff, not_and, List.append_assoc] at nothing
  refine nothing (cuts.append _) ?_
  have something : rest ≠ [] := by
    rintro rfl
    rw [show cutOf [] = none by decide] at cut
    cases cut
  rw [Text.dropWhile_append_of_exists cuts.visible, ne_eq, List.drop_eq_nil_iff, List.length_append,
    List.length_append]
  have mark := cuts.2.length_le
  have longer := List.length_pos_of_ne_nil something
  omega

end

/-! ## Finding a written call -/

section

variable {lead name rest : List Char}

theorem inputMark_eq : inputMark = 'A' :: "ction Input:".toList := by decide

theorem cutOf_inputLine {char : Char} (visible : Text.isSpace char = false) (rest : List Char) :
    cutOf ('\n' :: (inputLine (char :: rest))) = some (lineOf char rest) := by
  have blank : ('\n' :: inputLine (char :: rest)).dropWhile Text.isSpace =
      inputLine (char :: rest) := by
    rw [List.dropWhile_cons_of_pos (by decide), inputLine, inputMark_eq, List.cons_append,
      List.dropWhile_cons_of_neg (by decide)]
  have cuts : Cuts ('\n' :: inputLine (char :: rest)) := by
    refine ⟨?_, ?_⟩
    · rw [List.takeWhile_cons_of_pos (by decide)]
      exact List.mem_cons_self
    · rw [blank]
      exact List.prefix_append _ _
  rw [cutOf, if_pos cuts, blank, inputLine, List.drop_left, inputOf,
    List.dropWhile_cons_of_pos (by decide),
    List.dropWhile_cons_of_neg (Bool.eq_false_iff.mp visible)]

theorem cutOf_name {start later : List Char} (plain : Plain name) (parts : name = start ++ later)
    (first : start ≠ []) (something : later ≠ []) (rest : List Char) :
    cutOf (later ++ '\n' :: rest) = none := by
  rw [cutOf_eq_none_iff, not_and]
  intro cuts
  have kept := visible_last (parts ▸ plain.1) something
  exact absurd (cuts.of_append (by decide) kept) (plain.2 start later parts first)

/-- What is found of a name: without a name, the space before the end of its line. -/
def shownName (name : List Char) : List Char := if name = [] then [' '] else name

theorem strip_shownName (plain : Plain name) : strip (shownName name) = name := by
  rw [shownName]
  split
  next empty => rw [empty]; decide
  next => exact plain.1

theorem callAt_named {both : List Char × List Char} (plain : Plain name) (something : name ≠ [])
    (cut : cutOf ('\n' :: rest) = some both) :
    callAt (' ' :: name ++ '\n' :: rest) = some { name, input := both.1, rest := both.2 } := by
  have named := nameOf_append something cut fun start later parts first more =>
    cutOf_name plain parts first more rest
  rw [List.cons_append, ← List.singleton_append]
  apply callAt_append (by simp [Text.isSpace])
  cases name with
  | nil => exact absurd rfl something
  | cons char name =>
    rw [List.cons_append] at named ⊢
    rw [callAt_cons (visible_head plain.1), named]

theorem callAt_unnamed {char : Char} {both : List Char × List Char}
    (visible : Text.isSpace char = false) (cut : cutOf ('\n' :: char :: rest) = some both)
    (last : nameOf (char :: rest) = none) :
    callAt (' ' :: '\n' :: char :: rest) =
      some { name := [' '], input := both.1, rest := both.2 } := by
  have nothing : nameAfter (char :: rest) = none := by
    rw [nameOf, Option.map_eq_none_iff] at last
    rw [nameAfter, last, cutOf, if_neg (not_cuts_cons visible rest)]
    rfl
  have line : nameAfter ('\n' :: char :: rest) =
      some { name := [], input := both.1, rest := both.2 } := by
    rw [nameAfter, cut]
    rfl
  have here : nameOf (' ' :: '\n' :: char :: rest) =
      some { name := [' '], input := both.1, rest := both.2 } := by
    rw [nameOf, line]
    rfl
  have space : nameOf ('\n' :: char :: rest) = none := by
    rw [nameOf, nothing]
    rfl
  rw [callAt, if_pos (by decide), callAt, if_pos (by decide), callAt_cons visible, last, space, here]
  rfl

theorem exists_first_mark (inside : actionMark <:+: lead) :
    ∃ first later, lead = first ++ (actionMark ++ later) ∧ ¬ actionMark <:+: first := by
  induction lead with
  | nil => exact absurd (List.infix_nil.mp inside) (by decide)
  | cons char lead ih =>
    by_cases starts : actionMark <+: char :: lead
    · obtain ⟨later, parts⟩ := starts
      refine ⟨[], later, parts.symm, ?_⟩
      rw [List.infix_nil]
      decide
    · rcases List.infix_cons_iff.mp inside with here | further
      · exact absurd here starts
      · obtain ⟨first, later, parts, clear⟩ := ih further
        refine ⟨char :: first, later, congrArg (char :: ·) parts, ?_⟩
        intro again
        rcases List.infix_cons_iff.mp again with here | inner
        · refine starts (here.trans ?_)
          rw [parts]
          exact List.prefix_append (char :: first) _
        · exact clear inner

theorem cutOf_space (rest : List Char) : cutOf (' ' :: rest) = cutOf rest := by
  have same : Cuts (' ' :: rest) ↔ Cuts rest := by
    rw [Cuts, Cuts, List.takeWhile_cons_of_pos (by decide), List.dropWhile_cons_of_pos (by decide),
      List.mem_cons]
    simp
  rw [cutOf, cutOf, List.dropWhile_cons_of_pos (by decide)]
  simp only [same]

theorem cutOf_action {seen : List Char} (whole : ¬ Cuts seen) (rest : List Char) :
    cutOf (seen ++ (actionMark ++ rest)) = none := by
  rw [cutOf_eq_none_iff, not_and]
  intro cuts
  by_cases kept : ∃ char ∈ seen, Text.isSpace char = false
  · rw [actionMark_eq, List.cons_append] at cuts
    exact absurd (cuts.of_append (by decide) kept) whole
  · push Not at kept
    have starts := cuts.2
    rw [List.dropWhile_append_of_pos fun char inside => eq_true_of_ne_false (kept char inside),
      actionMark_eq, List.cons_append, List.dropWhile_cons_of_neg (by decide), ← List.cons_append,
      ← actionMark_eq] at starts
    rcases List.prefix_or_prefix_of_prefix starts (List.prefix_append actionMark rest) with
      short | long
    · exact absurd short (by decide)
    · exact absurd long (by decide)

theorem nameOf_marked {seen shown : List Char} {both : List Char × List Char}
    (quiet : ∀ start later, seen = start ++ later → start ≠ [] → ¬ Cuts later)
    (cut : cutOf rest = some both)
    (goesOn : ∀ start later, shown = start ++ later → later ≠ [] → cutOf (later ++ rest) = none) :
    nameOf (seen ++ (actionMark ++ shown) ++ rest) =
      some { name := seen ++ (actionMark ++ shown), input := both.1, rest := both.2 } := by
  apply nameOf_append _ cut
  · intro start later parts first something
    rcases List.append_eq_append_iff.mp parts with ⟨more, rfl, inMark⟩ | ⟨more, inSeen, rfl⟩
    · rcases List.append_eq_append_iff.mp inMark with ⟨others, rfl, inShown⟩ | ⟨others, mark, rfl⟩
      · exact goesOn others later inShown something
      · cases others with
        | nil => exact goesOn [] shown rfl something
        | cons char others =>
          have visible := visible_of_mem_actionMark char (by rw [mark]; simp)
          rw [List.cons_append, List.cons_append, cutOf, if_neg (not_cuts_cons visible _)]
    · rw [List.append_assoc, List.append_assoc]
      exact cutOf_action (quiet start more inSeen first) _
  · rw [actionMark_eq]
    simp

theorem nameOf_marked_action {seen : List Char} {both : List Char × List Char}
    (plain : Plain name)
    (quiet : ∀ start later, seen = start ++ later → start ≠ [] → ¬ Cuts later)
    (cut : cutOf ('\n' :: rest) = some both) :
    ∃ call, nameOf (seen ++ (actionMark ++ (' ' :: name ++ '\n' :: rest))) = some call ∧
      name.length < (strip call.name).length := by
  cases name with
  | nil =>
    have named := @nameOf_marked (' ' :: '\n' :: rest) seen [] both quiet
      (by rw [cutOf_space, cut]) (by simp)
    rw [List.append_assoc, List.append_assoc] at named
    have inside : ':' ∈ seen ++ (actionMark ++ []) :=
      List.mem_append_right _ (List.mem_append_left _ (by decide))
    exact ⟨_, named, List.length_pos_of_mem (Text.mem_stripChars inside (by decide))⟩
  | cons char name =>
    have named := @nameOf_marked ('\n' :: rest) seen (' ' :: char :: name) both quiet cut (by
      intro start later parts something
      cases start with
      | nil =>
        rw [← show ' ' :: char :: name = later from parts, List.cons_append, cutOf_space,
          List.cons_append, cutOf, if_neg (not_cuts_cons (visible_head plain.1) _)]
      | cons space start =>
        have inner : char :: name = start ++ later := (List.cons.inj parts).2
        cases start with
        | nil =>
          rw [← show char :: name = later from inner, List.cons_append, cutOf,
            if_neg (not_cuts_cons (visible_head plain.1) _)]
        | cons first start =>
          exact cutOf_name plain inner (List.cons_ne_nil _ _) something rest)
    rw [List.append_assoc, List.append_assoc] at named
    refine ⟨_, named, ?_⟩
    have back : (char :: name).rdropWhile Text.isSpace = char :: name := by
      have stripped := plain.1
      rwa [strip, Text.stripChars_eq_rdropWhile, List.dropWhile_cons_of_neg
        (Bool.eq_false_iff.mp (visible_head plain.1))] at stripped
    have kept : ∃ other ∈ ' ' :: char :: name, Text.isSpace other = false :=
      ⟨char, by simp, visible_head plain.1⟩
    have marked : ∃ other ∈ seen ++ actionMark, Text.isSpace other = false :=
      ⟨':', List.mem_append_right _ (by decide), by decide⟩
    have whole : (' ' :: char :: name).rdropWhile Text.isSpace = ' ' :: char :: name := by
      rw [← List.singleton_append, Text.rdropWhile_append_of_exists
        ⟨char, List.mem_cons_self, visible_head plain.1⟩, back]
    rw [strip, ← List.append_assoc, Text.stripChars_append marked kept, whole]
    simp only [List.length_append, List.length_cons]
    omega

theorem callAt_marked {later text : List Char} {call : FoundCall}
    (named : nameOf (later.dropWhile Text.isSpace ++ (actionMark ++ text)) = some call) :
    callAt (later ++ (actionMark ++ text)) = some call := by
  rw [← @List.takeWhile_append_dropWhile _ Text.isSpace later, List.append_assoc]
  apply callAt_append fun char member => List.mem_takeWhile_imp member
  cases seen : later.dropWhile Text.isSpace with
  | nil =>
    rw [seen, actionMark_eq, List.nil_append, List.cons_append] at named
    rw [actionMark_eq, List.nil_append, List.cons_append, callAt_cons (by decide), named]
  | cons char more =>
    have head := List.head?_dropWhile_not Text.isSpace later
    rw [seen] at head named
    rw [List.cons_append] at named ⊢
    rw [callAt_cons (by simpa using head), named]

theorem nextCall_marked {both : List Char × List Char} (quiet : Quiet lead) (plain : Plain name)
    (inside : actionMark <:+: lead) (cut : cutOf ('\n' :: rest) = some both) :
    ∃ call, nextCall (lead ++ (actionLine name ++ '\n' :: rest)) = some call ∧
      name.length < (strip call.name).length := by
  obtain ⟨first, later, rfl, clear⟩ := exists_first_mark inside
  have split := @List.takeWhile_append_dropWhile _ Text.isSpace later
  obtain ⟨call, named, longer⟩ := nameOf_marked_action plain (by
    intro start more parts something
    refine quiet first (later.takeWhile Text.isSpace ++ start) more ?_ (by simp [something])
    rw [List.append_assoc, ← parts, split]) cut
  refine ⟨call, ?_, longer⟩
  rw [List.append_assoc, List.append_assoc, actionLine, List.append_assoc]
  exact nextCall_append clear (callAt_marked named)

end

section

variable {reader : JsonText.Reader} {call : ReactCall} {text : List Char}

theorem Writes.exists_rest (writes : Writes reader call text) : ∃ rest, text = '\x7b' :: rest := by
  cases text with
  | nil => cases writes.opens
  | cons char rest =>
    have first : char = '\x7b' := Option.some.inj writes.opens
    exact ⟨rest, by rw [first]⟩

theorem step_brace (deep : 0 < reader.maxDepth) :
    JsonText.step reader JsonText.start '\x7b' = .running .firstKey [.object [] ""] := by
  have blank : JsonText.isBlank '\x7b' = false := by decide
  have quote : '\x7b' ≠ '"' := by decide
  simp [JsonText.step, JsonText.start, blank, JsonText.openValue, deep]

theorem maxDepth_pos {rest : List Char} {value : Json}
    (decodes : JsonText.loads reader ('\x7b' :: rest) = .ok value) : 0 < reader.maxDepth := by
  by_contra shallow
  have blank : JsonText.isBlank '\x7b' = false := by decide
  have failed : JsonText.step reader JsonText.start '\x7b' = .failed .tooDeep := by
    simp [JsonText.step, JsonText.start, blank, JsonText.openValue, shallow]
  rw [JsonText.loads, JsonText.scan_cons, failed, JsonText.scan_failed] at decodes
  cases decodes

theorem loads_break (deep : 0 < reader.maxDepth) (rest : List Char) :
    JsonText.loads reader ('\x7b' :: '\n' :: rest) = JsonText.loads reader ('\x7b' :: rest) := by
  rw [JsonText.loads, JsonText.loads, JsonText.scan_cons, JsonText.scan_cons, JsonText.scan_cons,
    step_brace deep]
  rfl

/-- An object of one string that is broken after its key. -/
def brokenBrace : List Char := "\x7b\"input\":\n\"\x7b\"\x7d".toList

theorem loads_brokenBrace (deep : 0 < reader.maxDepth) :
    JsonText.loads reader brokenBrace = .ok (.obj [("input", .str "\x7b")]) := by
  have chars : brokenBrace = '\x7b' :: "\"input\":\n\"\x7b\"\x7d".toList := by decide
  rw [chars, JsonText.loads, JsonText.scan_cons, step_brace deep]
  rfl

theorem readCall_wrapped {name input : List Char} (stripped : strip input = input)
    (undecoded : JsonText.loads reader input = .error .noDocument) :
    readCall reader (name, input) =
      .ok { name := String.ofList (strip name)
            arguments := .obj [("input", .str (String.ofList input))] } := by
  simp only [readCall, stripped, undecoded]

theorem exists_broken (writes : Writes reader call text) (several : '\n' ∈ text) :
    ∃ line later, Writes reader call ('\x7b' :: (line ++ '\n' :: later)) ∧ '\n' ∉ line ∧
      ∀ name toolCall, readCall reader (name, '\x7b' :: line) = .ok toolCall →
        toolCall.arguments ≠ .obj call.arguments := by
  obtain ⟨rest, rfl⟩ := writes.exists_rest
  have deep := maxDepth_pos writes.decodes
  have layout : call.layout = .severalLines := writes.layout.mp several
  by_cases same : call.arguments = [("input", .str "\x7b")]
  · refine ⟨"\"input\":".toList, "\"\x7b\"\x7d".toList, ?_, by decide, ?_⟩
    · refine ⟨?_, rfl, by decide, fun _ => layout, fun _ => by decide⟩
      rw [same]
      exact loads_brokenBrace deep
    · intro name toolCall read
      have undecoded : JsonText.loads reader ('\x7b' :: "\"input\":".toList) =
          .error .noDocument := by
        rw [JsonText.loads, JsonText.scan_cons, step_brace deep]
        rfl
      rw [readCall_wrapped (by decide) undecoded] at read
      cases read
      rw [same]
      intro equal
      have texts := Json.str.inj (Prod.mk.inj (List.cons.inj (Json.obj.inj equal)).1).2
      exact absurd texts (by decide)
  · refine ⟨[], rest, ?_, by simp, ?_⟩
    · refine ⟨by rw [List.nil_append, loads_break deep, writes.decodes], rfl, ?_, ?_⟩
      · have closes := writes.closes
        cases rest with
        | nil => exact absurd closes (by decide)
        | cons char rest => exact closes
      · exact ⟨fun _ => layout, fun _ => by simp⟩
    · intro name toolCall read
      have undecoded : JsonText.loads reader ['\x7b'] = .error .noDocument := by
        rw [JsonText.loads, JsonText.scan_cons, step_brace deep]
        rfl
      rw [readCall_wrapped (by decide) undecoded] at read
      cases read
      intro equal
      exact same (Json.obj.inj equal).symm

theorem readCall_inline {name : List Char} (writes : Writes reader call text)
    (plain : strip name = call.name) : readCall reader (name, text) = .ok call.toolCall := by
  have stripped : strip text = text := by
    apply strip_eq_self
    · intro char first
      rw [writes.opens] at first
      cases first
      decide
    · intro char last
      rw [writes.closes] at last
      cases last
      decide
  simp only [readCall, stripped, writes.decodes, plain]
  rfl

theorem name_of_readCall {groups : List Char × List Char} {toolCall : ToolCall}
    (read : readCall reader groups = .ok toolCall) :
    toolCall.name = String.ofList (strip groups.1) := by
  rw [readCall] at read
  split at read
  · cases read
    rfl
  · cases read
    rfl
  · cases read

theorem readCalls_eq_ok {text : List Char} {found : FoundCall} {toolCall : ToolCall}
    {others : List ToolCall} (next : nextCall text = some found)
    (read : readCalls reader text = .ok (toolCall :: others)) :
    readCall reader (found.name, found.input) = .ok toolCall ∧
      readCalls reader found.rest = .ok others := by
  rw [readCalls_of_some next] at read
  cases first : readCall reader (found.name, found.input) with
  | error failure =>
    rw [first] at read
    cases read
  | ok head =>
    cases later : readCalls reader found.rest with
    | error failure =>
      rw [first, later] at read
      cases read
    | ok tail =>
      rw [first, later] at read
      cases read
      exact ⟨rfl, rfl⟩

theorem plain_of_readCalls {text : List Char} {toolCalls : List ToolCall}
    (read : readCalls reader text = .ok toolCalls) :
    ∀ toolCall ∈ toolCalls, Plain toolCall.name.toList := by
  induction toolCalls generalizing text with
  | nil => simp
  | cons toolCall others ih =>
    cases next : nextCall text with
    | none =>
      rw [readCalls_of_none next] at read
      cases read
    | some found =>
      obtain ⟨first, later⟩ := readCalls_eq_ok next read
      obtain ⟨start, rest, -, called⟩ := nextCall_some next
      obtain ⟨blanks, after, -, named⟩ := callAt_some called
      rw [List.forall_mem_cons, name_of_readCall first, String.toList_ofList]
      exact ⟨plain_strip named, ih later⟩

end

/-! ## Reading what is written -/

section

variable {reader : JsonText.Reader} {call : ReactCall} {calls : List ReactCall}
  {written : List (ReactCall × List Char)} {closing : Option (List Char)}

theorem followingLines_cases (written : List (ReactCall × List Char))
    (closing : Option (List Char)) :
    followingLines written closing = [] ∨
      followingLines written closing = '\n' :: write written closing := by
  rw [write]
  cases written with
  | nil =>
    cases closing with
    | none => exact .inl rfl
    | some closing => exact .inr rfl
  | cons entry written => exact .inr rfl

theorem write_cons (call : ReactCall) (text : List Char) (written : List (ReactCall × List Char))
    (closing : Option (List Char)) :
    write ((call, text) :: written) closing =
      call.lead ++ (actionLine call.name ++ '\n' :: inputLine (text ++
        followingLines written closing)) := by
  rw [write, followingLines, List.drop_one, List.tail_cons, inputLine, inputLine,
    List.append_assoc, List.cons_append]

theorem lineOf_inline {rest : List Char} (inline : '\n' ∉ '\x7b' :: rest) :
    lineOf '\x7b' (rest ++ followingLines written closing) =
      ('\x7b' :: rest, write written closing) := by
  have all : ∀ char ∈ rest, (!isLineEnd char) = true := by
    intro char member
    rw [Bool.not_eq_true', isLineEnd, beq_eq_false_iff_ne]
    rintro rfl
    exact inline (List.mem_cons_of_mem _ member)
  rw [lineOf, List.takeWhile_append_of_pos all, List.dropWhile_append_of_pos all]
  rcases followingLines_cases written closing with none | some
  · rw [none, write, none]
    simp
  · rw [some, List.takeWhile_cons_of_neg (by decide), List.dropWhile_cons_of_neg (by decide),
      List.append_nil, List.drop_one, List.tail_cons]

theorem lineOf_broken {line : List Char} (inline : '\n' ∉ line) (later : List Char) :
    lineOf '\x7b' (line ++ '\n' :: later) = ('\x7b' :: line, later) := by
  have all : ∀ char ∈ line, (!isLineEnd char) = true := by
    intro char member
    rw [Bool.not_eq_true', isLineEnd, beq_eq_false_iff_ne]
    rintro rfl
    exact inline member
  rw [lineOf, List.takeWhile_append_of_pos all, List.dropWhile_append_of_pos all,
    List.takeWhile_cons_of_neg (by decide), List.dropWhile_cons_of_neg (by decide),
    List.append_nil, List.drop_one, List.tail_cons]

theorem nameAfter_inline {line rest : List Char} (inline : '\n' ∉ line)
    (visible : ∀ char, line.getLast? = some char → Text.isSpace char = false) :
    nameAfter (line ++ rest) = none ↔ nameAfter rest = none := by
  rw [nameAfter_eq_none_iff, nameAfter_eq_none_iff]
  constructor
  · intro all start later parts
    exact all (line ++ start) later (by rw [parts, List.append_assoc])
  · intro all start later parts
    rcases List.append_eq_append_iff.mp parts with ⟨more, -, inRest⟩ | ⟨more, inLine, rfl⟩
    · exact all more later inRest
    · by_cases something : more = []
      · rw [something]
        exact all [] rest rfl
      rw [cutOf, if_neg]
      rintro ⟨breaks, -⟩
      have last := visible (more.getLast something) (by
        rw [inLine, List.getLast?_append_of_ne_nil _ something]
        exact List.getLast?_eq_some_getLast something)
      rw [List.takeWhile_append, if_neg] at breaks
      · refine inline ?_
        rw [inLine]
        exact List.mem_append_right _ ((List.takeWhile_sublist _).subset breaks)
      · intro whole
        have every := List.takeWhile_eq_self_iff.mp
          ((List.takeWhile_prefix _).eq_of_length whole)
        rw [every _ (List.getLast_mem something)] at last
        cases last

theorem nextCall_written {more : List Char} {both : List Char × List Char}
    (clear : ¬ actionMark <:+: call.lead) (plain : Plain call.name)
    (cut : cutOf ('\n' :: inputLine more) = some both)
    (last : call.name = [] → nameOf (inputLine more) = none) :
    nextCall (call.lead ++ (actionLine call.name ++ '\n' :: inputLine more)) =
      some { name := shownName call.name, input := both.1, rest := both.2 } := by
  rw [actionLine, List.append_assoc]
  apply nextCall_append clear
  rw [shownName]
  split
  next empty =>
    have nothing := last empty
    rw [inputLine, inputMark_eq, List.cons_append] at cut nothing ⊢
    rw [empty]
    exact callAt_unnamed (by decide) cut nothing
  next something => exact callAt_named plain something cut

theorem nextCall_mistaken {more : List Char} {found : FoundCall}
    (clear : ¬ actionMark <:+: call.lead) (empty : call.name = [])
    (named : nameOf (inputLine more) = some found) :
    nextCall (call.lead ++ (actionLine call.name ++ '\n' :: inputLine more)) = some found ∧
      strip found.name ≠ call.name := by
  refine ⟨?_, ?_⟩
  · rw [actionLine, List.append_assoc]
    apply nextCall_append clear
    rw [empty, show ' ' :: [] ++ '\n' :: inputLine more = [' ', '\n'] ++ inputLine more from rfl]
    apply callAt_append (by simp [Text.isSpace])
    rw [inputLine, inputMark_eq, List.cons_append] at named ⊢
    rw [callAt_cons (by decide), named]
  · obtain ⟨something, rest, parts, -⟩ := nameOf_some named
    cases shown : found.name with
    | nil => exact absurd shown something
    | cons char others =>
      rw [shown, inputLine, inputMark_eq, List.cons_append, List.cons_append] at parts
      have kept : 'A' ∈ strip ('A' :: others) := Text.mem_stripChars List.mem_cons_self (by decide)
      rw [empty, ← (List.cons.inj parts).1]
      exact List.ne_nil_of_mem kept

theorem cutOf_written (line rest : List Char) :
    cutOf ('\n' :: inputLine ('\x7b' :: line ++ rest)) = some (lineOf '\x7b' (line ++ rest)) :=
  cutOf_inputLine (by decide) _

theorem nameOf_inputLine {text : List Char} (writes : Writes reader call text)
    (inline : '\n' ∉ text) (rest : List Char) :
    nameOf (inputLine (text ++ rest)) = none ↔ nameAfter rest = none := by
  have parts : inputLine (text ++ rest) =
      'A' :: (("ction Input:".toList ++ ' ' :: text) ++ rest) := by
    rw [inputLine, inputMark_eq, List.cons_append, List.append_assoc, List.cons_append]
  rw [parts, nameOf, Option.map_eq_none_iff]
  apply nameAfter_inline
  · rw [List.mem_append, List.mem_cons, not_or, not_or]
    exact ⟨by decide, by decide, inline⟩
  · intro char last
    obtain ⟨more, rfl⟩ := writes.exists_rest
    rw [List.getLast?_append_of_ne_nil _ (List.cons_ne_nil _ _), List.getLast?_cons_cons,
      writes.closes] at last
    cases last
    decide

theorem exists_written (writable : ∀ call ∈ calls, ∃ text, Writes reader call text) :
    ∃ written : List (ReactCall × List Char), written.map Prod.fst = calls ∧
      ∀ entry ∈ written, Writes reader entry.1 entry.2 := by
  induction calls with
  | nil => exact ⟨[], rfl, by simp⟩
  | cons call calls ih =>
    rw [List.forall_mem_cons] at writable
    obtain ⟨⟨text, writes⟩, others⟩ := writable
    obtain ⟨written, same, all⟩ := ih others
    refine ⟨(call, text) :: written, by rw [List.map_cons, same], ?_⟩
    rw [List.forall_mem_cons]
    exact ⟨writes, all⟩

theorem recovers_iff_readCalls : Recovers reader calls closing ↔
      ∀ written : List (ReactCall × List Char), written.map Prod.fst = calls →
        (∀ entry ∈ written, Writes reader entry.1 entry.2) →
        readCalls reader (write written closing) = .ok (calls.map ReactCall.toolCall) := by
  simp only [Recovers, parseReactResponse_eq_ok_iff]

theorem Recovers.found {text : List Char} {found : FoundCall}
    (recovers : Recovers reader (call :: calls) closing) (same : written.map Prod.fst = calls)
    (all : ∀ entry ∈ written, Writes reader entry.1 entry.2) (writes : Writes reader call text)
    (next : nextCall (write ((call, text) :: written) closing) = some found) :
    readCall reader (found.name, found.input) = .ok call.toolCall ∧
      readCalls reader found.rest = .ok (calls.map ReactCall.toolCall) ∧
      strip found.name = call.name := by
  have read := recovers_iff_readCalls.mp recovers ((call, text) :: written)
    (by rw [List.map_cons, same]) (List.forall_mem_cons.mpr ⟨writes, all⟩)
  obtain ⟨first, later⟩ := readCalls_eq_ok next read
  exact ⟨first, later, (String.ofList_injective (name_of_readCall first)).symm⟩

theorem Recovers.plain (recovers : Recovers reader calls closing)
    (writable : ∀ call ∈ calls, ∃ text, Writes reader call text) :
    ∀ call ∈ calls, Plain call.name := by
  obtain ⟨written, same, all⟩ := exists_written writable
  have read := recovers_iff_readCalls.mp recovers written same all
  intro call member
  have plain := plain_of_readCalls read call.toolCall (List.mem_map_of_mem member)
  rwa [ReactCall.toolCall, String.toList_ofList] at plain

theorem Recovers.clear (recovers : Recovers reader (call :: calls) closing)
    (writable : ∀ other ∈ call :: calls, ∃ text, Writes reader other text)
    (plain : Plain call.name) (quiet : Quiet call.lead) : ¬ actionMark <:+: call.lead := by
  intro inside
  rw [List.forall_mem_cons] at writable
  obtain ⟨⟨text, writes⟩, others⟩ := writable
  obtain ⟨written, same, all⟩ := exists_written others
  obtain ⟨line, rfl⟩ := writes.exists_rest
  obtain ⟨found, next, longer⟩ := nextCall_marked quiet plain inside
    (cutOf_written line (followingLines written closing))
  rw [← write_cons] at next
  obtain ⟨-, -, named⟩ := recovers.found same all writes next
  rw [named] at longer
  exact lt_irrefl _ longer

theorem Recovers.unnamed {text : List Char} (recovers : Recovers reader (call :: calls) closing)
    (same : written.map Prod.fst = calls)
    (all : ∀ entry ∈ written, Writes reader entry.1 entry.2) (writes : Writes reader call text)
    (clear : ¬ actionMark <:+: call.lead) (empty : call.name = []) :
    nameOf (inputLine (text ++ followingLines written closing)) = none := by
  cases named : nameOf (inputLine (text ++ followingLines written closing)) with
  | none => rfl
  | some found =>
    obtain ⟨next, other⟩ := nextCall_mistaken clear empty named
    rw [← write_cons] at next
    exact absurd (recovers.found same all writes next).2.2 other

theorem Recovers.oneLine (recovers : Recovers reader (call :: calls) closing)
    (writable : ∀ other ∈ call :: calls, ∃ text, Writes reader other text)
    (plain : Plain call.name) (clear : ¬ actionMark <:+: call.lead) :
    call.layout = .oneLine := by
  cases layout : call.layout with
  | oneLine => rfl
  | severalLines =>
    rw [List.forall_mem_cons] at writable
    obtain ⟨⟨text, writes⟩, others⟩ := writable
    obtain ⟨written, same, all⟩ := exists_written others
    obtain ⟨line, later, broken, inline, wrong⟩ := exists_broken writes (writes.layout.mpr layout)
    have cut := cutOf_written (line ++ '\n' :: later) (followingLines written closing)
    have first : lineOf '\x7b' (line ++ '\n' :: later ++ followingLines written closing) =
        ('\x7b' :: line, later ++ followingLines written closing) := by
      rw [List.append_assoc, List.cons_append]
      exact lineOf_broken inline _
    rw [first] at cut
    have next := nextCall_written clear plain cut fun empty =>
      recovers.unnamed same all broken clear empty
    rw [← write_cons] at next
    exact absurd rfl (wrong _ _ (recovers.found same all broken next).1)

theorem Recovers.last (recovers : Recovers reader (call :: calls) closing)
    (writable : ∀ other ∈ call :: calls, ∃ text, Writes reader other text)
    (oneLine : call.layout = .oneLine) (clear : ¬ actionMark <:+: call.lead)
    (empty : call.name = []) : calls = [] ∧ ¬ GivesInput (followingLines [] closing) := by
  rw [List.forall_mem_cons] at writable
  obtain ⟨⟨text, writes⟩, others⟩ := writable
  obtain ⟨written, same, all⟩ := exists_written others
  have inline : '\n' ∉ text := by
    rw [writes.layout, oneLine]
    decide
  have nothing := (nameOf_inputLine writes inline _).mp
    (recovers.unnamed same all writes clear empty)
  rw [nameAfter_eq_none_iff] at nothing
  cases written with
  | nil =>
    rw [← same]
    refine ⟨rfl, ?_⟩
    rintro ⟨start, later, parts, gives⟩
    exact gives (nothing start later parts)
  | cons entry written =>
    obtain ⟨other, text⟩ := entry
    obtain ⟨line, rfl⟩ := (all _ List.mem_cons_self).exists_rest
    have cut := cutOf_written line (followingLines written closing)
    rw [nothing ('\n' :: (other.lead ++ actionLine other.name))] at cut
    · cases cut
    · simp [followingLines, inputLine]

theorem readCalls_legible {text : List Char} (legible : Legible call)
    (writes : Writes reader call text)
    (last : call.name = [] → nameAfter (followingLines written closing) = none) :
    readCalls reader (write ((call, text) :: written) closing) = (do
      let others ← readCalls reader (write written closing)
      return call.toolCall :: others) := by
  have inline : '\n' ∉ text := by
    rw [writes.layout, legible.oneLine]
    decide
  have named := nameOf_inputLine writes inline (followingLines written closing)
  obtain ⟨line, rfl⟩ := writes.exists_rest
  have cut := cutOf_written line (followingLines written closing)
  rw [lineOf_inline inline] at cut
  have next := nextCall_written legible.clear legible.plain cut fun empty =>
    named.mpr (last empty)
  rw [← write_cons] at next
  rw [readCalls_of_some next, readCall_inline writes (strip_shownName legible.plain)]
  rfl

theorem recovers_cons_iff (legible : Legible call) (writable : ∃ text, Writes reader call text)
    (last : call.name = [] → calls = [] ∧ ¬ GivesInput (followingLines [] closing)) :
    Recovers reader (call :: calls) closing ↔ Recovers reader calls closing := by
  have goesOn : ∀ text written, written.map Prod.fst = calls → Writes reader call text →
      readCalls reader (write ((call, text) :: written) closing) = (do
        let others ← readCalls reader (write written closing)
        return call.toolCall :: others) := by
    intro text written same writes
    refine readCalls_legible legible writes fun empty => ?_
    obtain ⟨none, quiet⟩ := last empty
    rw [none, List.map_eq_nil_iff] at same
    rw [same, nameAfter_eq_none_iff]
    intro start later parts
    by_contra gives
    exact quiet ⟨start, later, parts, gives⟩
  rw [recovers_iff_readCalls, recovers_iff_readCalls]
  constructor
  · intro recovers written same all
    obtain ⟨text, writes⟩ := writable
    have read := recovers ((call, text) :: written) (by rw [List.map_cons, same])
      (List.forall_mem_cons.mpr ⟨writes, all⟩)
    rw [goesOn text written same writes] at read
    cases later : readCalls reader (write written closing) with
    | error failure =>
      rw [later] at read
      cases read
    | ok others =>
      rw [later] at read
      exact congrArg Except.ok (List.cons.inj (Except.ok.inj read)).2
  · intro recovers written same all
    cases written with
    | nil => cases same
    | cons entry written =>
      obtain ⟨first, others⟩ := List.cons.inj same
      rw [List.forall_mem_cons] at all
      obtain ⟨other, text⟩ := entry
      cases first
      rw [goesOn text written others all.1, recovers written others all.2]
      rfl

theorem nextCall_quiet {text : List Char} (quiet : Quiet text) : nextCall text = none := by
  cases next : nextCall text with
  | none => rfl
  | some found =>
    obtain ⟨start, rest, parts, called⟩ := nextCall_some next
    obtain ⟨blanks, after, spaces, named⟩ := callAt_some called
    obtain ⟨something, later, shown, cut, -⟩ := nameOf_some named
    have cuts : ¬ Cuts later := quiet start (blanks ++ found.name) later
      (by rw [parts, spaces, shown, List.append_assoc]) (by simp [something])
    rw [cutOf, if_neg cuts] at cut
    cases cut

/-- The calls come back, however their arguments are written, exactly when all of them are
legible. -/
theorem recovers_iff (writable : ∀ call ∈ calls, ∃ text, Writes reader call text)
    (quiet : ∀ call ∈ calls, Quiet call.lead) (quietEnd : ∀ text ∈ closing, Quiet text) :
    Recovers reader calls closing ↔ AllLegible calls closing := by
  induction calls with
  | nil =>
    refine iff_of_true ?_ trivial
    rw [recovers_iff_readCalls]
    intro written same all
    rw [List.map_eq_nil_iff] at same
    apply readCalls_of_none
    rw [same, write]
    cases closing with
    | none => rfl
    | some text => exact nextCall_quiet (quietEnd text rfl)
  | cons call calls ih =>
    rw [AllLegible]
    have others := ih (List.forall_mem_cons.mp writable).2 (List.forall_mem_cons.mp quiet).2
    constructor
    · intro recovers
      have plain := recovers.plain writable call List.mem_cons_self
      have clear := recovers.clear writable plain (quiet call List.mem_cons_self)
      have oneLine := recovers.oneLine writable plain clear
      have last := recovers.last writable oneLine clear
      have legible : Legible call := ⟨clear, plain, oneLine⟩
      have head := recovers_cons_iff legible (writable call List.mem_cons_self) last
      exact ⟨legible, last, others.mp (head.mp recovers)⟩
    · rintro ⟨legible, last, all⟩
      rw [recovers_cons_iff legible (writable call List.mem_cons_self) last]
      exact others.mpr all

end

theorem quiet_of_clear {text : List Char} (clear : ¬ actionMark <:+: text) : Quiet text := by
  rintro start name later parts -
  exact absurd ⟨start, name ++ later, by rw [parts, List.append_assoc]⟩ clear

theorem plain_of_inline {name : List Char} (stripped : strip name = name) (inline : '\n' ∉ name) :
    Plain name := by
  refine ⟨stripped, ?_⟩
  rintro start later parts - ⟨breaks, -⟩
  rw [parts] at inline
  exact inline (List.mem_append_right _ ((List.takeWhile_sublist _).subset breaks))

/-- Limits of a decoder; numbers with fractions are read as zero. -/
def someReader : JsonText.Reader where
  maxDigits := 4300
  maxDepth := 900
  float _ := 0

def searchCall (layout : Layout) : ReactCall where
  lead := "Thought: I need to search for evidence.\n".toList
  name := "search_evidence".toList
  arguments := [("query", .str "policy")]
  layout := layout

def inlineArguments : List Char := "\x7b\"query\": \"policy\"\x7d".toList

def prettyArguments : List Char := "\x7b\n  \"query\": \"policy\"\n\x7d".toList

theorem recovers_iff_search :
    Recovers someReader [searchCall .oneLine] (some "Thought: done.".toList) := by
  rw [recovers_iff]
  · refine ⟨⟨by decide, plain_of_inline (by decide) (by decide), rfl⟩, ?_, trivial⟩
    intro empty
    exact absurd empty (by decide)
  · intro call member
    rw [List.mem_singleton.mp member]
    exact ⟨inlineArguments, by rfl, by decide, by decide, by decide⟩
  · intro call member
    rw [List.mem_singleton.mp member]
    exact quiet_of_clear (by decide)
  · rintro text ⟨⟩
    exact quiet_of_clear (by decide)

/-- Of pretty-printed arguments, the parser takes the first brace for the whole input. -/
theorem pretty_arguments_lost : Quiet (searchCall .severalLines).lead ∧
      Writes someReader (searchCall .severalLines) prettyArguments ∧
      parseReactResponse someReader (write [(searchCall .severalLines, prettyArguments)] none) =
        .ok (some [{ name := "search_evidence", arguments := .obj [("input", .str "\x7b")] }]) ∧
      ¬ Recovers someReader [searchCall .severalLines] none := by
  have writes : Writes someReader (searchCall .severalLines) prettyArguments :=
    ⟨by rfl, by decide, by decide, by decide⟩
  have parsed : parseReactResponse someReader
      (write [(searchCall .severalLines, prettyArguments)] none) =
        .ok (some [{ name := "search_evidence", arguments := .obj [("input", .str "\x7b")] }]) := by
    rfl
  refine ⟨quiet_of_clear (by decide), writes, parsed, ?_⟩
  intro recovers
  have same := recovers [(searchCall .severalLines, prettyArguments)] rfl
    (by simpa using writes)
  rw [parsed] at same
  have wrapped := (ToolCall.mk.inj (List.cons.inj (Option.some.inj (Except.ok.inj same))).1).2
  have keys := (Prod.mk.inj (List.cons.inj (Json.obj.inj wrapped)).1).1
  exact absurd keys (by decide)

end Onpremai.Gateway.React
