import Mathlib.Algebra.Group.Nat.Defs
import Onpremai.Gateway.Escalation
import Onpremai.Library.Except
import Onpremai.Library.JsonText

/-!
# Confidences in texts

Where a response keeps its confidence: in a document, in a block between fences, or nowhere.  The
check for a parse failure looks for the document by other rules than the extraction, so that a
document which one of them finds may be missed by the other.
-/

namespace Onpremai.Gateway.ConfidenceTexts

open Onpremai.Library

/-- A floating-point number. -/
inductive Floating where
  | finite (value : Rat)
  | infinite (positive : Bool)
  | nan
  deriving DecidableEq, Repr

/-- A decoded value; what stands in an array is not looked at. -/
inductive PyValue where
  | none
  | bool (value : Bool)
  | int (value : Int)
  | float (value : Floating)
  | str (value : String)
  | list
  | dict (fields : List (String × PyValue))

/-- Exceptions that are no `ValueError`. -/
inductive Uncaught where
  | recursionError
  | overflowError
  deriving DecidableEq, Repr

namespace PyValue

def field? (key : String) : PyValue → Option PyValue
  | .dict fields => (fields.find? fun entry => decide (entry.1 = key)).map Prod.snd
  | _ => Option.none

def confidence? (data : PyValue) : Option Rat :=
  match data.field? "confidence" with
  | some (.int value) => some value
  | some (.float (.finite value)) => some value
  | _ => Option.none

end PyValue

/-- The first whole number that is too large for a float. -/
def floatLimit : Nat := 2 ^ 1024 - 2 ^ 970

/-- `float(value)` of a whole number.  Rounding carries no number over 0 or 1. -/
def floatOfInt (value : Int) : Except Uncaught Floating :=
  if floatLimit ≤ value.natAbs then .error .overflowError else .ok (.finite value)

def withinBounds (value : Rat) : Rat := max 0 (min 1 value)

/-- `max(0.0, min(1.0, value))`: what is no number compares as not less than one. -/
def clamp : Floating → Rat
  | .finite value => withinBounds value
  | .infinite true => 1
  | .infinite false => 0
  | .nan => 1

section

variable (decode : String → Except JsonText.Failure PyValue)

/-- `json.loads` where a `ValueError` is caught. -/
def tryLoads (text : String) : Except Uncaught (Option PyValue) :=
  match decode text with
  | .ok data => .ok (some data)
  | .error .tooDeep => .error .recursionError
  | .error _ => .ok none

def confidenceOf (data : PyValue) : Except Uncaught (Option Rat) :=
  match data.field? "confidence" with
  | some (.bool value) => .ok (some (if value then 1 else 0))
  | some (.int value) => do
    let value ← floatOfInt value
    return some (clamp value)
  | some (.float value) => .ok (some (clamp value))
  | _ => .ok none

def confidenceIn (text : String) : Except Uncaught (Option Rat) := do
  match ← tryLoads decode text with
  | some data => confidenceOf data
  | none => return none

def extractExplicitConfidence (response : NormalizedResponse) : Except Uncaught (Option Rat) :=
  match response.content with
  | none => .ok none
  | some "" => .ok none
  | some text => do
    let content := Text.strip text
    match ← confidenceIn decode content with
    | some confidence => return some confidence
    | none =>
      match fencedJson content with
      | none => return none
      | some jsonBlock => confidenceIn decode jsonBlock

def AsksForJson (request : CompletionRequest) : Prop :=
  request.responseFormat = some "json_object" ∨ request.responseFormat = some "json_schema"

instance (request : CompletionRequest) : Decidable (AsksForJson request) :=
  inferInstanceAs (Decidable (_ ∨ _))

def acceptedDocument (text : String) : Except Uncaught (Option PyValue) := do
  let stripped := Text.strip text
  match ← tryLoads decode stripped with
  | some data => return some data
  | none =>
    if Text.startsWith "```" stripped then tryLoads decode (innerLines stripped)
    else return none

def isJsonParseFailure (response : NormalizedResponse) (request : CompletionRequest) :
    Except Uncaught Bool :=
  if AsksForJson request then
    match response.content with
    | none => .ok true
    | some "" => .ok true
    | some text => do
      let document ← acceptedDocument decode text
      return document.isNone
  else .ok false

/-- The confidence of a response with content that is no parse failure. -/
def usualConfidence (text : String) (request : CompletionRequest) : Rat :=
  if text.length < 50 ∧ request.task ∈ complexTasks then 4 / 10 else 8 / 10

def heuristicConfidence (response : NormalizedResponse) (request : CompletionRequest) :
    Except Uncaught Rat :=
  if isEmptyResponse response then .ok 0
  else do
    if ← isJsonParseFailure decode response request then return 3 / 10
    else return usualConfidence (response.content.getD "") request

def extractConfidence (response : NormalizedResponse) (request : CompletionRequest) :
    Except Uncaught Rat := do
  match ← extractExplicitConfidence decode response with
  | some confidence => return confidence
  | none => heuristicConfidence decode response request

/-- Every response has a confidence, and that of an accepted document is its own. -/
structure ConfidenceLaw (response : NormalizedResponse) (request : CompletionRequest) : Prop where
  bounded : ∃ confidence, extractConfidence decode response request = .ok confidence ∧
    0 ≤ confidence ∧ confidence ≤ 1
  extracted : AsksForJson request → isJsonParseFailure decode response request = .ok false →
    ∀ text ∈ response.content, ∀ data, acceptedDocument decode text = .ok (some data) →
      ∀ value ∈ data.confidence?,
        extractConfidence decode response request = .ok (withinBounds value)

def RaisesOn (text : String) : Prop :=
  decode text = .error .tooDeep ∨ ∃ data value, decode text = .ok data ∧
    data.field? "confidence" = some (.int value) ∧ floatLimit ≤ value.natAbs

/-- The text is an object with a confidence that is a number or a truth value. -/
inductive Holds (text : String) : Rat → Prop
  | bool {data : PyValue} {value : Bool} (document : decode text = .ok data)
      (field : data.field? "confidence" = some (.bool value)) :
      Holds text (if value then 1 else 0)
  | int {data : PyValue} {value : Int} (document : decode text = .ok data)
      (field : data.field? "confidence" = some (.int value))
      (small : value.natAbs < floatLimit) : Holds text (withinBounds value)
  | float {data : PyValue} {value : Floating} (document : decode text = .ok data)
      (field : data.field? "confidence" = some (.float value)) : Holds text (clamp value)

def FoundIn (text : String) (confidence : Rat) : Prop :=
  Holds decode text confidence ∨ (∀ other, ¬ Holds decode text other) ∧
    ∃ jsonBlock ∈ fencedJson text, Holds decode jsonBlock confidence

def FailsOn (text : String) : Prop := RaisesOn decode text ∨ (∀ other, ¬ Holds decode text other) ∧
    ∃ jsonBlock ∈ fencedJson text, RaisesOn decode jsonBlock

/-- The text is no document, but a fenced text. -/
structure IsFenced (text : String) : Prop where
  noDocument : ∃ failure, decode text = .error failure ∧ failure ≠ .tooDeep
  fence : Text.startsWith "```" text = true

/-- The rules of the extraction lead to the document that the check accepts, or the confidence of
that document is the usual one by chance; and no text that is decoded raises. -/
structure IsLocated (request : CompletionRequest) (text : String) : Prop where
  readable : ¬ FailsOn decode (Text.strip text)
  shallow : AsksForJson request → IsFenced decode (Text.strip text) →
    (∀ confidence, ¬ FoundIn decode (Text.strip text) confidence) →
      decode (innerLines (Text.strip text)) ≠ .error .tooDeep
  agrees : AsksForJson request → IsFenced decode (Text.strip text) →
    ∀ data, decode (innerLines (Text.strip text)) = .ok data → ∀ value ∈ data.confidence?,
      FoundIn decode (Text.strip text) (withinBounds value) ∨
        (∀ confidence, ¬ FoundIn decode (Text.strip text) confidence) ∧
          withinBounds value = usualConfidence text request

end

section

variable {decode : String → Except JsonText.Failure PyValue}

theorem withinBounds_mem (value : Rat) : 0 ≤ withinBounds value ∧ withinBounds value ≤ 1 :=
  ⟨le_max_left _ _, max_le (by decide) (min_le_left _ _)⟩

theorem clamp_mem (value : Floating) : 0 ≤ clamp value ∧ clamp value ≤ 1 := by
  cases value with
  | finite value => exact withinBounds_mem value
  | infinite positive => cases positive <;> decide
  | nan => decide

theorem usualConfidence_mem (text : String) (request : CompletionRequest) :
    0 ≤ usualConfidence text request ∧ usualConfidence text request ≤ 1 := by
  rw [usualConfidence]
  split <;> decide +kernel

theorem Holds.mem {text : String} {confidence : Rat} (holds : Holds decode text confidence) :
    0 ≤ confidence ∧ confidence ≤ 1 := by
  cases holds with
  | @bool data value => cases value <;> decide
  | int => exact withinBounds_mem _
  | float => exact clamp_mem _

theorem floatOfInt_eq_ok {value : Int} (small : value.natAbs < floatLimit) :
    floatOfInt value = .ok (.finite value) := by
  rw [floatOfInt, if_neg (Nat.not_le.mpr small)]

section

variable {text : String}

theorem confidenceIn_of_ok {data : PyValue} (document : decode text = .ok data) :
    confidenceIn decode text = confidenceOf data := by
  rw [confidenceIn, tryLoads, document]
  rfl

theorem confidenceIn_of_error {failure : JsonText.Failure}
    (invalid : decode text = .error failure) (caught : failure ≠ .tooDeep) :
    confidenceIn decode text = .ok none := by
  rw [confidenceIn, tryLoads, invalid]
  cases failure with
  | noDocument => rfl
  | tooManyDigits => rfl
  | tooDeep => exact absurd rfl caught

theorem confidenceIn_of_tooDeep (deep : decode text = .error .tooDeep) :
    confidenceIn decode text = .error .recursionError := by
  rw [confidenceIn, tryLoads, deep]
  rfl

theorem confidenceIn_eq_some_iff {confidence : Rat} :
    confidenceIn decode text = .ok (some confidence) ↔ Holds decode text confidence := by
  constructor
  · intro found
    cases decoded : decode text with
    | error failure =>
      by_cases caught : failure = .tooDeep
      · rw [confidenceIn_of_tooDeep (caught ▸ decoded)] at found
        cases found
      · rw [confidenceIn_of_error decoded caught] at found
        cases found
    | ok data =>
      rw [confidenceIn_of_ok decoded, confidenceOf.eq_def] at found
      split at found
      · next value field =>
        cases found
        exact .bool decoded field
      · next value field =>
        by_cases large : floatLimit ≤ value.natAbs
        · rw [floatOfInt, if_pos large] at found
          cases found
        · rw [floatOfInt, if_neg large] at found
          cases found
          exact .int decoded field (Nat.lt_of_not_le large)
      · next value field =>
        cases found
        exact .float decoded field
      · cases found
  · intro holds
    cases holds with
    | bool document field => rw [confidenceIn_of_ok document, confidenceOf, field]
    | int document field small =>
      rw [confidenceIn_of_ok document, confidenceOf, field]
      dsimp only
      rw [floatOfInt_eq_ok small]
      rfl
    | float document field => rw [confidenceIn_of_ok document, confidenceOf, field]

theorem returns_confidenceIn_iff : Returns (confidenceIn decode text) ↔ ¬ RaisesOn decode text := by
  rw [RaisesOn, not_or]
  cases decoded : decode text with
  | error failure =>
    have noData : ¬ ∃ data value, (.error failure : Except JsonText.Failure PyValue) = .ok data ∧
        data.field? "confidence" = some (.int value) ∧ floatLimit ≤ value.natAbs := by
      rintro ⟨data, value, document, -⟩
      cases document
    by_cases caught : failure = .tooDeep
    · rw [confidenceIn_of_tooDeep (caught ▸ decoded)]
      exact iff_of_false (not_returns_error _) fun none => none.1 (by rw [caught])
    · rw [confidenceIn_of_error decoded caught]
      exact iff_of_true (returns_ok _) ⟨fun deep => caught (Except.error.inj deep), noData⟩
  | ok data =>
    rw [confidenceIn_of_ok decoded, confidenceOf.eq_def]
    constructor
    · intro returns
      refine ⟨nofun, ?_⟩
      rintro ⟨found, value, document, field, large⟩
      cases document
      rw [field] at returns
      dsimp only at returns
      rw [floatOfInt, if_pos large] at returns
      exact not_returns_error _ returns
    · rintro ⟨-, small⟩
      split
      · exact returns_ok _
      · next value field =>
        by_cases large : floatLimit ≤ value.natAbs
        · exact absurd ⟨data, value, rfl, field, large⟩ small
        · rw [floatOfInt, if_neg large]
          exact returns_ok _
      · exact returns_ok _
      · exact returns_ok _

end

section

variable {response : NormalizedResponse} {text : String}

theorem extractExplicitConfidence_eq (content : response.content = some text)
    (nonempty : text ≠ "") :
    extractExplicitConfidence decode response = (do
      match ← confidenceIn decode (Text.strip text) with
      | some confidence => return some confidence
      | none =>
        match fencedJson (Text.strip text) with
        | none => return none
        | some jsonBlock => confidenceIn decode jsonBlock) := by
  rw [extractExplicitConfidence.eq_def, content]
  split
  · next none => cases none
  · next empty => exact absurd (Option.some.inj empty) nonempty
  · next same =>
    cases same
    rfl

theorem not_holds_of_none (read : confidenceIn decode text = .ok none) (confidence : Rat) :
    ¬ Holds decode text confidence := by
  intro holds
  rw [confidenceIn_eq_some_iff.mpr holds] at read
  cases read

theorem returns_extractExplicitConfidence_iff (content : response.content = some text)
    (nonempty : text ≠ "") :
    Returns (extractExplicitConfidence decode response) ↔
      ¬ FailsOn decode (Text.strip text) := by
  rw [extractExplicitConfidence_eq content nonempty, FailsOn, not_or, ← returns_confidenceIn_iff]
  generalize Text.strip text = text
  cases read : confidenceIn decode text with
  | error exn => exact iff_of_false (not_returns_error _) fun both => not_returns_error _ both.1
  | ok found =>
    rw [ok_bind]
    cases found with
    | some confidence =>
      have holds := confidenceIn_eq_some_iff.mp read
      exact iff_of_true (returns_ok _) ⟨returns_ok _, fun none => none.1 confidence holds⟩
    | none =>
      dsimp only
      cases block : fencedJson text with
      | none =>
        refine iff_of_true (returns_ok _) ⟨returns_ok _, ?_⟩
        rintro ⟨-, jsonBlock, inside, -⟩
        cases inside
      | some jsonBlock =>
        rw [returns_confidenceIn_iff]
        constructor
        · rintro returns
          refine ⟨returns_ok _, ?_⟩
          rintro ⟨-, other, inside, raises⟩
          cases inside
          exact returns raises
        · rintro ⟨-, quiet⟩ raises
          exact quiet ⟨not_holds_of_none read, jsonBlock, rfl, raises⟩

theorem extractExplicitConfidence_eq_some_iff (content : response.content = some text)
    (nonempty : text ≠ "") (readable : ¬ FailsOn decode (Text.strip text)) {confidence : Rat} :
    extractExplicitConfidence decode response = .ok (some confidence) ↔
      FoundIn decode (Text.strip text) confidence := by
  rw [extractExplicitConfidence_eq content nonempty]
  revert readable
  generalize Text.strip text = text
  intro readable
  have returns : Returns (confidenceIn decode text) :=
    returns_confidenceIn_iff.mpr fun raises => readable (.inl raises)
  obtain ⟨found, read⟩ := returns
  rw [read, ok_bind, FoundIn]
  cases found with
  | some other =>
    have holds := confidenceIn_eq_some_iff.mp read
    constructor
    · intro same
      cases same
      exact .inl holds
    · rintro (direct | ⟨none, -⟩)
      · exact read.symm.trans (confidenceIn_eq_some_iff.mpr direct)
      · exact absurd holds (none other)
  | none =>
    have absent := not_holds_of_none read
    dsimp only
    cases fencedJson text with
    | none =>
      refine iff_of_false nofun ?_
      rintro (direct | ⟨-, jsonBlock, inside, -⟩)
      · exact absent confidence direct
      · cases inside
    | some jsonBlock =>
      dsimp only
      rw [confidenceIn_eq_some_iff]
      constructor
      · exact fun holds => .inr ⟨absent, jsonBlock, rfl, holds⟩
      · rintro (direct | ⟨-, other, inside, holds⟩)
        · exact absurd direct (absent confidence)
        · cases inside
          exact holds

end

section

variable {response : NormalizedResponse} {request : CompletionRequest} {text : String}

theorem tryLoads_eq_some_iff {data : PyValue} :
    tryLoads decode text = .ok (some data) ↔ decode text = .ok data := by
  rw [tryLoads]
  cases decode text with
  | ok other => simp
  | error failure => cases failure <;> simp

theorem tryLoads_eq_none_iff : tryLoads decode text = .ok none ↔
      ∃ failure, decode text = .error failure ∧ failure ≠ .tooDeep := by
  rw [tryLoads]
  cases decode text with
  | ok other => simp
  | error failure => cases failure <;> simp

theorem returns_tryLoads_iff :
    Returns (tryLoads decode text) ↔ decode text ≠ .error .tooDeep := by
  rw [tryLoads]
  cases decode text with
  | ok other => simp
  | error failure => cases failure <;> simp

theorem acceptedDocument_eq_some_iff {data : PyValue} :
    acceptedDocument decode text = .ok (some data) ↔
      decode (Text.strip text) = .ok data ∨ IsFenced decode (Text.strip text) ∧
        decode (innerLines (Text.strip text)) = .ok data := by
  rw [acceptedDocument]
  generalize Text.strip text = text
  rw [bind_eq_ok]
  constructor
  · rintro ⟨loaded, read, rest⟩
    cases loaded with
    | some other =>
      cases rest
      exact .inl (tryLoads_eq_some_iff.mp read)
    | none =>
      right
      dsimp only at rest
      split at rest
      · next fence =>
        exact ⟨⟨tryLoads_eq_none_iff.mp read, fence⟩, tryLoads_eq_some_iff.mp rest⟩
      · cases rest
  · rintro (document | ⟨fenced, document⟩)
    · exact ⟨some data, tryLoads_eq_some_iff.mpr document, rfl⟩
    · refine ⟨none, tryLoads_eq_none_iff.mpr fenced.noDocument, ?_⟩
      dsimp only
      rw [if_pos fenced.fence]
      exact tryLoads_eq_some_iff.mpr document

theorem returns_acceptedDocument_iff :
    Returns (acceptedDocument decode text) ↔ decode (Text.strip text) ≠ .error .tooDeep ∧
      (IsFenced decode (Text.strip text) →
        decode (innerLines (Text.strip text)) ≠ .error .tooDeep) := by
  rw [acceptedDocument]
  generalize Text.strip text = text
  rw [returns_bind]
  constructor
  · rintro ⟨loaded, read, rest⟩
    refine ⟨returns_tryLoads_iff.mp ⟨loaded, read⟩, fun fenced => ?_⟩
    rw [tryLoads_eq_none_iff.mpr fenced.noDocument] at read
    cases read
    dsimp only at rest
    rw [if_pos fenced.fence] at rest
    exact returns_tryLoads_iff.mp rest
  · rintro ⟨shallow, inner⟩
    obtain ⟨loaded, read⟩ := returns_tryLoads_iff.mpr shallow
    refine ⟨loaded, read, ?_⟩
    cases loaded with
    | some data => exact returns_ok _
    | none =>
      dsimp only
      split
      · next fence =>
        exact returns_tryLoads_iff.mpr (inner ⟨tryLoads_eq_none_iff.mp read, fence⟩)
      · exact returns_ok _

theorem isJsonParseFailure_eq (content : response.content = some text) (nonempty : text ≠ "")
    (asks : AsksForJson request) :
    isJsonParseFailure decode response request =
      (acceptedDocument decode text).map fun document => document.isNone := by
  rw [isJsonParseFailure, if_pos asks, content]
  split
  · next none => cases none
  · next empty => exact absurd (Option.some.inj empty) nonempty
  · next same =>
    cases same
    cases acceptedDocument decode text <;> rfl

theorem returns_isJsonParseFailure_iff (content : response.content = some text)
    (nonempty : text ≠ "") :
    Returns (isJsonParseFailure decode response request) ↔
      (AsksForJson request → Returns (acceptedDocument decode text)) := by
  by_cases asks : AsksForJson request
  · rw [isJsonParseFailure_eq content nonempty asks]
    cases acceptedDocument decode text with
    | error exn =>
      exact iff_of_false (not_returns_error exn) fun returns => not_returns_error exn (returns asks)
    | ok document => exact iff_of_true (returns_ok _) fun _ => returns_ok _
  · rw [isJsonParseFailure, if_neg asks]
    exact iff_of_true (returns_ok _) fun asked => absurd asked asks

end

/-! ## The confidence on the whole -/

section

variable {response : NormalizedResponse} {request : CompletionRequest} {text : String}

theorem extractConfidence_of_some {confidence : Rat}
    (found : extractExplicitConfidence decode response = .ok (some confidence)) :
    extractConfidence decode response request = .ok confidence := by
  rw [extractConfidence, found]
  rfl

theorem extractConfidence_of_none (found : extractExplicitConfidence decode response = .ok none) :
    extractConfidence decode response request = heuristicConfidence decode response request := by
  rw [extractConfidence, found]
  rfl

theorem returns_heuristicConfidence_iff : Returns (heuristicConfidence decode response request) ↔
      isEmptyResponse response = true ∨ Returns (isJsonParseFailure decode response request) := by
  rw [heuristicConfidence]
  split
  · next empty => exact iff_of_true (returns_ok _) (.inl empty)
  · next filled =>
    cases isJsonParseFailure decode response request with
    | error exn =>
      refine iff_of_false (not_returns_error exn) ?_
      rintro (empty | returns)
      · exact filled empty
      · exact not_returns_error exn returns
    | ok failure =>
      cases failure <;> exact iff_of_true (returns_ok _) (.inr (returns_ok _))

theorem heuristicConfidence_of_ok (filled : isEmptyResponse response = false)
    (content : response.content = some text)
    (parsed : isJsonParseFailure decode response request = .ok false) :
    heuristicConfidence decode response request = .ok (usualConfidence text request) := by
  rw [heuristicConfidence, if_neg (by simp [filled]), parsed, content]
  rfl

theorem extractConfidence_mem {confidence : Rat}
    (extracted : extractConfidence decode response request = .ok confidence) :
    0 ≤ confidence ∧ confidence ≤ 1 := by
  rw [extractConfidence, bind_eq_ok] at extracted
  obtain ⟨found, explicit, rest⟩ := extracted
  cases found with
  | some other =>
    cases rest
    rw [extractExplicitConfidence.eq_def] at explicit
    split at explicit
    · cases explicit
    · cases explicit
    · obtain ⟨read, direct, block⟩ := bind_eq_ok.mp explicit
      cases read with
      | some value =>
        cases block
        exact (confidenceIn_eq_some_iff.mp direct).mem
      | none =>
        dsimp only at block
        split at block
        · cases block
        · exact (confidenceIn_eq_some_iff.mp block).mem
  | none =>
    dsimp only at rest
    rw [heuristicConfidence] at rest
    split at rest
    · cases rest
      exact ⟨le_refl _, by decide⟩
    · obtain ⟨failure, -, value⟩ := bind_eq_ok.mp rest
      cases failure with
      | true =>
        cases value
        decide +kernel
      | false =>
        cases value
        exact usualConfidence_mem _ _

theorem confidenceLaw_of_empty (empty : response.content = none ∨ response.content = some "") :
    ConfidenceLaw decode response request := by
  have explicit : extractExplicitConfidence decode response = .ok none := by
    rcases empty with none | empty
    · rw [extractExplicitConfidence.eq_def, none]
    · rw [extractExplicitConfidence.eq_def, empty]
      rfl
  have parsed : AsksForJson request → isJsonParseFailure decode response request = .ok true := by
    intro asks
    rcases empty with none | empty
    · rw [isJsonParseFailure, if_pos asks, none]
    · rw [isJsonParseFailure, if_pos asks, empty]
      rfl
  have returns : Returns (isJsonParseFailure decode response request) := by
    by_cases asks : AsksForJson request
    · exact ⟨true, parsed asks⟩
    · rw [isJsonParseFailure, if_neg asks]
      exact returns_ok _
  constructor
  · obtain ⟨confidence, extracted⟩ := returns_heuristicConfidence_iff.mpr (.inr returns)
    rw [← extractConfidence_of_none explicit] at extracted
    exact ⟨confidence, extracted, extractConfidence_mem extracted⟩
  · intro asks accepted
    rw [parsed asks] at accepted
    cases accepted

end

section

variable {response : NormalizedResponse} {request : CompletionRequest} {text : String}

theorem IsFenced.filled (fenced : IsFenced decode (Text.strip text))
    (content : response.content = some text) : isEmptyResponse response = false := by
  rw [isEmptyResponse, content, Option.getD_some, Bool.and_eq_false_iff]
  left
  rw [decide_eq_false_iff_not]
  intro empty
  have fence := fenced.fence
  rw [empty] at fence
  revert fence
  decide

theorem foundIn_of_document {data : PyValue} (document : decode text = .ok data) {value : Rat}
    (number : data.confidence? = some value) :
    RaisesOn decode text ∨ Holds decode text (withinBounds value) := by
  rw [PyValue.confidence?] at number
  split at number
  · next whole field =>
    cases number
    by_cases large : floatLimit ≤ whole.natAbs
    · exact .inl (.inr ⟨data, whole, document, field, large⟩)
    · exact .inr (.int document field (Nat.lt_of_not_le large))
  · next field =>
    cases number
    exact .inr (.float document field)
  · cases number

theorem ConfidenceLaw.located (law : ConfidenceLaw decode response request)
    (content : response.content = some text) (nonempty : text ≠ "") :
    IsLocated decode request text := by
  obtain ⟨confidence, extracted, -⟩ := law.bounded
  have returns : Returns (extractExplicitConfidence decode response) := by
    obtain ⟨found, explicit, -⟩ := bind_eq_ok.mp extracted
    exact ⟨found, explicit⟩
  have readable := (returns_extractExplicitConfidence_iff content nonempty).mp returns
  obtain ⟨found, explicit⟩ := returns
  have none_of_unfound : (∀ confidence, ¬ FoundIn decode (Text.strip text) confidence) →
      extractExplicitConfidence decode response = .ok none := by
    intro unfound
    cases found with
    | none => exact explicit
    | some other =>
      have inside := (extractExplicitConfidence_eq_some_iff content nonempty readable).mp explicit
      exact absurd inside (unfound other)
  refine ⟨readable, fun asks fenced unfound deep => ?_, fun asks fenced data inner value number => ?_⟩
  · rw [extractConfidence_of_none (none_of_unfound unfound)] at extracted
    have parsed := (returns_heuristicConfidence_iff.mp ⟨confidence, extracted⟩).resolve_left
      (by rw [fenced.filled content]; exact Bool.false_ne_true)
    have accepted := (returns_isJsonParseFailure_iff content nonempty).mp parsed asks
    exact (returns_acceptedDocument_iff.mp accepted).2 fenced deep
  · have accepted := acceptedDocument_eq_some_iff.mpr (.inr ⟨fenced, inner⟩)
    have parsed : isJsonParseFailure decode response request = .ok false := by
      rw [isJsonParseFailure_eq content nonempty asks, accepted]
      rfl
    have own := law.extracted asks parsed text content data accepted value number
    cases found with
    | some other =>
      rw [extractConfidence_of_some explicit] at own
      cases own
      exact .inl ((extractExplicitConfidence_eq_some_iff content nonempty readable).mp explicit)
    | none =>
      refine .inr ⟨fun other inside => ?_, ?_⟩
      · rw [(extractExplicitConfidence_eq_some_iff content nonempty readable).mpr inside]
          at explicit
        cases explicit
      · rw [extractConfidence_of_none explicit,
          heuristicConfidence_of_ok (fenced.filled content) content parsed] at own
        exact (Except.ok.inj own).symm

theorem IsLocated.law (located : IsLocated decode request text)
    (content : response.content = some text) (nonempty : text ≠ "") :
    ConfidenceLaw decode response request := by
  obtain ⟨found, explicit⟩ :=
    (returns_extractExplicitConfidence_iff content nonempty).mpr located.readable
  have found_iff : ∀ {confidence : Rat},
      extractExplicitConfidence decode response = .ok (some confidence) ↔
        FoundIn decode (Text.strip text) confidence :=
    extractExplicitConfidence_eq_some_iff content nonempty located.readable
  have unfound : found = none →
      ∀ confidence, ¬ FoundIn decode (Text.strip text) confidence := by
    rintro rfl confidence inside
    rw [found_iff.mpr inside] at explicit
    cases explicit
  constructor
  · have extracted : Returns (extractConfidence decode response request) := by
      cases found with
      | some confidence => exact ⟨confidence, extractConfidence_of_some explicit⟩
      | none =>
        rw [extractConfidence_of_none explicit, returns_heuristicConfidence_iff]
        right
        rw [returns_isJsonParseFailure_iff content nonempty]
        intro asks
        rw [returns_acceptedDocument_iff]
        exact ⟨fun deep => located.readable (.inl (.inl deep)),
          fun fenced => located.shallow asks fenced (unfound rfl)⟩
    obtain ⟨confidence, extracted⟩ := extracted
    exact ⟨confidence, extracted, extractConfidence_mem extracted⟩
  · intro asks parsed other same data accepted value number
    rw [content] at same
    cases same
    rcases acceptedDocument_eq_some_iff.mp accepted with document | ⟨fenced, inner⟩
    · rcases foundIn_of_document document number with raises | holds
      · exact absurd (.inl raises) located.readable
      · exact extractConfidence_of_some (found_iff.mpr (.inl holds))
    · rcases located.agrees asks fenced data inner value number with inside | ⟨absent, usual⟩
      · exact extractConfidence_of_some (found_iff.mpr inside)
      · have explicit : extractExplicitConfidence decode response = .ok none := by
          cases found with
          | none => exact explicit
          | some confidence => exact absurd (found_iff.mp explicit) (absent confidence)
        rw [extractConfidence_of_none explicit,
          heuristicConfidence_of_ok (fenced.filled content) content parsed, usual]

end

/-- The law holds exactly of the responses whose document the extraction finds. -/
theorem confidenceLaw_iff (decode : String → Except JsonText.Failure PyValue)
    (response : NormalizedResponse) (request : CompletionRequest) :
    ConfidenceLaw decode response request ↔
      ∀ text ∈ response.content, text ≠ "" → IsLocated decode request text := by
  constructor
  · exact fun law text content nonempty => law.located content nonempty
  · intro located
    cases content : response.content with
    | none => exact confidenceLaw_of_empty (.inl content)
    | some text =>
      by_cases nonempty : text = ""
      · exact confidenceLaw_of_empty (.inr (nonempty ▸ content))
      · exact (located text content nonempty).law content nonempty

/-! ## The plain reading -/

/-- A value in a field, with the bound that a number which is not finite is cut to. -/
def PyValue.scalar : PyValue → Json
  | .bool value => .bool value
  | .int value => .num value
  | .float (.finite value) => .num value
  | .float value => .num (clamp value)
  | .str value => .str value
  | _ => .null

def PyValue.plain : PyValue → Json
  | .dict fields => .obj (fields.map fun entry => (entry.1, entry.2.scalar))
  | value => value.scalar

section

variable {response : NormalizedResponse} {request : CompletionRequest} {text : String}

/-- The decoder that gives plain documents, and nothing where the other one fails. -/
def plainLoads (decode : String → Except JsonText.Failure PyValue) (text : String) :
    Option Json := (decode text).toOption.map PyValue.plain

theorem plain_get? (data : PyValue) (key : String) :
    data.plain.get? key = (data.field? key).map PyValue.scalar := by
  cases data with
  | dict fields =>
    rw [PyValue.plain, Json.get?_obj, PyValue.field?]
    induction fields with
    | nil => rfl
    | cons entry rest ih =>
      rw [List.map_cons, Json.field?_cons, List.find?_cons]
      by_cases same : entry.1 = key
      · simp [same]
      · simpa [same] using ih
  | float value => cases value <;> rfl
  | _ => rfl

theorem confidenceField_plain {data : PyValue} {found : Option Rat}
    (read : confidenceOf data = .ok found) : confidenceField data.plain = found := by
  rw [confidenceField, plain_get?]
  rw [confidenceOf.eq_def] at read
  split at read
  · next field =>
    cases read
    rw [field]
    rfl
  · next value field =>
    obtain ⟨float, small, same⟩ := bind_eq_ok.mp read
    rw [floatOfInt] at small
    split at small
    · cases small
    · cases small
      cases same
      rw [field]
      rfl
  · next value field =>
    cases read
    rw [field]
    cases value with
    | finite value => rfl
    | infinite positive => cases positive <;> rfl
    | nan => rfl
  · next noBool noInt noFloat =>
    cases read
    cases field : data.field? "confidence" with
    | none => rfl
    | some value =>
      cases value with
      | bool value => exact (noBool value field).elim
      | int value => exact (noInt value field).elim
      | float value => exact (noFloat value field).elim
      | _ => rfl

theorem confidenceIn_plain {found : Option Rat} (read : confidenceIn decode text = .ok found) :
    (plainLoads decode text).bind confidenceField = found := by
  rw [plainLoads]
  cases decoded : decode text with
  | error failure =>
    by_cases caught : failure = .tooDeep
    · rw [confidenceIn_of_tooDeep (caught ▸ decoded)] at read
      cases read
    · rw [confidenceIn_of_error decoded caught] at read
      cases read
      rfl
  | ok data =>
    rw [confidenceIn_of_ok decoded] at read
    exact confidenceField_plain read

theorem extractExplicitConfidence_plain {found : Option Rat}
    (read : extractExplicitConfidence decode response = .ok found) :
    Gateway.extractExplicitConfidence (plainLoads decode) response = found := by
  rw [extractExplicitConfidence.eq_def] at read
  split at read
  · next none =>
    cases read
    rw [Gateway.extractExplicitConfidence.eq_def, none]
  · next empty =>
    cases read
    rw [Gateway.extractExplicitConfidence.eq_def, empty]
    rfl
  · next text nonempty content =>
    rw [Gateway.extractExplicitConfidence.eq_def, content]
    obtain ⟨direct, readText, rest⟩ := bind_eq_ok.mp read
    have found := confidenceIn_plain readText
    dsimp only
    split
    · next none => cases none
    · next empty => exact absurd (Option.some.inj empty) nonempty
    · next same =>
      cases same
      rw [found]
      cases direct with
      | some confidence =>
        cases rest
        rfl
      | none =>
        dsimp only at rest
        cases block : fencedJson (Text.strip text) with
        | none =>
          rw [block] at rest
          cases rest
          rfl
        | some jsonBlock =>
          rw [block] at rest
          exact confidenceIn_plain rest

theorem isSome_plainLoads {document : Option PyValue}
    (read : tryLoads decode text = .ok document) :
    (plainLoads decode text).isSome = document.isSome := by
  rw [plainLoads]
  cases document with
  | some data =>
    rw [tryLoads_eq_some_iff.mp read]
    rfl
  | none =>
    obtain ⟨failure, failed, -⟩ := tryLoads_eq_none_iff.mp read
    rw [failed]
    rfl

theorem acceptedDocument_plain {document : Option PyValue}
    (accepted : acceptedDocument decode text = .ok document) :
    (if (plainLoads decode (Text.strip text)).isSome = true then false
      else if Text.startsWith "```" (Text.strip text) = true then
        (plainLoads decode (innerLines (Text.strip text))).isNone
      else true) = document.isNone := by
  obtain ⟨direct, read, rest⟩ := bind_eq_ok.mp accepted
  rw [isSome_plainLoads read]
  cases direct with
  | some data =>
    cases rest
    rfl
  | none =>
    rw [Option.isSome_none]
    dsimp only at rest
    split at rest
    · next fence =>
      rw [if_neg Bool.false_ne_true, if_pos fence, ← Option.not_isSome, isSome_plainLoads rest,
        Option.not_isSome]
    · next plain =>
      cases rest
      rw [if_neg Bool.false_ne_true, if_neg plain]
      rfl

theorem isJsonParseFailure_plain {failed : Bool}
    (parsed : isJsonParseFailure decode response request = .ok failed) :
    Gateway.isJsonParseFailure (plainLoads decode) response request = failed := by
  rw [Gateway.isJsonParseFailure.eq_def]
  by_cases asks : AsksForJson request
  · have format : ∃ format, request.responseFormat = some format ∧
        (format = "json_object" ∨ format = "json_schema") := by
      rcases asks with object | schema
      · exact ⟨_, object, .inl rfl⟩
      · exact ⟨_, schema, .inr rfl⟩
    obtain ⟨format, requested, named⟩ := format
    rw [requested]
    dsimp only
    rw [if_pos named]
    cases content : response.content with
    | none =>
      rw [isJsonParseFailure, if_pos asks, content] at parsed
      cases parsed
      rfl
    | some text =>
      by_cases empty : text = ""
      · rw [isJsonParseFailure, if_pos asks, content, empty] at parsed
        cases parsed
        rw [empty]
        rfl
      · rw [isJsonParseFailure_eq content empty asks] at parsed
        obtain ⟨document, accepted, same⟩ := map_eq_ok.mp parsed
        rw [← same, ← acceptedDocument_plain accepted]
        split
        · next none => cases none
        · next none => exact absurd (Option.some.inj none) empty
        · next same =>
          cases same
          rfl
  · rw [isJsonParseFailure, if_neg asks] at parsed
    cases parsed
    cases requested : request.responseFormat with
    | none => rfl
    | some format =>
      dsimp only
      rw [if_neg]
      rintro (object | schema)
      · exact asks (.inl (object ▸ requested))
      · exact asks (.inr (schema ▸ requested))

theorem extractConfidence_plain {confidence : Rat}
    (extracted : extractConfidence decode response request = .ok confidence) :
    Gateway.extractConfidence (plainLoads decode) response request = confidence := by
  obtain ⟨found, explicit, rest⟩ := bind_eq_ok.mp extracted
  rw [Gateway.extractConfidence, extractExplicitConfidence_plain explicit]
  cases found with
  | some other =>
    cases rest
    rfl
  | none =>
    dsimp only at rest
    rw [Option.getD_none, Gateway.heuristicConfidence]
    rw [heuristicConfidence] at rest
    split at rest
    · next empty =>
      cases rest
      rw [if_pos empty]
    · next filled =>
      obtain ⟨failed, parsed, value⟩ := bind_eq_ok.mp rest
      rw [if_neg filled, isJsonParseFailure_plain parsed]
      cases failed with
      | true =>
        cases value
        rfl
      | false =>
        cases value
        rfl

end

def scoreDocument (text : String) : Except JsonText.Failure PyValue :=
  if text = "\x7b\"confidence\": 0.2\x7d" then
    .ok (.dict [("confidence", .float (.finite (1 / 5)))])
  else .error .noDocument

/-- A document between fences that name no language. -/
def fencedScore : NormalizedResponse where
  content := some "```\n\x7b\"confidence\": 0.2\x7d\n```"

def scoreRequest : CompletionRequest where
  task := "classify"
  tenantId := "acme"
  responseFormat := some "json_object"

/-- The document is accepted, and its confidence is not found. -/
theorem fenced_score_missed :
    isJsonParseFailure scoreDocument fencedScore scoreRequest = .ok false ∧
      (acceptedDocument scoreDocument "```\n\x7b\"confidence\": 0.2\x7d\n```").map
          (fun document => document.bind PyValue.confidence?) = .ok (some (1 / 5)) ∧
        extractConfidence scoreDocument fencedScore scoreRequest = .ok (8 / 10) ∧
          ¬ ConfidenceLaw scoreDocument fencedScore scoreRequest := by
  have parsed : isJsonParseFailure scoreDocument fencedScore scoreRequest = .ok false := by
    decide
  have accepted : acceptedDocument scoreDocument "```\n\x7b\"confidence\": 0.2\x7d\n```" =
      .ok (some (.dict [("confidence", .float (.finite (1 / 5)))])) :=
    acceptedDocument_eq_some_iff.mpr (.inr
      ⟨⟨⟨.noDocument, if_neg (by decide), by decide⟩, by decide⟩, if_pos (by decide)⟩)
  have extracted : extractConfidence scoreDocument fencedScore scoreRequest = .ok (8 / 10) := by
    decide +kernel
  refine ⟨parsed, ?_, extracted, fun law => ?_⟩
  · rw [accepted]
    rfl
  · have own := law.extracted (.inl rfl) parsed _ rfl _ accepted _ rfl
    rw [extracted] at own
    revert own
    decide +kernel

end

end Onpremai.Gateway.ConfidenceTexts
