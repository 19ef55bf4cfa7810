import Mathlib.Algebra.Order.Ring.Unbundled.Rat
import Onpremai.Gateway.Models

/-!
# Escalation check

Every response is given a confidence and checked for a reason to try the next
tier.  The decoder of JSON documents is a parameter.
-/

namespace Onpremai.Gateway

open Onpremai.Library

/-- Result of an escalation check. -/
structure EscalationDecision where
  shouldEscalate : Bool
  confidence : Rat := 0
  deriving DecidableEq

section Check

variable (loads : String → Option Json)

/-- A confidence field that holds a number, within its bounds. -/
def confidenceField (data : Json) : Option Rat :=
  match data.get? "confidence" with
  | some (.num value) => some (max 0 (min 1 value))
  | some (.bool value) => some (if value then 1 else 0)
  | _ => none

/-- The text between the first JSON fence and the fence after it. -/
def fencedJson (content : String) : Option String :=
  let chars := content.toList
  match Text.indexOf? "```json".toList chars with
  | none => none
  | some start =>
    let inner := chars.drop (start + 7)
    match Text.indexOf? "```".toList inner with
    | none => none
    | some length =>
      if length = 0 then none else some (Text.strip (String.ofList (inner.take length)))

def extractExplicitConfidence (response : NormalizedResponse) : Option Rat :=
  match response.content with
  | none => none
  | some "" => none
  | some text =>
    let content := Text.strip text
    ((loads content).bind confidenceField) <|>
      ((fencedJson content).bind loads).bind confidenceField

def isEmptyResponse (response : NormalizedResponse) : Bool :=
  decide (Text.strip (response.content.getD "") = "") && response.toolCalls.isEmpty

def innerLines (text : String) : String :=
  let lines := Text.lines text
  if 2 < lines.length then Text.joinLines (lines.drop 1).dropLast else ""

/-- Check if a response should be JSON but does not decode. -/
def isJsonParseFailure (response : NormalizedResponse) (request : CompletionRequest) : Bool :=
  match request.responseFormat with
  | none => false
  | some format =>
    if format = "json_object" ∨ format = "json_schema" then
      match response.content with
      | none => true
      | some "" => true
      | some text =>
        let stripped := Text.strip text
        if (loads stripped).isSome then false
        else if Text.startsWith "```" stripped then
          (loads (innerLines stripped)).isNone
        else true
    else false

/-- Phrases by which a model refuses. -/
def refusalIndicators : List String :=
  ["i cannot", "i'm unable to", "i am unable to", "i can't help", "i'm not able to",
   "as an ai", "i don't have the ability", "i must decline"]

/-- Detect if the model refused to answer, in a short response. -/
def isRefusal (response : NormalizedResponse) : Bool :=
  let content := Text.lower (response.content.getD "")
  if 200 < content.length then false
  else refusalIndicators.any fun indicator => Text.contains indicator content

/-- Tasks for which a very short response is suspicious. -/
def complexTasks : List String := ["evaluate_control", "evaluate_unstructured", "complex_reasoning",
   "cross_framework_analysis", "generate_code"]

def heuristicConfidence (response : NormalizedResponse) (request : CompletionRequest) : Rat :=
  if isEmptyResponse response then 0
  else if isJsonParseFailure loads response request then 3 / 10
  else if (response.content.getD "").length < 50 ∧ request.task ∈ complexTasks then 4 / 10
  else 8 / 10

def extractConfidence (response : NormalizedResponse) (request : CompletionRequest) : Rat :=
  (extractExplicitConfidence loads response).getD (heuristicConfidence loads response request)

def check (config : EscalationConfig) (response : NormalizedResponse)
    (request : CompletionRequest) (escalationCount : Nat) : EscalationDecision :=
  let confidence := extractConfidence loads response request
  if !config.enabled then { shouldEscalate := false, confidence }
  else if config.maxEscalations ≤ escalationCount then { shouldEscalate := false, confidence }
  else if isEmptyResponse response then { shouldEscalate := true, confidence := 0 }
  else if isRefusal response then { shouldEscalate := true, confidence := 1 / 10 }
  else if isJsonParseFailure loads response request then
    { shouldEscalate := true, confidence := 3 / 10 }
  else if 0 < request.confidenceThreshold ∧ confidence < request.confidenceThreshold then
    { shouldEscalate := true, confidence }
  else { shouldEscalate := false, confidence }

end Check

end Onpremai.Gateway
