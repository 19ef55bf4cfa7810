import Mathlib.Data.Rat.Floor
import Onpremai.AgentEval.Scoring

/-!
# Output formatting

The formatter assembles the evaluation result from the accumulated state.  It is
reached with a cached result, with an error, or after scoring.  What it tells the
memory service afterwards is guarded and changes no result, so it is left out.
-/

namespace Onpremai.AgentEval

open Onpremai.Library

/-- The value of a status, as it is written in messages. -/
def ComplianceStatus.text : ComplianceStatus → String
  | .compliant => "compliant"
  | .partiallyCompliant => "partially_compliant"
  | .nonCompliant => "non_compliant"
  | .insufficientEvidence => "insufficient_evidence"
  | .partialEvaluation => "partial_evaluation"

/-- `round(value, 4)`: ties go to the even digit. -/
def round4 (value : Rat) : Rat :=
  let scaled := value * 10000
  let low := scaled.floor
  let rest := scaled - low
  if rest < 1 / 2 then low / 10000
  else if 1 / 2 < rest then (low + 1) / 10000
  else if low % 2 = 0 then low / 10000
  else (low + 1) / 10000

def orderedResults (allResults : Dict String CriterionResult)
    (testingCriteria : Option TestingCriteria) : List CriterionResult :=
  match testingCriteria with
  | none => allResults.values
  | some testingCriteria =>
    testingCriteria.criteria.filterMap fun criterion => allResults.get? criterion.id

def floorRulesApplied (allResults : Dict String CriterionResult) (finalScore : Rat) : List String :=
  (if checkPolicyFail allResults = true ∧ finalScore ≤ 84 / 100 then
    ["policy_fail_cap_0.84"] else []) ++
  (if 1 / 4 < checkImplementationFailRatio allResults then
    ["implementation_fail_ratio_gt_25pct"] else [])

/-- Timing of the whole run. -/
def finalTiming (timing : TimingStats) (elapsedMs : Rat) : TimingStats :=
  { timing with
    totalMs := timing.discoveryMs + timing.extractionMs + timing.layer1Ms +
      timing.layer2Ms + timing.layer3Ms + timing.sandboxMs + elapsedMs }

/-- Assemble the justification document. -/
def justificationOf (state : EvalGraphState) (allResults : Dict String CriterionResult) :
    Justification :=
  let ruleResults := state.ruleResults.getD .empty
  let judgmentResults := state.judgmentResults.getD .empty
  let finalScore := state.finalScore.getD 0
  let finalStatus := state.finalStatus.getD .insufficientEvidence
  { summary := "Control " ++ state.controlId.getD "" ++ " is " ++ finalStatus.text ++ ". " ++
      toString ruleResults.size ++ " criteria resolved by rules, " ++
      toString judgmentResults.size ++ " by tribunal."
    layer1Count := ruleResults.size
    layer1Criteria := ruleResults.entries
    layer2Count := judgmentResults.size
    layer2Criteria := state.tribunalJustifications.getD .empty
    score := round4 finalScore
    status := finalStatus
    floorRulesApplied := floorRulesApplied allResults finalScore }

def formatterNode (evaluationId : String) (elapsedMs : Rat) (state : EvalGraphState) :
    Except PyError EvalGraphState :=
  let finalScore := state.finalScore.getD 0
  -- the defaults apply to absent keys only, so a `None` in the state stays
  let timing := state.timing.getD (some {})
  let layerStats := state.layerStats.getD (some {})
  match state.cachedResult.getD none with
  | some cached => .ok { evaluationResult := some (some cached) }
  | none =>
    match truthy? (state.error.getD none), decide (finalScore = 0) with
    | some error, true => do
      let result ← EvalResult.create
        { evaluationId, controlId := state.controlId.getD ""
          framework := state.framework.getD "", tenantId := state.tenantId.getD ""
          score := 0, status := .insufficientEvidence
          evidenceHash := state.evidenceHash.getD "", layerStats, timing
          partialEvaluation := state.partialEvaluation.getD false
          metadataError := some error }
      return { evaluationResult := some (some result) }
    | _, _ =>
      match timing with
      | none => .error .attributeError
      | some timing => do
        let allResults := mergeResults (state.ruleResults.getD .empty)
          (state.judgmentResults.getD .empty)
        let result ← EvalResult.create
          { evaluationId, controlId := state.controlId.getD ""
            framework := state.framework.getD "", tenantId := state.tenantId.getD ""
            score := round4 finalScore
            status := state.finalStatus.getD .insufficientEvidence
            evidenceHash := state.evidenceHash.getD ""
            criteriaResults := orderedResults allResults state.criteria?
            justification := some (justificationOf state allResults)
            layerStats, timing := some (finalTiming timing elapsedMs)
            partialEvaluation := state.partialEvaluation.getD false
            cached := false }
        return { evaluationResult := some (some result) }

end Onpremai.AgentEval
