import Onpremai.AgentEval.State
import Onpremai.Library.Average

/-!
# Layer 3: deterministic scoring

The scoring node merges the rule and judgment results, averages the values of
the assessable criteria by weight and applies the floor rules.  The loops of the
service are folds here; the lemmas that follow each of them read the
accumulators as sums over the criteria.
-/

namespace Onpremai.AgentEval

open Onpremai.Library

def scoreValues : CriterionResultEnum → Rat
  | .pass => 1
  | .partialPass => 1 / 2
  | .fail => 0
  | .needsJudgment => 0
  | .cannotAssess => 0
  | .insufficientEvidence => 0

def compliantThreshold : Rat := 85 / 100

def partialThreshold : Rat := 60 / 100

/-- Upper bound of the score when a policy criterion fails. -/
def policyFailCap : Rat := 84 / 100

def nonAssessable : CriterionResultEnum → Bool
  | .cannotAssess => true
  | .insufficientEvidence => true
  | _ => false

def isAssessable (allResults : Dict String CriterionResult)
    (criterion : Criterion) : Bool :=
  match allResults.get? criterion.id with
  | none => false
  | some result => !nonAssessable result.result

/-- Accumulators of the first loop over the criteria. -/
structure Weights where
  total : Rat := 0
  nonAssessable : Rat := 0
  assessable : Rat := 0

/-- One pass of the first loop over the criteria. -/
def Weights.add (allResults : Dict String CriterionResult) (acc : Weights)
    (criterion : Criterion) : Weights :=
  if isAssessable allResults criterion then
    { acc with total := acc.total + criterion.weight
               assessable := acc.assessable + criterion.weight }
  else
    { acc with total := acc.total + criterion.weight
               nonAssessable := acc.nonAssessable + criterion.weight }

def weighCriteria (allResults : Dict String CriterionResult)
    (criteria : List Criterion) : Weights :=
  criteria.foldl (Weights.add allResults) {}

def resultValue (allResults : Dict String CriterionResult)
    (criterion : Criterion) : Rat :=
  match allResults.get? criterion.id with
  | none => 0
  | some result => scoreValues result.result

def sumWeighted (allResults : Dict String CriterionResult)
    (criteria : List Criterion) : Rat :=
  criteria.foldl (fun acc criterion =>
    if isAssessable allResults criterion then
      acc + criterion.weight * resultValue allResults criterion
    else acc) 0

def checkPolicyFail (allResults : Dict String CriterionResult) : Bool :=
  allResults.values.any fun result =>
    decide (result.category = "policy") && decide (result.result = .fail)

def checkImplementationFailRatio (allResults : Dict String CriterionResult) : Rat :=
  let implementation := allResults.values.filter fun result =>
    decide (result.category = "implementation")
  let failing := implementation.filter fun result => decide (result.result = .fail)
  if implementation.length = 0 then 0
  else (failing.length : Rat) / implementation.length

def capScore (policyFail : Bool) (score : Rat) : Rat :=
  if policyFail = true ∧ policyFailCap < score then policyFailCap else score

def statusOfScore (partialEvaluation : Bool) (score : Rat) : ComplianceStatus :=
  if partialEvaluation then .partialEvaluation
  else if compliantThreshold ≤ score then .compliant
  else if partialThreshold ≤ score then .partiallyCompliant
  else .nonCompliant

/-- Core scoring formula with floor rules. -/
def calculateScore (allResults : Dict String CriterionResult)
    (criteria : List Criterion) (partialEvaluation : Bool) :
    Rat × ComplianceStatus :=
  let weights := weighCriteria allResults criteria
  if 0 < weights.total ∧ 1 / 2 ≤ weights.nonAssessable / weights.total then
    (0, .insufficientEvidence)
  else if weights.assessable = 0 then
    (0, .insufficientEvidence)
  else
    let rawScore := sumWeighted allResults criteria / weights.assessable
    let finalScore := capScore (checkPolicyFail allResults) rawScore
    if 1 / 4 < checkImplementationFailRatio allResults then
      (finalScore, .nonCompliant)
    else
      (finalScore, statusOfScore partialEvaluation finalScore)

def mergeResults (ruleResults judgmentResults : Dict String CriterionResult) :
    Dict String CriterionResult :=
  (Dict.empty.update ruleResults).update judgmentResults

def scoringTiming (existing : Option TimingStats) (elapsedMs : Rat) : TimingStats :=
  match existing with
  | none => { layer3Ms := elapsedMs }
  | some timing =>
    { discoveryMs := timing.discoveryMs, extractionMs := timing.extractionMs,
      layer1Ms := timing.layer1Ms, layer2Ms := timing.layer2Ms,
      layer3Ms := elapsedMs }

def scoringNode (elapsedMs : Rat) (state : EvalGraphState) : EvalGraphState :=
  match state.criteria? with
  | none =>
    { finalScore := some 0, finalStatus := some .insufficientEvidence }
  | some testingCriteria =>
    let allResults := mergeResults (state.ruleResults.getD .empty)
      (state.judgmentResults.getD .empty)
    let outcome := calculateScore allResults testingCriteria.criteria
      (state.partialEvaluation.getD false)
    { finalScore := some outcome.1
      finalStatus := some outcome.2
      timing := some (some (scoringTiming state.timing? elapsedMs)) }

@[simp] theorem get?_mergeResults
    (ruleResults judgmentResults : Dict String CriterionResult) (id : String) :
    (mergeResults ruleResults judgmentResults).get? id =
      (judgmentResults.get? id <|> ruleResults.get? id) := by
  rw [mergeResults, Dict.get?_update, Dict.get?_empty_update]

private theorem foldl_weights (allResults : Dict String CriterionResult)
    (criteria : List Criterion) (acc : Weights) :
    criteria.foldl (Weights.add allResults) acc =
      { total := acc.total + totalWeight Criterion.weight criteria
        nonAssessable := acc.nonAssessable + totalWeight Criterion.weight
          (criteria.filter fun criterion => !isAssessable allResults criterion)
        assessable := acc.assessable + totalWeight Criterion.weight
          (criteria.filter (isAssessable allResults)) } := by
  induction criteria generalizing acc with
  | nil => simp
  | cons criterion rest ih =>
    rw [List.foldl_cons, ih]
    cases assessable : isAssessable allResults criterion <;>
      simp [Weights.add, assessable, add_assoc]

theorem weighCriteria_eq (allResults : Dict String CriterionResult)
    (criteria : List Criterion) :
    weighCriteria allResults criteria =
      { total := totalWeight Criterion.weight criteria
        nonAssessable := totalWeight Criterion.weight
          (criteria.filter fun criterion => !isAssessable allResults criterion)
        assessable := totalWeight Criterion.weight
          (criteria.filter (isAssessable allResults)) } := by
  simp [weighCriteria, foldl_weights]

private theorem foldl_weighted (allResults : Dict String CriterionResult)
    (criteria : List Criterion) (acc : Rat) :
    criteria.foldl (fun acc criterion =>
      if isAssessable allResults criterion then
        acc + criterion.weight * resultValue allResults criterion
      else acc) acc =
      acc + weightedSum Criterion.weight (resultValue allResults)
        (criteria.filter (isAssessable allResults)) := by
  induction criteria generalizing acc with
  | nil => simp
  | cons criterion rest ih =>
    rw [List.foldl_cons, ih]
    cases assessable : isAssessable allResults criterion <;>
      simp [assessable, add_assoc]

theorem sumWeighted_eq (allResults : Dict String CriterionResult)
    (criteria : List Criterion) :
    sumWeighted allResults criteria = weightedSum Criterion.weight (resultValue allResults)
        (criteria.filter (isAssessable allResults)) := by
  simp [sumWeighted, foldl_weighted]

end Onpremai.AgentEval
