import Onpremai.AgentEval.State

/-!
# Layer 1: the rules engine

Every criterion is dispatched to the handler of its check type.  The handlers
are a parameter: the engine relies on nothing about them, since a handler that
raises is turned into a result that needs judgment.
-/

namespace Onpremai.AgentEval

open Onpremai.Library

/-- An exception a rule handler raised. -/
structure RaisedException where
  typeName : String
  message : String

abbrev RuleHandler := Criterion → List EvidenceMetadata → List EvidenceFile →
    Except RaisedException CriterionResult

/-- Registry mapping a check type to its handler. -/
abbrev RuleHandlers := String → Option RuleHandler

def needsJudgmentResult (criterion : Criterion) (reason : String) : CriterionResult where
  criterionId := criterion.id
  category := criterion.category
  result := .needsJudgment
  method := .llmJudgment
  reason := reason

def dispatchRule (handlers : RuleHandlers) (checkType : String) (criterion : Criterion)
    (evidenceMetadata : List EvidenceMetadata) (evidenceFiles : List EvidenceFile) :
    CriterionResult :=
  match handlers checkType with
  | none =>
    needsJudgmentResult criterion ("No rule handler for check_type: " ++ checkType)
  | some handler =>
    match handler criterion evidenceMetadata evidenceFiles with
    | .ok result => result
    | .error exn =>
      needsJudgmentResult criterion
        ("Rule execution error: " ++ exn.typeName ++ ": " ++ exn.message)

def inferCheckType (criterion : Criterion) : Option String :=
  let evidenceType := Text.lower criterion.evidenceType
  let passCond := Text.lower criterion.passCondition
  let mentions (needle : String) : Bool := Text.contains needle passCond
  if evidenceType = "document" then
    if mentions "exists" || ((Text.words passCond).take 3).contains "policy" then
      some "file_existence"
    else if mentions "reviewed within" || mentions "months" then
      some "freshness"
    else if mentions "mentions" || mentions "contains" || mentions "covers" then
      some "keyword_presence"
    else none
  else if evidenceType = "structured_data" then
    if mentions "count" || mentions "records exist" then some "row_count"
    else if mentions "populated" || mentions "null" then some "null_rate"
    else if mentions "cross-reference" || mentions "no active" then
      some "cross_reference"
    else if mentions "columns" || mentions "fields" then some "schema_presence"
    else if ["threshold", "within", "max", "minimum"].any mentions then
      some "quantitative"
    else some "row_count"
  else none

def evaluateCriterionWithRules (handlers : RuleHandlers) (criterion : Criterion)
    (evidenceMetadata : List EvidenceMetadata) (evidenceFiles : List EvidenceFile) :
    CriterionResult :=
  match truthy? criterion.checkType <|> inferCheckType criterion with
  | none =>
    needsJudgmentResult criterion "No deterministic rule available for this criterion"
  | some checkType =>
    dispatchRule handlers checkType criterion evidenceMetadata evidenceFiles

/-- Accumulators of the loop over the criteria. -/
structure RuleAcc where
  ruleResults : Dict String CriterionResult := .empty
  needsJudgment : List String := []
  layer1Resolved : Nat := 0

def RuleAcc.record (acc : RuleAcc) (criterion : Criterion) (result : CriterionResult) : RuleAcc :=
  if result.result = .needsJudgment then
    { ruleResults := acc.ruleResults.set criterion.id result
      needsJudgment := acc.needsJudgment ++ [criterion.id]
      layer1Resolved := acc.layer1Resolved }
  else
    { ruleResults := acc.ruleResults.set criterion.id result
      needsJudgment := acc.needsJudgment
      layer1Resolved := acc.layer1Resolved + 1 }

def applyRules (evaluate : Criterion → CriterionResult) (criteria : List Criterion) : RuleAcc :=
  criteria.foldl (fun acc criterion => acc.record criterion (evaluate criterion)) {}

def rulesTiming (existing : Option TimingStats) (elapsedMs : Rat) : TimingStats :=
  match existing with
  | none => { layer1Ms := elapsedMs }
  | some timing =>
    { discoveryMs := timing.discoveryMs, extractionMs := timing.extractionMs,
      layer1Ms := elapsedMs }

def rulesEngineNode (handlers : RuleHandlers) (elapsedMs : Rat)
    (state : EvalGraphState) : EvalGraphState :=
  match state.criteria? with
  | none =>
    { ruleResults := some .empty, needsJudgment := some []
      error := some (some "No testing criteria available") }
  | some testingCriteria =>
    let acc := applyRules
      (fun criterion => evaluateCriterionWithRules handlers criterion
        (state.evidenceMetadata.getD []) (state.evidenceFiles.getD []))
      testingCriteria.criteria
    { ruleResults := some acc.ruleResults
      needsJudgment := some acc.needsJudgment
      timing := some (some (rulesTiming state.timing? elapsedMs))
      layerStats := some (some
        { layer1Resolved := acc.layer1Resolved
          totalCriteria := testingCriteria.criteria.length }) }

def LeftToLayer2 (evaluate : Criterion → CriterionResult) (criterion : Criterion) : Bool :=
  decide ((evaluate criterion).result = .needsJudgment)

private theorem foldl_record (evaluate : Criterion → CriterionResult)
    (criteria : List Criterion) (acc : RuleAcc) :
    criteria.foldl (fun acc criterion => acc.record criterion (evaluate criterion)) acc =
      { ruleResults := acc.ruleResults.setAll
          (criteria.map fun criterion => (criterion.id, evaluate criterion))
        needsJudgment := acc.needsJudgment ++
          (criteria.filter (LeftToLayer2 evaluate)).map Criterion.id
        layer1Resolved := acc.layer1Resolved +
          (criteria.filter fun criterion => !LeftToLayer2 evaluate criterion).length } := by
  induction criteria generalizing acc with
  | nil => simp [Dict.setAll]
  | cons criterion rest ih =>
    rw [List.foldl_cons, ih]
    by_cases left : (evaluate criterion).result = .needsJudgment
    · simp [RuleAcc.record, LeftToLayer2, left, Dict.setAll]
    · simp [RuleAcc.record, LeftToLayer2, left, Dict.setAll]
      omega

theorem applyRules_eq (evaluate : Criterion → CriterionResult) (criteria : List Criterion) :
    applyRules evaluate criteria =
      { ruleResults := Dict.ofList
          (criteria.map fun criterion => (criterion.id, evaluate criterion))
        needsJudgment := (criteria.filter (LeftToLayer2 evaluate)).map Criterion.id
        layer1Resolved :=
          (criteria.filter fun criterion => !LeftToLayer2 evaluate criterion).length } := by
  simp [applyRules, foldl_record, Dict.ofList]

end Onpremai.AgentEval
