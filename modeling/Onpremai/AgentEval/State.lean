import Onpremai.Library.Json

/-!
# Data model of the evaluation service

Criteria, evidence and results as the evaluation pipeline passes them between
its nodes.  Scores, weights and durations are exact rationals where the service
computes with floating-point numbers.  A time is a number of microseconds since
the epoch, in UTC.
-/

namespace Onpremai.AgentEval

open Onpremai.Library

abbrev Timestamp := Int

/-- Result of evaluating a single criterion. -/
inductive CriterionResultEnum where
  | pass
  | partialPass
  | fail
  | needsJudgment
  | cannotAssess
  | insufficientEvidence
  deriving DecidableEq, Repr

/-- Overall compliance status for a control. -/
inductive ComplianceStatus where
  | compliant
  | partiallyCompliant
  | nonCompliant
  | insufficientEvidence
  | partialEvaluation
  deriving DecidableEq, Repr

/-- Method used to evaluate a criterion. -/
inductive EvalMethod where
  | ruleFileExistence
  | ruleFreshness
  | ruleSchemaPresence
  | ruleRowCount
  | ruleNullRate
  | ruleCrossReference
  | ruleQuantitative
  | ruleKeywordPresence
  | llmJudgment
  | cached
  | degraded
  deriving DecidableEq, Repr

/-- A single testing criterion for a control. -/
structure Criterion where
  id : String
  category : String
  question : String := ""
  evidenceType : String := ""
  passCondition : String := ""
  failCondition : String := ""
  weight : Rat := 1 / 10
  checkType : Option String := none
  checkParams : Json := .obj []
  deriving Repr

/-- Complete testing criteria for a single control. -/
structure TestingCriteria where
  controlId : String
  framework : String
  criteria : List Criterion
  deriving Repr

/-- An evidence file discovered in storage. -/
structure EvidenceFile where
  storageKey : String
  filename : String
  fileType : String := ""
  sizeBytes : Int := 0
  lastModified : Timestamp := 0
  deriving DecidableEq, Repr

/-- Extracted metadata from an evidence file. -/
structure EvidenceMetadata where
  storageKey : String
  fileType : String := ""
  columns : List String := []
  rowCount : Int := 0
  sheetNames : List String := []
  textContent : String := ""
  extractedAt : Timestamp := 0
  schemaInfo : Json := .obj []
  deriving Repr

/-- Result of evaluating a single criterion, with the method that produced it. -/
structure CriterionResult where
  criterionId : String
  category : String
  result : CriterionResultEnum
  method : EvalMethod := .llmJudgment
  reason : String := ""
  confidence : Option Rat := none
  evidenceUsed : List String := []
  deriving DecidableEq, Repr

/-- Statistics about which layers resolved which criteria. -/
structure LayerStats where
  layer1Resolved : Nat := 0
  layer2Resolved : Nat := 0
  totalCriteria : Nat := 0
  llmCalls : Nat := 0
  sandboxCalls : Nat := 0
  deriving DecidableEq, Repr

/-- Timing breakdown for the evaluation. -/
structure TimingStats where
  totalMs : Rat := 0
  layer1Ms : Rat := 0
  layer2Ms : Rat := 0
  layer3Ms : Rat := 0
  sandboxMs : Rat := 0
  discoveryMs : Rat := 0
  extractionMs : Rat := 0
  deriving DecidableEq, Repr

end Onpremai.AgentEval

/-!
## State of the evaluation graph

The graph runner hands every node the accumulated state and merges the node's
update into it key by key.  A key can be absent from a state or an update, which
is different from a key that holds `None`: the defaults of `state.get` apply to
absent keys only.
-/

namespace Onpremai.AgentEval

open Onpremai.Library

/-- The exceptions the nodes raise or let through. -/
inductive PyError where
  | llmCreditExhausted (degradationLevel : Nat)
  | llmUnavailable
  | storageError
  | attributeError
  | typeError
  | valueError
  | jsonDecodeError
  | overflowError
  | recursionError
  | validationError (model field : String)
  | runtimeError
  deriving DecidableEq, Repr

/-- Reasoning of one tribunal, kept for the justification document. -/
structure TribunalDoc where
  criterionId : String
  verdict : CriterionResultEnum
  confidence : Rat
  justification : Json
  prosecution : Json
  defense : Json
  prosecutionAccepted : Json
  prosecutionRejected : Json
  defenseAccepted : Json
  defenseRejected : Json
  deriving Repr

/-- The justification document of a scored evaluation. -/
structure Justification where
  summary : String
  layer1Count : Nat
  layer1Criteria : List (String × CriterionResult)
  layer2Count : Nat
  layer2Criteria : Dict String TribunalDoc
  score : Rat
  status : ComplianceStatus
  floorRulesApplied : List String

/-- Complete evaluation result for a single control. -/
structure EvalResult where
  evaluationId : String
  controlId : String
  framework : String
  tenantId : String
  score : Rat := 0
  status : ComplianceStatus := .insufficientEvidence
  evidenceHash : String := ""
  criteriaResults : List CriterionResult := []
  justification : Option Justification := none
  layerStats : LayerStats := {}
  timing : TimingStats := {}
  partialEvaluation : Bool := false
  cached : Bool := false
  metadataError : Option String := none

/-- Arguments of the validating constructor.  The two fields that the graph can
hold as `None` are optional here. -/
structure EvalResultArgs where
  evaluationId : String
  controlId : String
  framework : String
  tenantId : String
  score : Rat := 0
  status : ComplianceStatus := .insufficientEvidence
  evidenceHash : String := ""
  criteriaResults : List CriterionResult := []
  justification : Option Justification := none
  layerStats : Option LayerStats := some {}
  timing : Option TimingStats := some {}
  partialEvaluation : Bool := false
  cached : Bool := false
  metadataError : Option String := none

/-- Construct a result; `None` for a field that is not optional is rejected. -/
def EvalResult.create (args : EvalResultArgs) : Except PyError EvalResult :=
  match args.layerStats, args.timing with
  | none, _ => .error (.validationError "EvalResult" "layer_stats")
  | some _, none => .error (.validationError "EvalResult" "timing")
  | some layerStats, some timing =>
    .ok { evaluationId := args.evaluationId, controlId := args.controlId,
          framework := args.framework, tenantId := args.tenantId,
          score := args.score, status := args.status,
          evidenceHash := args.evidenceHash,
          criteriaResults := args.criteriaResults,
          justification := args.justification,
          layerStats, timing,
          partialEvaluation := args.partialEvaluation, cached := args.cached,
          metadataError := args.metadataError }

/-- A state key: `none` when the key is absent. -/
abbrev Key (α : Type) := Option α

/-- A text that the truth tests of the nodes accept: present and not empty. -/
def truthy? (text : Option String) : Option String :=
  match text with
  | some "" => none
  | other => other

/-- State passed between the nodes; a node update has the same shape. -/
structure EvalGraphState where
  controlId : Key String := none
  framework : Key String := none
  tenantId : Key String := none
  traceId : Key String := none
  bypassCache : Key Bool := none
  intent : Key String := none
  evidenceFiles : Key (List EvidenceFile) := none
  evidenceHash : Key String := none
  evidenceMetadata : Key (List EvidenceMetadata) := none
  testingCriteria : Key (Option TestingCriteria) := none
  ruleResults : Key (Dict String CriterionResult) := none
  needsJudgment : Key (List String) := none
  judgmentResults : Key (Dict String CriterionResult) := none
  tribunalJustifications : Key (Dict String TribunalDoc) := none
  finalScore : Key Rat := none
  finalStatus : Key ComplianceStatus := none
  sandboxCode : Key String := none
  sandboxOutput : Key String := none
  sandboxRetries : Key Nat := none
  evaluationResult : Key (Option EvalResult) := none
  error : Key (Option String) := none
  partialEvaluation : Key Bool := none
  chatMessage : Key String := none
  timing : Key (Option TimingStats) := none
  layerStats : Key (Option LayerStats) := none
  cachedResult : Key (Option EvalResult) := none

namespace EvalGraphState

/-- Merge a node update: keys of the update win, `None` values included. -/
def merge (state update : EvalGraphState) : EvalGraphState where
  controlId := update.controlId <|> state.controlId
  framework := update.framework <|> state.framework
  tenantId := update.tenantId <|> state.tenantId
  traceId := update.traceId <|> state.traceId
  bypassCache := update.bypassCache <|> state.bypassCache
  intent := update.intent <|> state.intent
  evidenceFiles := update.evidenceFiles <|> state.evidenceFiles
  evidenceHash := update.evidenceHash <|> state.evidenceHash
  evidenceMetadata := update.evidenceMetadata <|> state.evidenceMetadata
  testingCriteria := update.testingCriteria <|> state.testingCriteria
  ruleResults := update.ruleResults <|> state.ruleResults
  needsJudgment := update.needsJudgment <|> state.needsJudgment
  judgmentResults := update.judgmentResults <|> state.judgmentResults
  tribunalJustifications := update.tribunalJustifications <|> state.tribunalJustifications
  finalScore := update.finalScore <|> state.finalScore
  finalStatus := update.finalStatus <|> state.finalStatus
  sandboxCode := update.sandboxCode <|> state.sandboxCode
  sandboxOutput := update.sandboxOutput <|> state.sandboxOutput
  sandboxRetries := update.sandboxRetries <|> state.sandboxRetries
  evaluationResult := update.evaluationResult <|> state.evaluationResult
  error := update.error <|> state.error
  partialEvaluation := update.partialEvaluation <|> state.partialEvaluation
  chatMessage := update.chatMessage <|> state.chatMessage
  timing := update.timing <|> state.timing
  layerStats := update.layerStats <|> state.layerStats
  cachedResult := update.cachedResult <|> state.cachedResult

/-- `state.get("testing_criteria")`: an absent key reads as `None`. -/
def criteria? (state : EvalGraphState) : Option TestingCriteria := state.testingCriteria.getD none

/-- `state.get("timing")`. -/
def timing? (state : EvalGraphState) : Option TimingStats := state.timing.getD none

/-- `state.get("layer_stats")`. -/
def layerStats? (state : EvalGraphState) : Option LayerStats := state.layerStats.getD none

end EvalGraphState

end Onpremai.AgentEval
