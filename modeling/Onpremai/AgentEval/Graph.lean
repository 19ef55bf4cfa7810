import Onpremai.AgentEval.Discovery
import Onpremai.AgentEval.Extractor
import Onpremai.AgentEval.Formatter
import Onpremai.AgentEval.Layers
import Onpremai.AgentEval.Retriever
import Onpremai.AgentEval.Sandbox
import Onpremai.Library.Workflow

/-!
# The evaluation graph

The nodes, the edges between them and one run from the initial state.  Whether a
run ends with a result is decided by its discovery: a run without evidence
reaches the formatter with a layer-statistics key that holds `None`.
-/

namespace Onpremai.AgentEval

open Onpremai.Library

/-- The nodes of the graph. -/
inductive Node where
  | router
  | discovery
  | extractor
  | loadCriteria
  | rulesEngine
  | evaluation
  | scoring
  | sandbox
  | codeFixer
  | formatter
  deriving DecidableEq, Repr

/-- Elapsed times the nodes measure. -/
structure Clock where
  discoveryMs : Rat := 0
  extractionMs : Rat := 0
  layer1Ms : Rat := 0
  layer2Ms : Rat := 0
  layer3Ms : Rat := 0
  sandboxMs : Rat := 0
  formatMs : Rat := 0

/-- The surroundings of a run. -/
structure GraphServices where
  settings : EvalSettings
  decoders : Decoders
  handlers : RuleHandlers
  llm : String → LlmAnswers
  discovery : DiscoveryServices
  extractor : ExtractorServices
  retriever : RetrieverServices
  sandbox : SandboxServices
  classifyMessage : String → String
  evaluationId : String
  clock : Clock

section Edges

def routeAfterRouter (state : EvalGraphState) : Node :=
  if state.intent.getD "evaluate" = "evaluate" then .discovery else .formatter

def routeAfterDiscovery (state : EvalGraphState) : Node :=
  if (state.cachedResult.getD none).isSome then .formatter
  else if state.evidenceFiles.getD [] = [] ∧ (truthy? (state.error.getD none)).isSome then
    .formatter
  else .extractor

def needsSandbox (state : EvalGraphState) : Bool :=
  match state.criteria? with
  | none => false
  | some testingCriteria =>
    (state.needsJudgment.getD []).any fun id =>
      match (criteriaMapOf testingCriteria.criteria).get? id with
      | none => false
      | some criterion =>
        decide (criterion.evidenceType = "structured_data") &&
          (state.evidenceMetadata.getD []).any fun file => isStructured file.fileType

/-- Route based on rule engine results. -/
def routeAfterRules (state : EvalGraphState) : Node :=
  if state.needsJudgment.getD [] = [] then .scoring
  else if needsSandbox state then .sandbox
  else .evaluation

def routeAfterSandbox (settings : EvalSettings) (state : EvalGraphState) : Node :=
  let sandboxOutput := state.sandboxOutput.getD ""
  if sandboxOutput = "" ∨ (Text.contains "error" (Text.lower sandboxOutput) = true ∧
      state.sandboxRetries.getD 0 < settings.maxSandboxRetries) then .codeFixer
  else .evaluation

def route (settings : EvalSettings) (node : Node) (state : EvalGraphState) : Option Node :=
  match node with
  | .router => some (routeAfterRouter state)
  | .discovery => some (routeAfterDiscovery state)
  | .extractor => some .loadCriteria
  | .loadCriteria => some .rulesEngine
  | .rulesEngine => some (routeAfterRules state)
  | .sandbox => some (routeAfterSandbox settings state)
  | .codeFixer => some .evaluation
  | .evaluation => some .scoring
  | .scoring => some .formatter
  | .formatter => none

end Edges

section Runs

variable (services : GraphServices)

def nodeUpdate (node : Node) (state : EvalGraphState) : Except PyError EvalGraphState :=
  match node with
  | .router => .ok (routerNode services.classifyMessage state)
  | .discovery => discoveryNode services.discovery services.clock.discoveryMs state
  | .extractor => extractorNode services.extractor services.clock.extractionMs state
  | .loadCriteria => .ok (loadTestingCriteriaNode services.retriever state)
  | .rulesEngine => .ok (rulesEngineNode services.handlers services.clock.layer1Ms state)
  | .evaluation =>
    evaluationNode (judgeWith services.settings services.decoders services.llm)
      services.clock.layer2Ms state
  | .scoring => .ok (scoringNode services.clock.layer3Ms state)
  | .sandbox => sandboxNode services.sandbox services.clock.sandboxMs state
  | .codeFixer => codeFixerNode services.sandbox services.settings state
  | .formatter => formatterNode services.evaluationId services.clock.formatMs state

def runNode (node : Node) (state : EvalGraphState) : Except PyError EvalGraphState := do
  let update ← nodeUpdate services node state
  return state.merge update

def evalGraph : Workflow Node EvalGraphState PyError where
  run := runNode services
  route := route services.settings

/-- The number of nodes after which the graph runner gives up. -/
def recursionLimit : Nat := 25

/-- The state a run starts from: every key is present. -/
def initialState (request : EvalRequest) : EvalGraphState where
  controlId := some request.controlId
  framework := some request.framework
  tenantId := some request.tenantId
  traceId := some request.traceId
  bypassCache := some request.bypassCache
  intent := some "evaluate"
  evidenceFiles := some []
  evidenceHash := some ""
  evidenceMetadata := some []
  testingCriteria := some none
  ruleResults := some .empty
  needsJudgment := some []
  judgmentResults := some .empty
  finalScore := some 0
  finalStatus := some .insufficientEvidence
  sandboxCode := some ""
  sandboxOutput := some ""
  sandboxRetries := some 0
  evaluationResult := some none
  error := some none
  partialEvaluation := some false
  chatMessage := some ""
  timing := some (some {})
  layerStats := some none
  cachedResult := some none

def runGraph (request : EvalRequest) : Except PyError EvalGraphState :=
  (evalGraph services).exec .runtimeError recursionLimit .router (initialState request)

def executeEvaluation (request : EvalRequest) (timedOut : Bool) : Except PyError EvalResult :=
  if timedOut then
    EvalResult.create
      { evaluationId := services.evaluationId, controlId := request.controlId
        framework := request.framework, tenantId := request.tenantId
        status := .insufficientEvidence
        metadataError := some ("Evaluation timed out after " ++
          toString services.settings.maxEvalTimeoutSec ++ "s") }
  else do
    let final ← runGraph services request
    match final.evaluationResult.getD none with
    | some result => return result
    | none =>
      EvalResult.create
        { evaluationId := services.evaluationId, controlId := request.controlId
          framework := request.framework, tenantId := request.tenantId
          score := final.finalScore.getD 0
          status := final.finalStatus.getD .insufficientEvidence
          evidenceHash := final.evidenceHash.getD ""
          metadataError := final.error.getD (some "Unknown error") }

def FindsEvidence (request : EvalRequest) : Prop :=
  ∃ files, discoverFiles services.discovery request.tenantId request.framework
    request.controlId = .ok files ∧ files ≠ []

def EndsWithResult (request : EvalRequest) : Prop :=
  ∃ final result, runGraph services request = .ok final ∧
    final.evaluationResult = some (some result) ∧
    (¬ FindsEvidence services request → result.status = .insufficientEvidence)

end Runs

end Onpremai.AgentEval
