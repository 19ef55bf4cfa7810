import Onpremai.Library.Json

/-!
# Data model of the LLM gateway

Requests, responses and the routing configuration.  Costs and confidences are
exact rationals where the gateway computes with floating-point numbers.
-/

namespace Onpremai.Gateway

open Onpremai.Library

abbrev Day := Nat

/-- Request to the completion endpoint. -/
structure CompletionRequest where
  task : String
  agent : String := "unknown"
  tenantId : String
  traceId : String := ""
  confidenceThreshold : Rat := 0
  maxTokens : Nat := 4096
  responseFormat : Option String := none
  deriving DecidableEq, Repr

/-- Token usage statistics. -/
structure Usage where
  inputTokens : Int := 0
  outputTokens : Int := 0
  deriving DecidableEq, Repr

/-- A provider's response in the gateway's form. -/
structure NormalizedResponse where
  content : Option String := none
  toolCalls : List String := []
  usage : Usage := {}
  deriving DecidableEq, Repr

/-- Response of the completion endpoint. -/
structure CompletionResponse where
  content : Option String := none
  modelUsed : String := ""
  tierUsed : String := ""
  escalated : Bool := false
  escalationPath : List String := []
  usage : Usage := {}
  confidence : Rat := 0
  toolCalls : List String := []
  costUsd : Rat := 0
  traceId : String := ""
  deriving DecidableEq, Repr

/-- Configuration for a single model within a tier. -/
structure ModelConfig where
  id : String
  provider : String := ""
  model : String := ""
  endpoint : String := ""
  apiKey : String := ""
  maxTokens : Int := 4096
  timeoutMs : Int := 60000
  healthy : Bool := true
  enabled : Bool := true
  deriving DecidableEq, Repr

/-- Escalation configuration. -/
structure EscalationConfig where
  enabled : Bool := true
  maxEscalations : Int := 2
  path : List String := ["fast", "mid", "strong"]
  deriving Repr

/-- Cost ceiling configuration. -/
structure CostConfig where
  maxPerTenantPerDayUsd : Rat := 50
  deriving Repr

/-- A routing value: a tier, a dictionary with a model or a tier, or something
else. -/
inductive RouteValue where
  | tier (name : String)
  | choice (model tier : Option String)
  | other
  deriving Repr

/-- Canary experiment configuration. -/
structure CanaryConfig where
  model : String
  trafficPct : Nat := 20
  minSamples : Nat := 30
  minDurationHours : Nat := 4
  deriving DecidableEq, Repr

/-- Complete routing configuration. -/
structure RoutingConfig where
  tiers : Dict String (List ModelConfig) := .empty
  taskRouting : Dict String String := .empty
  agentRouting : Dict String (Dict String RouteValue) := .empty
  tenantRouting : Dict String (Dict String RouteValue) := .empty
  escalation : EscalationConfig := {}
  cost : CostConfig := {}
  canary : Dict String CanaryConfig := .empty

/-- An adapter of a provider: what it charges for a number of tokens. -/
structure Adapter where
  estimateCost : Int → Int → Rat

abbrev ProviderRegistry := String → Option Adapter

end Onpremai.Gateway

/-!
## Routing hierarchy

A request is routed by its tenant, else by its agent, else by its task, else to
the middle tier.
-/

namespace Onpremai.Gateway

open Onpremai.Library

/-- Result of routing resolution. -/
structure RouteResolution where
  tier : String
  modelConfig : Option ModelConfig := none
  source : String := "default"

namespace RoutingConfig

variable (config : RoutingConfig)

def findModelById (modelId : String) : Option ModelConfig :=
  config.tiers.values.flatten.find? fun model => decide (model.id = modelId)

def findTierForModel (modelId : String) : String :=
  match config.tiers.entries.find? fun entry =>
      entry.2.any fun model => decide (model.id = modelId) with
  | some entry => entry.1
  | none => "mid"

def interpretRouteValue (value : RouteValue) (source : String) : RouteResolution :=
  match value with
  | .tier name => { tier := name, source }
  | .choice (some model) tier =>
    if model = "" then { tier := tier.getD "mid", source }
    else { tier := config.findTierForModel model
           modelConfig := config.findModelById model, source }
  | .choice none tier => { tier := tier.getD "mid", source }
  | .other => { tier := "mid", source }

def resolveTenant (tenantId task : String) : Option RouteResolution :=
  match config.tenantRouting.get? tenantId with
  | none => none
  | some routes =>
    (routes.get? task).map fun value => config.interpretRouteValue value "tenant"

def resolveAgent (agent task : String) : Option RouteResolution :=
  match config.agentRouting.get? agent with
  | none => none
  | some routes =>
    (routes.get? task).map fun value => config.interpretRouteValue value "agent"

def resolveTask (task : String) : Option RouteResolution :=
  (config.taskRouting.get? task).map fun tier => { tier, source := "task" }

/-- Resolve a request to a specific tier and optionally a model. -/
def resolve (agent task tenantId : String) : RouteResolution :=
  match config.resolveTenant tenantId task with
  | some resolution => resolution
  | none =>
    match config.resolveAgent agent task with
    | some resolution => resolution
    | none =>
      match config.resolveTask task with
      | some resolution => resolution
      | none => { tier := "mid" }

def getModelsForTier (tier : String) : List ModelConfig :=
  match config.tiers.get? tier with
  | none => []
  | some models => models.filter fun model => model.healthy && model.enabled

def canaryExperiment (agent task : String) : Option CanaryConfig :=
  config.canary.get? (agent ++ "/" ++ task) <|> config.canary.get? task

def canaryModelId (agent task : String) (roll : Nat) : Option String :=
  match config.canaryExperiment agent task with
  | none => none
  | some experiment => if roll ≤ experiment.trafficPct then some experiment.model else none

end RoutingConfig

/-- The tier after the first occurrence of a tier in the escalation path. -/
def getNextTier : List String → String → Option String
  | [], _ => none
  | tier :: rest, currentTier =>
    if tier = currentTier then rest.head? else getNextTier rest currentTier

end Onpremai.Gateway
