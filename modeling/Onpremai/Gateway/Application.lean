import Onpremai.Gateway.Canary
import Onpremai.Gateway.ConfigLoader
import Onpremai.Gateway.Interleaving
import Onpremai.Gateway.Providers

/-!
# Application state

An application builds its state when it starts.  A new configuration is handed on to the
components that depend on it; the adapters are not among them.  The loader and the router
hold the same configuration, and the health manager refers to places in it.
-/

namespace Onpremai.Gateway

open Onpremai.Library

/-- The state of an application. -/
structure GatewayApp where
  loader : ConfigLoader := {}
  canary : CanaryManager := {}
  adapters : Dict String ProviderAdapter := .empty
  health : HealthManager := {}
  confidenceThresholds : Dict String Rat := .empty

/-- Request body of a canary start. -/
structure CanarySetRequest where
  model : String
  trafficPct : Nat := 20
  minSamples : Nat := 30
  share : 1 ≤ trafficPct ∧ trafficPct ≤ 100 := by decide
  enough : 1 ≤ minSamples := by decide

/-- The admin requests that change the state. -/
inductive AdminRequest where
  | updateRouting (body : RoutingUpdateRequest)
  | updateThreshold (task : String) (confidenceThreshold : Rat)
  | reload
  | setCanary (task : String) (body : CanarySetRequest)
  | promoteCanary (task : String)
  | rollbackCanary (task : String)
  | disableModel (modelId : String)

namespace GatewayApp

variable (app : GatewayApp)

def config : RoutingConfig := app.loader.config

def onConfigReload (now : Rat) (newConfig : RoutingConfig) : GatewayApp :=
  { app with
    canary := app.canary.updateFromConfig now newConfig
    health := app.health.updateFromConfig newConfig }

def afterLoad (now : Rat) (loaded : ConfigLoader × Option RoutingConfig) : GatewayApp :=
  let app := { app with loader := loaded.1 }
  match loaded.2 with
  | none => app
  | some newConfig => app.onConfigReload now newConfig

def noMetrics : Json :=
  .obj [("sample_count", .num 0), ("avg_confidence", .num 0), ("avg_latency_ms", .num 0),
    ("p95_latency_ms", .num 0), ("error_rate", .num 0), ("escalation_rate", .num 0),
    ("avg_cost_usd", .num 0)]

/-- Answer of a promotion or a rollback. -/
def canaryReply (status task : String) : Option CanaryManager → GatewayApp × AdminReply
  | none => (app, .failed 404 ("No canary experiment for task: " ++ task))
  | some canary =>
    ({ app with canary }, .answered (.obj [("status", .str status), ("task", .str task)]))

def handle (process : Process) (now : Rat) (file : ConfigFile) :
    AdminRequest → GatewayApp × AdminReply
  | .updateRouting body =>
    let outcome := updateRoutingRoute process now file app.loader body
    if outcome.2.acknowledged then
      (app.afterLoad now (outcome.1, some outcome.1.config), outcome.2)
    else (app, outcome.2)
  | .updateThreshold task confidenceThreshold =>
    ({ app with
        confidenceThresholds := app.confidenceThresholds.set task confidenceThreshold },
      .answered (.obj
        [("status", .str "applied"), ("task", .str task), ("threshold", .num confidenceThreshold),
         ("previous", ((app.confidenceThresholds.get? task).map .num).getD .null)]))
  | .reload =>
    let app := app.afterLoad now (reload process now app.loader file)
    (app.onConfigReload now app.config, .answered (.obj
        [("status", .str "reloaded"), ("tiers", Json.strings app.config.tiers.keys)]))
  | .setCanary task body =>
    ({ app with
        canary := app.canary.setCanary now task body.model body.trafficPct body.minSamples },
      .answered (.obj
        [("task", .str task), ("active", .bool true), ("model", .str body.model),
         ("traffic_pct", .num body.trafficPct), ("started_at", .num now),
         ("control", noMetrics), ("canary", noMetrics)]))
  | .promoteCanary task => app.canaryReply "promoted" task (app.canary.promoteCanary task)
  | .rollbackCanary task => app.canaryReply "rolled_back" task (app.canary.rollbackCanary task)
  | .disableModel modelId =>
    match app.health.disableModel app.config modelId with
    | none => (app, .failed 404 ("Model not found: " ++ modelId))
    | some (config, health) =>
      ({ app with loader := { app.loader with config }, health },
        .answered (.obj [("status", .str "disabled"), ("model_id", .str modelId)]))

end GatewayApp

/-- What changes the state of an application: an admin request, a change of the file, the
outcome of a health check, a model that is enabled again, and the result of a request that
went to a canary. -/
inductive AppMove where
  | admin (now : Rat) (file : ConfigFile) (request : AdminRequest)
  | fileChanged (now : Rat) (file : ConfigFile)
  | healthChecked (modelId : String) (healthy : Bool) (elapsedMs : Int)
  | enableModel (modelId : String)
  | recordResult (agent task : String) (variant : Variant) (sample : Sample)

namespace GatewayApp

variable (process : Process) (app : GatewayApp)

def checked (modelId : String) (healthy : Bool) (elapsedMs : Int) : GatewayApp :=
  match app.adapters.get? modelId with
  | none => app
  | some _ =>
    let (config, health) := app.health.checkSingleModel app.config modelId healthy elapsedMs
    { app with loader := { app.loader with config }, health }

def enabled (modelId : String) : GatewayApp :=
  match app.health.enableModel app.config modelId with
  | none => app
  | some (config, health) => { app with loader := { app.loader with config }, health }

def step : AppMove → GatewayApp
  | .admin now file request => (app.handle process now file request).1
  | .fileChanged now file => app.afterLoad now (onFileChanged process now app.loader file)
  | .healthChecked modelId healthy elapsedMs => app.checked modelId healthy elapsedMs
  | .enableModel modelId => app.enabled modelId
  | .recordResult agent task variant sample =>
    { app with canary := app.canary.recordResult agent task variant sample }

/-- The state that an application starts with, when it can read the configuration. -/
def lifespan (settings : GatewaySettings) (now : Rat) (file : ConfigFile) :
    Except String GatewayApp := do
  let loaded ← load process now {} file
  let config := withDefaultKeys settings loaded.1.config
  return {
    loader := { loaded.1 with config }
    canary := ({} : CanaryManager).updateFromConfig now config
    adapters := registerAll settings loaded.1.config
    health := ({} : HealthManager).updateFromConfig config }

end GatewayApp

end Onpremai.Gateway

/-!
## Serving under operation

An application serves requests while its configuration, its experiments and its flags
change.  A request reads them again whenever it moves; a model whose flags change while it
waits is passed over like one that fails.
-/

namespace Onpremai.Gateway

open Onpremai.Library

def CanaryManager.configs (manager : CanaryManager) : Dict String CanaryConfig :=
  manager.experiments.mapEntries fun _ experiment => experiment.config

def AppMove.recordsResult : AppMove → Bool
  | .recordResult _ _ _ _ => true
  | _ => false

/-- An application, with the requests that it serves. -/
structure Serving where
  app : GatewayApp
  shared : Shared := {}
  flights : List Flight := []

/-- What may happen next. -/
inductive ServingMove where
  | operate (move : AppMove) (outside : move.recordsResult = false)
  | arrive (body : CompletionRequest)
  | resume (index : Nat) (outcome : Outcome) (latencyMs : Int)
  | newDay

/-- The sample of a served request. -/
def sampleOf (loop : LoopState) (costUsd : Rat) (latencyMs : Int) : Sample where
  confidence := loop.bestConfidence
  latencyMs := latencyMs
  error := false
  escalated := decide (0 < loop.escalationCount)
  costUsd := costUsd

def recordCanary (canary : CanaryManager) (body : CompletionRequest) (latencyMs : Int) :
    Phase → Phase → CanaryManager
  | .expiring loop _ costUsd, .answered (.served _) =>
    if loop.canaryModelId.isSome then
      canary.recordResult body.agent body.task .canary (sampleOf loop costUsd latencyMs)
    else canary
  | _, _ => canary

section

variable (charge : ProviderAdapter → Adapter) (loads : String → Option Json)

/-- What a request reads of an application when it moves. -/
def GatewayApp.appState (app : GatewayApp) : AppState where
  config := { app.config with canary := app.canary.configs }
  registry := fun modelId => (app.adapters.get? modelId).map charge
  loads := loads

/-- A request after its await came back. -/
def Serving.resumed (state : Serving) (flight : Flight) (outcome : Outcome) : Flight :=
  flight.resume (state.app.appState charge loads) state.shared outcome

variable (process : Process)

def Serving.step (state : Serving) : ServingMove → Serving
  | .operate move _ => { state with app := state.app.step process move }
  | .arrive body => { state with flights := state.flights ++ [{ body }] }
  | .resume index outcome latencyMs =>
    match state.flights[index]? with
    | none => state
    | some flight =>
      let resumed := state.resumed charge loads flight outcome
      { app := { state.app with
          canary := recordCanary state.app.canary flight.body latencyMs flight.phase
            resumed.phase }
        shared := flight.share (state.app.appState charge loads) state.shared outcome
        flights := state.flights.set index resumed }
  | .newDay => { state with shared := { state.shared with today := state.shared.today + 1 } }

/-- The requests that an application serves. -/
def Serving.system (state : Serving) : System where
  shared := state.shared
  flights := state.flights

variable {charge loads process}

/-- A request that moves under operation moves as it does while nothing changes. -/
theorem Serving.system_step_resume (state : Serving) (index : Nat) (outcome : Outcome)
    (latencyMs : Int) :
    (state.step charge loads process (.resume index outcome latencyMs)).system =
      state.system.step (state.app.appState charge loads) (.resume index outcome) := by
  rw [Serving.step]
  cases found : state.flights[index]? with
  | none => exact (@System.step_resume_of_none _ state.system index found outcome).symm
  | some flight => exact (@System.step_resume_of_some _ state.system index flight found outcome).symm

section

variable (app : GatewayApp) (agent task : String)

theorem canaryExperiment_appState : (app.appState charge loads).config.canaryExperiment agent task =
      (app.canary.experimentOf agent task).map CanaryExperiment.config := by
  have lookup (key : String) : app.canary.configs.get? key =
      (app.canary.get? key).map CanaryExperiment.config :=
    Dict.get?_mapEntries _ _ _
  rw [RoutingConfig.canaryExperiment, CanaryManager.experimentOf]
  change (app.canary.configs.get? _ <|> app.canary.configs.get? _) = _
  rw [lookup, lookup]
  cases app.canary.get? (agent ++ "/" ++ task) with
  | none => rfl
  | some experiment => rfl

theorem canaryModelId_appState (roll : Nat) :
    (app.appState charge loads).config.canaryModelId agent task roll =
      if (app.canary.shouldUseCanary agent task roll).1 then app.canary.getCanaryModelId agent task
      else none := by
  rw [RoutingConfig.canaryModelId, canaryExperiment_appState, CanaryManager.shouldUseCanary,
    CanaryManager.getCanaryModelId]
  cases app.canary.experimentOf agent task with
  | none => rfl
  | some experiment =>
    dsimp only [Option.map_some]
    split
    · rfl
    · rfl

end

end

def freeOfCharge (_ : ProviderAdapter) : Adapter where
  estimateCost := fun _ _ => 0

/-- A response that needs no escalation. -/
def plainResponse : NormalizedResponse where
  content := some "The control is implemented."

end Onpremai.Gateway
