import Onpremai.Gateway.Metrics
import Onpremai.Gateway.Reloads

/-!
# Two applications

The process serves completions on one port and admin requests on another, each with an application
that ran its own start.  Admin requests change the admin application, and completions leave their
metrics and levels with the agent application; only Redis is common to both.
-/

namespace Onpremai.Gateway

open Onpremai.Library

def AppMove.isOwn : AppMove → Bool
  | .fileChanged _ _ => true
  | .healthChecked _ _ _ => true
  | _ => false

/-- The process: the agent application with its requests, and the admin application. -/
structure DualPort where
  agent : Serving
  agentMetrics : MetricsStore := {}
  admin : GatewayApp
  adminMetrics : MetricsStore := {}
  adminLevels : TenantLevels := .empty
  adminConnected : Bool

/-- What the process may meet next. -/
inductive DualMove where
  | admin (now : Rat) (file : ConfigFile) (request : AdminRequest)
  | agentOwn (move : AppMove) (own : move.isOwn = true)
  | adminOwn (move : AppMove) (own : move.isOwn = true)
  | arrive (body : CompletionRequest)
  | resume (now : Rat) (index : Nat) (outcome : Outcome) (latencyMs : Int)
  | newDay
  | getMetrics (now : Rat) (window : String)
  | getTaskMetrics (now : Rat) (task : String)
  | getBudget (tenantId : String)

def recordMetrics (store : MetricsStore) (now : Rat) (latencyMs : Int)
    (body : CompletionRequest) : Phase → Phase → MetricsStore
  | .calling loop _, .answered .unavailable =>
    store.record
      { timestamp := now, task := body.task, modelUsed := "", tierUsed := loop.currentTier
        latencyMs, error := true, escalated := decide (0 < loop.escalationCount)
        confidence := 0 }
  | .expiring loop _ _, .answered (.served _) =>
    store.record
      { timestamp := now, task := body.task, modelUsed := loop.modelUsed
        tierUsed := loop.tierUsed, latencyMs, error := false
        escalated := decide (0 < loop.escalationCount), confidence := loop.bestConfidence }
  | _, _ => store

/-- What the budget endpoint tells of the requests that were served. -/
structure BudgetStatus where
  tenantId : String
  dailySpendUsd : Rat
  degradationLevel : Nat
  requestsToday : Nat
  deriving DecidableEq, Repr

def budgetStatus (tracker : BudgetTracker) (levels : TenantLevels) (today : Day)
    (tenantId : String) : BudgetStatus where
  tenantId := tenantId
  dailySpendUsd := tracker.getDailySpend tenantId today
  degradationLevel := levels.getLevel tenantId
  requestsToday := tracker.getRequestCount tenantId today

namespace DualPort

/-- The process at its start: both applications ran their start, and nothing is served. -/
def start (agent admin : GatewayApp) (agentConnected adminConnected : Bool) : DualPort where
  agent := { app := agent, shared := { tracker := BudgetTracker.connect agentConnected } }
  admin := admin
  adminConnected := adminConnected

variable (state : DualPort)

/-- The tracker of the admin application: it reads the Redis that the agent application
writes to, if it could connect, and has recorded nothing itself. -/
def adminTracker : BudgetTracker :=
  if state.adminConnected then { redis := some (state.agent.shared.tracker.redis.getD {}) }
  else { redis := none }

/-- What the admin application answers. -/
def adminBudget (tenantId : String) : BudgetStatus :=
  budgetStatus state.adminTracker state.adminLevels state.agent.shared.today tenantId

/-- What the completions that were served come to. -/
def servedBudget (tenantId : String) : BudgetStatus :=
  budgetStatus state.agent.shared.tracker state.agent.shared.levels state.agent.shared.today
    tenantId

variable (charge : ProviderAdapter → Adapter) (loads : String → Option Json)
  (process : Process)

def step : DualMove → DualPort
  | .admin now file request =>
    { state with admin := (state.admin.handle process now file request).1 }
  | .agentOwn move _ =>
    { state with agent := { state.agent with app := state.agent.app.step process move } }
  | .adminOwn move _ => { state with admin := state.admin.step process move }
  | .arrive body => { state with agent := state.agent.step charge loads process (.arrive body) }
  | .resume now index outcome latencyMs =>
    { state with
      agent := state.agent.step charge loads process (.resume index outcome latencyMs)
      agentMetrics :=
        match state.agent.flights[index]? with
        | none => state.agentMetrics
        | some flight =>
          recordMetrics state.agentMetrics now latencyMs flight.body flight.phase
            (state.agent.resumed charge loads flight outcome).phase }
  | .newDay => { state with agent := state.agent.step charge loads process .newDay }
  | .getMetrics _ _ => state
  | .getTaskMetrics _ _ => state
  | .getBudget _ => state

end DualPort

/-- Two applications route alike: by the same configuration with its flags, the same
experiments and the same thresholds. -/
structure SameRouting (first second : GatewayApp) : Prop where
  config : SameConfig first.config second.config
  experiments : ∀ key, (first.canary.get? key).map CanaryExperiment.config =
    (second.canary.get? key).map CanaryExperiment.config
  thresholds : ∀ task, first.confidenceThresholds.get? task = second.confidenceThresholds.get? task

/-- The process, with what its agent application would be: by its own moves alone, and with
the acknowledged admin operations too, now and at each moment since a request arrived. -/
structure DualHistory where
  state : DualPort
  own : GatewayApp
  merged : GatewayApp
  seen : List (List GatewayApp) := []

namespace DualHistory

def start (agent admin : GatewayApp) (agentConnected adminConnected : Bool) : DualHistory where
  state := .start agent admin agentConnected adminConnected
  own := agent
  merged := agent

variable (charge : ProviderAdapter → Adapter) (loads : String → Option Json)
  (process : Process) (history : DualHistory)

def ownAfter : DualMove → GatewayApp
  | .agentOwn move _ => history.own.step process move
  | _ => history.own

def mergedAfter : DualMove → GatewayApp
  | .agentOwn move _ => history.merged.step process move
  | .admin now file request =>
    if (history.state.admin.handle process now file request).2.acknowledged then
      history.merged.step process (.admin now file request)
    else history.merged
  | _ => history.merged

def seenAfter (move : DualMove) : List (List GatewayApp) :=
  let merged := history.mergedAfter process move
  match move with
  | .arrive _ => history.seen ++ [[merged]]
  | _ => history.seen.map fun apps => merged :: apps

def step (move : DualMove) : DualHistory where
  state := history.state.step charge loads process move
  own := history.ownAfter process move
  merged := history.mergedAfter process move
  seen := history.seenAfter process move

/-- The move finds the two applications acting as one: a request that moves is routed by what
the acknowledged admin operations made of the application at a moment since it arrived, and
the reports are those of the completions that were served. -/
def ActsAsOne : DualMove → Prop
  | .resume _ index _ _ =>
    ∀ flight apps, history.state.agent.flights[index]? = some flight →
      history.seen[index]? = some apps → flight.isAnswered = false →
        ∃ app ∈ apps, SameRouting history.state.agent.app app
  | .getMetrics now window =>
    history.state.adminMetrics.getSummary now window =
      history.state.agentMetrics.getSummary now window
  | .getTaskMetrics now task =>
    history.state.adminMetrics.getTaskMetrics now task =
      history.state.agentMetrics.getTaskMetrics now task
  | .getBudget tenantId =>
    history.state.adminBudget tenantId = history.state.servedBudget tenantId
  | _ => True

def NothingToShare : DualMove → Prop
  | .resume _ index _ _ =>
    ∀ flight apps, history.state.agent.flights[index]? = some flight →
      history.seen[index]? = some apps → flight.isAnswered = false →
        ∃ app ∈ apps, SameRouting history.own app
  | .getMetrics now window =>
    ∀ seconds, MetricsStore.parseWindow window = .ok seconds →
      history.state.agentMetrics.since (now - seconds) = []
  | .getTaskMetrics now task =>
    (history.state.agentMetrics.since (now - 3600)).filter
      (fun record => decide (record.task = task)) = []
  | .getBudget tenantId =>
    history.state.agent.shared.levels.getLevel tenantId = DegradationLevel.fullService ∧
      (history.state.adminConnected = true ∧
          history.state.agent.shared.tracker.redis.isSome = true ∨
        history.state.agent.shared.tracker.getDailySpend tenantId
            history.state.agent.shared.today = 0 ∧
          history.state.agent.shared.tracker.getRequestCount tenantId
            history.state.agent.shared.today = 0)
  | _ => True

end DualHistory

/-- Two applications that differ in the samples of their experiments only. -/
structure GatewayApp.AlikeButSamples (first second : GatewayApp) : Prop where
  loader : first.loader = second.loader
  adapters : first.adapters = second.adapters
  health : first.health = second.health
  thresholds : first.confidenceThresholds = second.confidenceThresholds
  experiments : ∀ key, (first.canary.get? key).map CanaryExperiment.config =
    (second.canary.get? key).map CanaryExperiment.config

section

variable {process : Process} {first second : GatewayApp}

theorem GatewayApp.AlikeButSamples.sameRouting_iff (alike : first.AlikeButSamples second)
    (app : GatewayApp) : SameRouting first app ↔ SameRouting second app := by
  have config : first.config = second.config := congrArg ConfigLoader.config alike.loader
  constructor
  · intro same
    constructor
    · rw [← config]
      exact same.config
    · intro key
      rw [← alike.experiments]
      exact same.experiments key
    · intro task
      rw [← alike.thresholds]
      exact same.thresholds task
  · intro same
    constructor
    · rw [config]
      exact same.config
    · intro key
      rw [alike.experiments]
      exact same.experiments key
    · intro task
      rw [alike.thresholds]
      exact same.thresholds task

section

variable (manager : CanaryManager)

theorem config_updateFromConfig (now : Rat) (config : RoutingConfig) (key : String) :
    ((manager.updateFromConfig now config).get? key).map CanaryExperiment.config =
      config.canary.get? key := by
  rw [CanaryManager.get?_updateFromConfig, Option.map_map]
  have synced : (CanaryExperiment.config ∘ fun configured =>
      CanaryManager.synced now key configured (manager.get? key)) = id := by
    funext configured
    cases manager.get? key with
    | none => rfl
    | some experiment => rfl
  rw [synced, Option.map_id, id]

theorem config_recordResult (agent task : String) (variant : Variant)
    (sample : Sample) (key : String) :
    ((manager.recordResult agent task variant sample).get? key).map CanaryExperiment.config =
      (manager.get? key).map CanaryExperiment.config := by
  rw [CanaryManager.get?_recordResult]
  cases found : manager.experimentOf agent task with
  | none => rfl
  | some experiment =>
    rw [Option.elim_some]
    split
    · next same =>
      rw [← same, CanaryManager.get?_of_experimentOf found]
      cases variant with
      | canary => rfl
      | control => rfl
    · rfl

theorem config_recordCanary (body : CompletionRequest)
    (latencyMs : Int) (phase next : Phase) (key : String) :
    ((recordCanary manager body latencyMs phase next).get? key).map CanaryExperiment.config =
      (manager.get? key).map CanaryExperiment.config := by
  rw [recordCanary.eq_def]
  split
  · split
    · exact config_recordResult manager body.agent body.task _ _ key
    · rfl
  · rfl

end

theorem GatewayApp.AlikeButSamples.step_own (alike : first.AlikeButSamples second)
    {move : AppMove} (own : move.isOwn = true) :
    (first.step process move).AlikeButSamples (second.step process move) := by
  cases move with
  | admin now file request => cases own
  | enableModel modelId => cases own
  | recordResult agent task variant sample => cases own
  | healthChecked modelId healthy elapsedMs =>
    have config : first.config = second.config := congrArg ConfigLoader.config alike.loader
    rw [GatewayApp.step, GatewayApp.step, GatewayApp.checked, GatewayApp.checked,
      alike.adapters, alike.health, config, alike.loader]
    cases second.adapters.get? modelId with
    | none => exact alike
    | some adapter => exact ⟨rfl, rfl, rfl, alike.thresholds, alike.experiments⟩
  | fileChanged now file =>
    rw [GatewayApp.step, GatewayApp.step, alike.loader, GatewayApp.afterLoad, GatewayApp.afterLoad]
    cases (onFileChanged process now second.loader file).2 with
    | none => exact ⟨rfl, alike.adapters, alike.health, alike.thresholds, alike.experiments⟩
    | some config =>
      refine ⟨rfl, alike.adapters, ?_, alike.thresholds, ?_⟩
      · exact congrArg (fun health => HealthManager.updateFromConfig health config) alike.health
      · intro key
        exact (config_updateFromConfig first.canary now config key).trans
          (config_updateFromConfig second.canary now config key).symm

end

/-! ## Runs -/

namespace DualHistory

variable {charge : ProviderAdapter → Adapter} {loads : String → Option Json}
  {process : Process} {history : DualHistory} {move : DualMove}

/-- The agent application knows its own moves alone, and the admin application has counted
nothing. -/
structure Apart (history : DualHistory) : Prop where
  own : history.state.agent.app.AlikeButSamples history.own
  metrics : history.state.adminMetrics = {}
  levels : history.state.adminLevels = .empty

theorem apart_start (agent admin : GatewayApp) (agentConnected adminConnected : Bool) :
    (start agent admin agentConnected adminConnected).Apart :=
  ⟨⟨rfl, rfl, rfl, rfl, fun _ => rfl⟩, rfl, rfl⟩

theorem Apart.step (apart : history.Apart) :
    (history.step charge loads process move).Apart := by
  cases move with
  | admin now file request => exact ⟨apart.own, apart.metrics, apart.levels⟩
  | adminOwn move own => exact ⟨apart.own, apart.metrics, apart.levels⟩
  | arrive body => exact ⟨apart.own, apart.metrics, apart.levels⟩
  | newDay => exact ⟨apart.own, apart.metrics, apart.levels⟩
  | getMetrics now window => exact ⟨apart.own, apart.metrics, apart.levels⟩
  | getTaskMetrics now task => exact ⟨apart.own, apart.metrics, apart.levels⟩
  | getBudget tenantId => exact ⟨apart.own, apart.metrics, apart.levels⟩
  | agentOwn move own => exact ⟨apart.own.step_own own, apart.metrics, apart.levels⟩
  | resume now index outcome latencyMs =>
    refine ⟨?_, apart.metrics, apart.levels⟩
    change (history.state.agent.step charge loads process
      (.resume index outcome latencyMs)).app.AlikeButSamples history.own
    rw [Serving.step]
    cases history.state.agent.flights[index]? with
    | none => exact apart.own
    | some flight =>
      refine ⟨apart.own.loader, apart.own.adapters, apart.own.health, apart.own.thresholds, ?_⟩
      intro key
      exact (config_recordCanary _ _ _ _ _ key).trans (apart.own.experiments key)

theorem adminTracker_cases (state : DualPort) (tenantId : String) (today : Day) :
    (state.adminConnected = true ∧ state.agent.shared.tracker.redis.isSome = true ∧
        state.adminTracker.getDailySpend tenantId today =
          state.agent.shared.tracker.getDailySpend tenantId today ∧
        state.adminTracker.getRequestCount tenantId today =
          state.agent.shared.tracker.getRequestCount tenantId today) ∨
      ¬ (state.adminConnected = true ∧ state.agent.shared.tracker.redis.isSome = true) ∧
        state.adminTracker.getDailySpend tenantId today = 0 ∧
        state.adminTracker.getRequestCount tenantId today = 0 := by
  rw [DualPort.adminTracker]
  cases connected : state.adminConnected with
  | false => exact .inr ⟨by simp, rfl, rfl⟩
  | true =>
    rw [if_pos rfl]
    cases common : state.agent.shared.tracker.redis with
    | none => exact .inr ⟨by simp, rfl, rfl⟩
    | some store =>
      rw [BudgetTracker.getDailySpend.eq_def state.agent.shared.tracker,
        BudgetTracker.getRequestCount.eq_def state.agent.shared.tracker, common]
      exact .inl ⟨rfl, rfl, rfl, rfl⟩

theorem Apart.adminBudget_iff (apart : history.Apart) (tenantId : String) :
    history.state.adminBudget tenantId = history.state.servedBudget tenantId ↔
      history.NothingToShare (.getBudget tenantId) := by
  rw [DualPort.adminBudget, DualPort.servedBudget, budgetStatus, budgetStatus, apart.levels,
    BudgetStatus.mk.injEq, NothingToShare]
  have level : TenantLevels.getLevel .empty tenantId = DegradationLevel.fullService := rfl
  rw [level, @eq_comm _ DegradationLevel.fullService]
  rcases adminTracker_cases history.state tenantId history.state.agent.shared.today with
    ⟨connected, common, spend, count⟩ | ⟨separate, spend, count⟩
  · rw [spend, count]
    constructor
    · intro same
      exact ⟨same.2.2.1, .inl ⟨connected, common⟩⟩
    · intro nothing
      exact ⟨rfl, rfl, nothing.1, rfl⟩
  · rw [spend, count]
    constructor
    · intro same
      exact ⟨same.2.2.1, .inr ⟨same.2.1.symm, same.2.2.2.symm⟩⟩
    · rintro ⟨full, shared | unused⟩
      · exact absurd shared separate
      · exact ⟨rfl, unused.1.symm, full, unused.2.symm⟩

theorem Apart.actsAsOne_move (apart : history.Apart) :
    history.ActsAsOne move ↔ history.NothingToShare move := by
  cases move with
  | admin now file request => exact Iff.rfl
  | adminOwn move own => exact Iff.rfl
  | agentOwn move own => exact Iff.rfl
  | arrive body => exact Iff.rfl
  | newDay => exact Iff.rfl
  | getMetrics now window =>
    rw [ActsAsOne, apart.metrics]
    exact MetricsStore.getSummary_eq_empty_iff now window
  | getTaskMetrics now task =>
    rw [ActsAsOne, apart.metrics]
    exact MetricsStore.getTaskMetrics_eq_empty_iff now task
  | getBudget tenantId => exact apart.adminBudget_iff tenantId
  | resume now index outcome latencyMs =>
    rw [ActsAsOne, NothingToShare]
    simp only [apart.own.sameRouting_iff]

end DualHistory

/-- Over every run of the process its two applications act as one exactly when every move
finds nothing that they would have to share. -/
theorem actsAsOne_iff (charge : ProviderAdapter → Adapter) (loads : String → Option Json)
    (process : Process) (agent admin : GatewayApp) (agentConnected adminConnected : Bool)
    (moves : List DualMove) :
    (∀ earlier move later, moves = earlier ++ move :: later →
        (run (DualHistory.step charge loads process)
          (.start agent admin agentConnected adminConnected) earlier).ActsAsOne move) ↔
      Allowed (DualHistory.step charge loads process)
        (fun history move => history.NothingToShare move)
        (.start agent admin agentConnected adminConnected) moves := by
  rw [← allowed_iff_passed (DualHistory.step charge loads process)
    (fun history move => history.ActsAsOne move)]
  apply allowed_iff (DualHistory.step charge loads process) DualHistory.Apart
  · intro history move apart
    exact apart.step
  · intro history move apart
    exact apart.actsAsOne_move
  · exact DualHistory.apart_start agent admin agentConnected adminConnected

/-- A request that the model answers at once. -/
def servedRequest : List DualMove := .arrive { task := "classify", tenantId := "acme" } ::
    [{ stored := true }, { stored := true }, { roll := 100 }, { response := some plainResponse },
      { stored := true }, { stored := true }].map fun outcome => .resume 9 0 outcome 100

/-- A disabled model is still selected, a threshold is not known, and neither the metrics nor
the budget report a completion that was served. -/
theorem applications_differ : GatewayApp.lifespan bareProcess {} 0 oneModelFile = .ok oneModelApp ∧
      ¬ (∀ earlier move later,
        .admin 1 .missing (.disableModel "local") :: servedRequest = earlier ++ move :: later →
        (run (DualHistory.step freeOfCharge (fun _ => none) bareProcess)
          (.start oneModelApp oneModelApp true true) earlier).ActsAsOne move) ∧
      ¬ (∀ earlier move later, .admin 1 .missing (.updateThreshold "classify" 1) :: servedRequest =
          earlier ++ move :: later →
        (run (DualHistory.step freeOfCharge (fun _ => none) bareProcess)
          (.start oneModelApp oneModelApp true true) earlier).ActsAsOne move) ∧
      ¬ (∀ earlier move later, servedRequest ++ [.getTaskMetrics 10 "classify"] =
          earlier ++ move :: later →
        (run (DualHistory.step freeOfCharge (fun _ => none) bareProcess)
          (.start oneModelApp oneModelApp true true) earlier).ActsAsOne move) ∧
      ¬ (∀ earlier move later, servedRequest ++ [.getBudget "acme"] = earlier ++ move :: later →
        (run (DualHistory.step freeOfCharge (fun _ => none) bareProcess)
          (.start oneModelApp oneModelApp false false) earlier).ActsAsOne move) := by
  refine ⟨rfl, ?_, ?_, ?_, ?_⟩
  · intro every
    rcases every [_, _] (.resume 9 0 { stored := true } 100) _ rfl _ _ rfl rfl rfl with
      ⟨app, member, same⟩
    have selected := congrArg (fun tiers : Dict String (List ModelConfig) =>
      ((tiers.get? "mid").map fun models => models.map ModelConfig.enabled)) same.config.tiers
    rw [List.mem_singleton.mp member] at selected
    exact absurd selected (by decide)
  · intro every
    rcases every [_, _] (.resume 9 0 { stored := true } 100) _ rfl _ _ rfl rfl rfl with
      ⟨app, member, same⟩
    have known := same.thresholds "classify"
    rw [List.mem_singleton.mp member] at known
    exact absurd known (by decide)
  · intro every
    have report := every servedRequest (.getTaskMetrics 10 "classify") [] rfl
    have totals := congrArg TaskMetrics.totalRequests report
    exact absurd totals (by decide +kernel)
  · intro every
    have report := every servedRequest (.getBudget "acme") [] rfl
    have requests := congrArg BudgetStatus.requestsToday report
    exact absurd requests (by decide +kernel)

end Onpremai.Gateway
