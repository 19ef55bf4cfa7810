import Onpremai.Gateway.TierBounds

/-!
# First calls

Which model a request calls first: its most specific route names a tier or pins a model, the
level of its tenant caps the tier, and a canary takes the place of a pinned model where there is
none.
-/

namespace Onpremai.Gateway

open Onpremai.Library

def RouteValue.pinnedId : RouteValue → Option String
  | .choice (some model) _ => if model = "" then none else some model
  | _ => none

def RouteValue.tierName : RouteValue → String
  | .tier name => name
  | .choice _ name => name.getD "mid"
  | .other => "mid"

namespace RoutingConfig

variable (config : RoutingConfig) (body : CompletionRequest)

def matchingRoutes : List RouteValue :=
  ((config.tenantRouting.get? body.tenantId).bind fun routes => routes.get? body.task).toList ++
    ((config.agentRouting.get? body.agent).bind fun routes => routes.get? body.task).toList ++
      ((config.taskRouting.get? body.task).map .tier).toList

def matchingRoute : RouteValue := (config.matchingRoutes body).head?.getD (.tier "mid")

def routeTier (route : RouteValue) : String :=
  match route.pinnedId with
  | some modelId => config.findTierForModel modelId
  | none => route.tierName

def routeModel (route : RouteValue) : Option ModelConfig := route.pinnedId.bind config.findModelById

theorem interpretRouteValue_eq (value : RouteValue) (source : String) :
    config.interpretRouteValue value source =
      { tier := config.routeTier value, modelConfig := config.routeModel value, source } := by
  cases value with
  | tier name => rfl
  | choice model tier =>
    cases model with
    | none => rfl
    | some model =>
      by_cases empty : model = ""
      · simp [interpretRouteValue, routeTier, routeModel, RouteValue.pinnedId, empty,
          RouteValue.tierName]
      · simp [interpretRouteValue, routeTier, routeModel, RouteValue.pinnedId, empty]
  | other => rfl

theorem resolve_eq : (config.resolve body.agent body.task body.tenantId).tier =
        config.routeTier (config.matchingRoute body) ∧
      (config.resolve body.agent body.task body.tenantId).modelConfig =
        config.routeModel (config.matchingRoute body) := by
  have tenant : config.resolveTenant body.tenantId body.task =
      ((config.tenantRouting.get? body.tenantId).bind fun routes => routes.get? body.task).map
        fun value => config.interpretRouteValue value "tenant" := by
    rw [resolveTenant]
    cases config.tenantRouting.get? body.tenantId <;> rfl
  have agent : config.resolveAgent body.agent body.task =
      ((config.agentRouting.get? body.agent).bind fun routes => routes.get? body.task).map
        fun value => config.interpretRouteValue value "agent" := by
    rw [resolveAgent]
    cases config.agentRouting.get? body.agent <;> rfl
  rw [resolve, tenant, agent, resolveTask, matchingRoute, matchingRoutes]
  cases (config.tenantRouting.get? body.tenantId).bind fun routes => routes.get? body.task with
  | some value =>
    simp only [Option.map_some, interpretRouteValue_eq]
    exact ⟨rfl, rfl⟩
  | none =>
    cases (config.agentRouting.get? body.agent).bind fun routes => routes.get? body.task with
    | some value =>
      simp only [Option.map_none, Option.map_some, interpretRouteValue_eq]
      exact ⟨rfl, rfl⟩
    | none =>
      cases config.taskRouting.get? body.task with
      | some tier => exact ⟨rfl, rfl⟩
      | none => exact ⟨rfl, rfl⟩

theorem id_of_findModelById {modelId : String} {model : ModelConfig}
    (found : config.findModelById modelId = some model) : model.id = modelId := by
  simpa using List.find?_some found

end RoutingConfig

section

variable (app : AppState) (body : CompletionRequest) (level roll : Nat)

def firstTier : String :=
  capTierForLevel level (app.config.routeTier (app.config.matchingRoute body))

def pinnedFor : Option String :=
  if firstTier app body level = app.config.routeTier (app.config.matchingRoute body) then
    (app.config.routeModel (app.config.matchingRoute body)).map ModelConfig.id
  else none

def canaryFor : Option String :=
  (app.config.canaryModelId body.agent body.task roll).filter fun modelId =>
    decide (modelId ≠ "")

def callable (model : ModelConfig) : Bool :=
  model.healthy && model.enabled && (app.registry model.id).isSome

def availableIds (tier : String) : List String :=
  (((app.config.tiers.get? tier).getD []).filter fun model => callable app model).map
    ModelConfig.id

def firstOf (preferred : Option String) (available : List String) : Option String :=
  match preferred with
  | some modelId => if modelId ∈ available then some modelId else available.head?
  | none => available.head?

/-- The first model of a request by its route alone. -/
def routedFirst : Option String :=
  firstOf (pinnedFor app body level) (availableIds app (firstTier app body level))

/-- The first model of a request: a canary is preferred where no model is pinned. -/
def expectedFirst : Option String :=
  firstOf ((pinnedFor app body level).or (canaryFor app body roll))
    (availableIds app (firstTier app body level))

/-- A request calls a model first, and is not answered before. -/
structure CallsFirst (tier modelId : String) (flight : Flight) : Prop where
  first : ∀ call ∈ (adapterCalls flight.log).head?, call = (tier, modelId)
  made : flight.isAnswered = true → adapterCalls flight.log ≠ []

/-- A request is routed at a move of a run: it has been counted, at the level that its tenant
has then. -/
structure Routes (app : AppState) (shared : Shared) (earlier : List Move) (index : Nat)
    (outcome : Outcome) (flight : Flight) : Prop where
  found : (run (System.step app) { shared } earlier).flights[index]? = some flight
  waits : flight.phase = .counting
  counted : (run (System.step app) { shared } earlier).shared.raises outcome = false

end

section

variable {app : AppState} {body : CompletionRequest}

def firstCallable (app : AppState) (models : List ModelConfig) : Option String :=
  (models.find? fun model => callable app model).map ModelConfig.id

theorem firstCallable_eq (models : List ModelConfig) : firstCallable app models =
      ((models.filter fun model => callable app model).map ModelConfig.id).head? := by
  rw [firstCallable, List.head?_map, List.head?_filter]

theorem availableIds_eq (tier : String) : availableIds app tier =
      ((app.config.getModelsForTier tier).filter fun model => callable app model).map
        ModelConfig.id := by
  rw [availableIds, RoutingConfig.getModelsForTier]
  cases app.config.tiers.get? tier with
  | none => rfl
  | some models =>
    simp only [Option.getD_some, List.filter_filter]
    congr 1
    apply List.filter_congr
    intro model _
    cases healthy : model.healthy <;> cases enabled : model.enabled <;>
      simp [callable, healthy, enabled]

theorem firstCallable_orderedModels (tier : String) (target : Option String) :
    firstCallable app (orderedModels (app.config.getModelsForTier tier) target) =
      firstOf (target.filter fun modelId => decide (modelId ≠ "")) (availableIds app tier) := by
  rw [firstCallable_eq, availableIds_eq]
  generalize app.config.getModelsForTier tier = models
  cases target with
  | none => rfl
  | some modelId =>
    rw [orderedModels]
    by_cases empty : modelId = ""
    · rw [if_pos empty, empty]
      rfl
    · rw [if_neg empty, Option.filter_some, if_pos (decide_eq_true empty), firstOf,
        List.filter_append, List.filter_comm (l := models),
        List.filter_comm (fun model => callable app model) (l := models)]
      generalize models.filter (fun model => callable app model) = available
      rw [List.map_append, List.head?_append, List.head?_map]
      split
      · next listed =>
        obtain ⟨model, inside, rfl⟩ := List.mem_map.mp listed
        cases found : (available.filter fun other => decide (other.id = model.id)).head? with
        | none =>
          rw [List.head?_eq_none_iff, List.filter_eq_nil_iff] at found
          exact absurd (decide_eq_true rfl) (found model inside)
        | some other =>
          have same := (List.mem_filter.mp (List.mem_of_head? found)).2
          rw [Option.map_some, Option.some_or, of_decide_eq_true same]
      · next absent =>
        have apart : ∀ model ∈ available, model.id ≠ modelId := by
          intro model inside same
          exact absent (List.mem_map.mpr ⟨model, inside, same⟩)
        rw [List.filter_eq_nil_iff.mpr fun model inside => by simp [apart model inside],
          List.filter_eq_self.mpr fun model inside => by simp [apart model inside]]
        rfl

theorem pinnedId_ne_empty {route : RouteValue} : ∀ modelId ∈ route.pinnedId, modelId ≠ "" := by
  intro modelId pinned
  rw [RouteValue.pinnedId.eq_def] at pinned
  cases route with
  | tier name => cases pinned
  | choice model tier =>
    cases model with
    | none => cases pinned
    | some model =>
      dsimp only at pinned
      split at pinned
      · cases pinned
      · next named =>
        cases pinned
        exact named
  | other => cases pinned

theorem pinnedFor_ne_empty {level : Nat} :
    ∀ modelId ∈ pinnedFor app body level, modelId ≠ "" := by
  intro modelId pinned
  rw [pinnedFor] at pinned
  split at pinned
  · obtain ⟨model, found, rfl⟩ := Option.map_eq_some_iff.mp pinned
    obtain ⟨wanted, named, configured⟩ := Option.bind_eq_some_iff.mp found
    rw [app.config.id_of_findModelById configured]
    exact pinnedId_ne_empty wanted named
  · cases pinned

theorem firstCallable_start (roll : Nat) (levels : TenantLevels) :
    (startLoop app body levels roll).currentTier =
        firstTier app body (levels.getLevel body.tenantId) ∧
      firstCallable app (orderedModels
          (app.config.getModelsForTier (startLoop app body levels roll).currentTier)
          (startLoop app body levels roll).targetModelId) =
        expectedFirst app body (levels.getLevel body.tenantId) roll := by
  rcases app.config.resolve_eq body with ⟨tier, model⟩
  have current : (startLoop app body levels roll).currentTier =
      firstTier app body (levels.getLevel body.tenantId) := by
    rw [startLoop]
    dsimp only
    rw [tier]
    rfl
  have pinned : (startLoop app body levels roll).pinnedModelId =
      pinnedFor app body (levels.getLevel body.tenantId) := by
    rw [startLoop, pinnedFor]
    dsimp only
    rw [tier, model, ite_not]
    rfl
  refine ⟨current, ?_⟩
  rw [firstCallable_orderedModels, current, expectedFirst, LoopState.targetModelId, pinned]
  congr 1
  cases shape : pinnedFor app body (levels.getLevel body.tenantId) with
  | none => rfl
  | some modelId =>
    have named := pinnedFor_ne_empty modelId shape
    have start : (startLoop app body levels roll).escalationCount = 0 := rfl
    rw [if_pos ⟨rfl, start⟩, Option.filter_some, if_pos (decide_eq_true named)]
    rfl

end

/-! ## Runs -/

section

variable {app : AppState} {shared : Shared} {index : Nat}

/-- Where a request stands between its routing and its first call. -/
inductive BeforeCall (app : AppState) (tier modelId : String) (flight : Flight) : Prop
  | waiting {loop : LoopState} {pending : List ModelConfig}
      (phase : flight.phase = .calling loop pending) (current : loop.currentTier = tier)
      (next : firstCallable app pending = some modelId) (none : adapterCalls flight.log = [])
  | called (first : (adapterCalls flight.log).head? = some (tier, modelId))

theorem passedOver_eq (model : ModelConfig) :
    (!model.healthy || !model.enabled || (app.registry model.id).isNone) =
      !callable app model := by
  rw [callable, Bool.not_and, Bool.not_and, Option.not_isSome]

theorem BeforeCall.resume {tier modelId : String} {flight : Flight}
    (before : BeforeCall app tier modelId flight) (shared : Shared) (outcome : Outcome) :
    BeforeCall app tier modelId (flight.resume app shared outcome) := by
  cases before with
  | called first =>
    apply BeforeCall.called
    rw [Flight.resume, adapterCalls_append, List.head?_append, first, Option.some_or]
  | @waiting loop pending phase current next quiet =>
    cases pending with
    | nil => cases next
    | cons model rest =>
      rw [firstCallable, List.find?_cons] at next
      rw [Flight.resume, phase, advance, passedOver_eq]
      cases able : callable app model with
      | false =>
        rw [able] at next
        refine .waiting rfl current next ?_
        rw [adapterCalls_append, quiet]
        rfl
      | true =>
        rw [able] at next
        have same : model.id = modelId := Option.some.inj next
        apply BeforeCall.called
        cases outcome.response with
        | none =>
          rw [adapterCalls_append, quiet, ← current, ← same]
          rfl
        | some response =>
          rw [adapterCalls_append, quiet, ← current, ← same]
          rfl

theorem flight_of_step {system : System} {flight : Flight} (move : Move)
    (found : system.flights[index]? = some flight) :
    (system.step app move).flights[index]? = some flight ∨
      ∃ outcome, (system.step app move).flights[index]? =
        some (flight.resume app system.shared outcome) := by
  cases move with
  | arrive body =>
    left
    rw [System.step, List.getElem?_append_left (List.getElem?_eq_some_iff.mp found).1]
    exact found
  | newDay => exact .inl found
  | resume other outcome =>
    cases present : system.flights[other]? with
    | none =>
      left
      rw [System.step_resume_of_none present]
      exact found
    | some resumed =>
      rw [System.step_resume_of_some present]
      by_cases same : other = index
      · right
        rw [same] at present
        rw [found] at present
        cases present
        refine ⟨outcome, ?_⟩
        rw [same, List.getElem?_set_self (List.getElem?_eq_some_iff.mp found).1]
      · left
        rw [List.getElem?_set_ne same]
        exact found

theorem flight_of_run (holds : Flight → Prop)
    (kept : ∀ flight shared outcome, holds flight → holds (flight.resume app shared outcome))
    {system : System} {flight : Flight} (found : system.flights[index]? = some flight)
    (start : holds flight) (moves : List Move) :
    ∀ now ∈ (run (System.step app) system moves).flights[index]?, holds now := by
  have always : ∃ now, (run (System.step app) system moves).flights[index]? = some now ∧
      holds now := by
    apply run_always (System.step app) fun system =>
      ∃ now, system.flights[index]? = some now ∧ holds now
    · rintro system move ⟨now, found, held⟩
      rcases flight_of_step move found with same | ⟨outcome, moved⟩
      · exact ⟨now, same, held⟩
      · exact ⟨_, moved, kept now system.shared outcome held⟩
    · exact ⟨flight, found, start⟩
  obtain ⟨last, found, held⟩ := always
  intro now present
  rw [found] at present
  cases present
  exact held

/-- A request has not been routed yet. -/
def Phase.isUnrouted : Phase → Bool
  | .reading | .deciding _ | .counting => true
  | _ => false

theorem isUnrouted_leaveLoop (loop : LoopState) : (leaveLoop loop).phase.isUnrouted = false := by
  rw [leaveLoop]
  cases loop.best with
  | none => rfl
  | some best => rfl

theorem adapterCalls_of_unrouted {earlier : List Move} {flight : Flight}
    (found : (run (System.step app) { shared } earlier).flights[index]? = some flight)
    (unrouted : flight.phase.isUnrouted = true) : adapterCalls flight.log = [] := by
  apply System.flights_invariant app
    (fun _ phase log => phase.isUnrouted = true → adapterCalls log = []) _ _ { shared } _ earlier
    flight (List.mem_of_getElem? found) unrouted
  · exact fun _ _ => rfl
  · intro body shared phase turn after log advances holds next
    cases advances with
    | read =>
      rw [adapterCalls_append, holds rfl]
      rfl
    | admitted left =>
      rw [adapterCalls_append, holds rfl]
      rfl
    | turnedAway spent unserved => rcases unserved with ⟨level, rfl⟩ | ⟨level, rfl⟩ <;> cases next
    | gaveUp =>
      rw [isUnrouted_leaveLoop] at next
      cases next
    | settled response =>
      rw [Turn.after, isUnrouted_leaveLoop] at next
      cases next
    | _ => cases next
  · intro flight none
    cases none

theorem beforeCall_of_routes {earlier : List Move} {outcome : Outcome} {flight : Flight}
    (routes : Routes app shared earlier index outcome flight) {modelId : String}
    (expected : expectedFirst app flight.body
      ((run (System.step app) { shared } earlier).shared.levels.getLevel flight.body.tenantId)
        outcome.roll = some modelId) :
    BeforeCall app
      (firstTier app flight.body
        ((run (System.step app) { shared } earlier).shared.levels.getLevel flight.body.tenantId))
      modelId (flight.resume app (run (System.step app) { shared } earlier).shared outcome) := by
  let levels := (run (System.step app) { shared } earlier).shared.levels
  obtain ⟨current, first⟩ : (startLoop app flight.body levels outcome.roll).currentTier =
          firstTier app flight.body (levels.getLevel flight.body.tenantId) ∧ _ :=
    firstCallable_start outcome.roll levels
  have unrouted : flight.phase.isUnrouted = true := by
    rw [routes.waits]
    rfl
  rw [Flight.resume, routes.waits, advance, routes.counted]
  refine .waiting rfl current (first.trans expected) ?_
  rw [adapterCalls_append, adapterCalls_of_unrouted routes.found unrouted]
  rfl

theorem BeforeCall.callsFirst {tier modelId : String} {flight : Flight}
    (before : BeforeCall app tier modelId flight) : CallsFirst tier modelId flight := by
  cases before with
  | waiting phase current next quiet =>
    refine ⟨fun call first => ?_, fun answered => ?_⟩
    · rw [quiet] at first
      cases first
    · rw [Flight.isAnswered, phase] at answered
      cases answered
  | called first =>
    refine ⟨fun call found => ?_, fun _ none => ?_⟩
    · rw [first] at found
      exact (Option.some.inj found).symm
    · rw [none] at first
      cases first

/-- In every run of the gateway, a request that is routed calls the expected model first. -/
theorem callsFirst_of_routes (app : AppState) (shared : Shared) (earlier later : List Move)
    (index : Nat) (outcome : Outcome) (flight : Flight)
    (routes : Routes app shared earlier index outcome flight) :
    let level := (run (System.step app) { shared } earlier).shared.levels.getLevel
      flight.body.tenantId
    ∀ modelId ∈ expectedFirst app flight.body level outcome.roll,
      ∀ now ∈ (run (System.step app) { shared }
          (earlier ++ .resume index outcome :: later)).flights[index]?,
        CallsFirst (firstTier app flight.body level) modelId now := by
  intro level modelId expected now present
  have start := beforeCall_of_routes routes expected
  have inside := (List.getElem?_eq_some_iff.mp routes.found).1
  rw [run_append, run_cons, System.step_resume_of_some routes.found] at present
  refine BeforeCall.callsFirst (?_ : BeforeCall app _ modelId now)
  apply flight_of_run (BeforeCall app _ modelId) _ _ start later now present
  · exact fun flight shared outcome before => before.resume shared outcome
  · exact List.getElem?_set_self inside

end

section

def canaryApp : AppState where
  config :=
    { tiers := Dict.ofList [("mid", [{ id := "llama" }, { id := "mistral" }])]
      canary := Dict.ofList [("evaluate", { model := "mistral", trafficPct := 100 })] }
  registry := fun _ => some { estimateCost := fun _ _ => 0 }
  loads := fun _ => none

def evaluateRequest : CompletionRequest where
  task := "evaluate"
  tenantId := "acme"

/-- The request arrives, its spend is read and its level found. -/
def untilCounted : List Move := [.arrive evaluateRequest, .resume 0 {}, .resume 0 {}]

def countedFlight : Flight where
  body := evaluateRequest
  phase := .counting
  log := [.read 0 0]

theorem routes_evaluate : Routes canaryApp {} untilCounted 0 {} countedFlight where
  found := by decide +kernel
  waits := rfl
  counted := by decide +kernel

theorem callsFirst_of_routes_evaluate : ∃ now ∈ (run (System.step canaryApp) {}
        (untilCounted ++ [.resume 0 {}, .resume 0 {}])).flights[0]?,
      CallsFirst "mid" "mistral" now := by
  have tier : firstTier canaryApp evaluateRequest
      ((run (System.step canaryApp) {} untilCounted).shared.levels.getLevel "acme") = "mid" := by
    decide +kernel
  have present : ((run (System.step canaryApp) {}
      (untilCounted ++ [.resume 0 {}, .resume 0 {}])).flights[0]?).isSome = true := by
    decide +kernel
  obtain ⟨now, found⟩ := Option.isSome_iff_exists.mp present
  refine ⟨now, found, ?_⟩
  rw [← tier]
  exact callsFirst_of_routes canaryApp {} untilCounted [.resume 0 {}] 0 {} countedFlight
    routes_evaluate "mistral" (by decide +kernel) now found

/-- By its route alone the request would call the first model, yet it calls the canary. -/
theorem canary_called_first : Routes canaryApp {} untilCounted 0 {} countedFlight ∧
      routedFirst canaryApp evaluateRequest 0 = some "llama" ∧ ((run (System.step canaryApp) {}
          (untilCounted ++ [.resume 0 {}, .resume 0 {}])).flights[0]?.map fun now =>
            adapterCalls now.log) = some [("mid", "mistral")] :=
  ⟨routes_evaluate, by decide +kernel, by decide +kernel⟩

end

end Onpremai.Gateway
