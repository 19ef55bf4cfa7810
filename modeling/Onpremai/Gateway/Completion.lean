import Onpremai.Gateway.Budget
import Onpremai.Gateway.Degradation
import Onpremai.Gateway.Escalation

/-!
# Completion endpoint

One request is a machine that moves whenever something it awaits comes back: the budget tracker,
the request queue or an adapter.  A model that is passed over and a tier that is given up take a
move of their own, so that the moves of several requests interleave at least as finely as their
awaits do.
-/

namespace Onpremai.Gateway

open Onpremai.Library

/-- The parts of the application state that do not change while it serves. -/
structure AppState where
  config : RoutingConfig
  registry : ProviderRegistry
  loads : String → Option Json

/-- What the requests share: the tracker, the levels and the clock. -/
structure Shared where
  tracker : BudgetTracker := {}
  levels : TenantLevels := .empty
  today : Day := 0

/-- A response with the tier and the model it came from and its escalation check. -/
structure Attempt where
  tier : String
  modelId : String
  response : NormalizedResponse
  decision : EscalationDecision
  deriving DecidableEq

/-- Local variables of the escalation loop.  The best response is kept with the
attempt it came from. -/
structure LoopState where
  pinnedModelId : Option String := none
  canaryModelId : Option String := none
  escalationCount : Nat := 0
  escalationPath : List String := []
  currentTier : String
  best : Option Attempt := none
  bestConfidence : Rat := 0
  modelUsed : String := ""
  tierUsed : String := ""
  deriving DecidableEq

/-- What the caller gets. -/
inductive Answer where
  | served (response : CompletionResponse)
  | budgetExhausted (level : Nat)
  | llmBudgetExhausted (level : Nat)
  | unavailable
  | serverError
  deriving DecidableEq

/-- Where a request stands: what it awaits, with the variables it still needs. -/
inductive Phase where
  | reading
  | deciding (dailySpend : Rat)
  | enqueueing (level : Nat)
  | counting
  | calling (loop : LoopState) (pending : List ModelConfig)
  | recording (loop : LoopState) (best : Attempt)
  | expiring (loop : LoopState) (best : Attempt) (costUsd : Rat)
  | answered (answer : Answer)
  deriving DecidableEq

/-- What others can see of a request. -/
inductive Event where
  | read (dailySpend : Rat) (day : Day)
  | tried (tier : String)
  | called (tier modelId : String)
  | completed (attempt : Attempt) (day : Day)
  | recorded (costUsd : Rat) (day : Day)
  | storeRaised
  | expiryRaised
  deriving DecidableEq

/-- What comes back from an await: whether the store answered, the roll of the
canary, and the adapter's response if it gave one. -/
structure Outcome where
  stored : Bool := true
  roll : Nat := 100
  response : Option NormalizedResponse := none

/-- The next phase of a request and what it shows on the way. -/
structure Turn where
  phase : Phase
  events : List Event := []

/-- A turn that shows more on the way. -/
def Turn.after (turn : Turn) (events : List Event) : Turn :=
  { turn with events := events ++ turn.events }

/-- An exception that nothing catches. -/
def Turn.raise (event : Event) : Turn where
  phase := .answered .serverError
  events := [event]

def AppState.costOf (app : AppState) (modelId : String) (usage : Usage) : Rat :=
  match app.registry modelId with
  | none => 0
  | some adapter => adapter.estimateCost usage.inputTokens usage.outputTokens

def orderedModels (models : List ModelConfig) : Option String → List ModelConfig
  | none => models
  | some targetModelId =>
    if targetModelId = "" then models
    else models.filter (fun model => decide (model.id = targetModelId)) ++
      models.filter fun model => decide (model.id ≠ targetModelId)

namespace LoopState

def targetModelId (loop : LoopState) : Option String :=
  if loop.pinnedModelId.isSome ∧ loop.escalationCount = 0 then loop.pinnedModelId
  else loop.canaryModelId

/-- Move on to another tier. -/
def escalate (loop : LoopState) (nextTier : String) : LoopState :=
  { loop with
    escalationPath := loop.escalationPath ++ [loop.currentTier]
    currentTier := nextTier
    escalationCount := loop.escalationCount + 1 }

def keep (loop : LoopState) (attempt : Attempt) : LoopState :=
  let loop := { loop with modelUsed := attempt.modelId, tierUsed := "unknown" }
  if loop.bestConfidence < attempt.decision.confidence ∨
      attempt.decision.shouldEscalate = false then
    { loop with best := some attempt, bestConfidence := attempt.decision.confidence }
  else loop

end LoopState

def leaveLoop (loop : LoopState) : Turn where
  phase :=
    match loop.best with
    | none => .answered .unavailable
    | some best => .recording loop best

section Loop

variable (app : AppState) (body : CompletionRequest)

def tryTier (loop : LoopState) : Turn where
  phase := .calling loop
    (orderedModels (app.config.getModelsForTier loop.currentTier) loop.targetModelId)
  events := [.tried loop.currentTier]

/-- All models of the tier failed. -/
def afterFailure (levels : TenantLevels) (loop : LoopState) : Turn :=
  let escalation := app.config.escalation
  if escalation.enabled ∧ (loop.escalationCount : Int) < escalation.maxEscalations then
    match getNextTier escalation.path loop.currentTier with
    | none => leaveLoop loop
    | some nextTier =>
      if nextTier ≠ "" ∧ levels.isTierAllowed body.tenantId nextTier then
        tryTier app (loop.escalate nextTier)
      else leaveLoop loop
  else leaveLoop loop

/-- A model of the tier answered. -/
def afterResponse (levels : TenantLevels) (loop : LoopState) (attempt : Attempt) : Turn :=
  let escalation := app.config.escalation
  let loop := loop.keep attempt
  if !attempt.decision.shouldEscalate then leaveLoop loop
  else
    match getNextTier escalation.path loop.currentTier with
    | none => leaveLoop loop
    | some nextTier =>
      if escalation.maxEscalations ≤ (loop.escalationCount : Int) then leaveLoop loop
      else if !levels.isTierAllowed body.tenantId nextTier then leaveLoop loop
      else tryTier app (loop.escalate nextTier)

def attemptOf (loop : LoopState) (model : ModelConfig) (response : NormalizedResponse) :
    Attempt where
  tier := loop.currentTier
  modelId := model.id
  response := response
  decision := check app.loads app.config.escalation response body loop.escalationCount

def startLoop (levels : TenantLevels) (roll : Nat) : LoopState :=
  let resolution := app.config.resolve body.agent body.task body.tenantId
  let cappedTier := levels.capTier body.tenantId resolution.tier
  { pinnedModelId :=
      if cappedTier ≠ resolution.tier then none else resolution.modelConfig.map (·.id)
    canaryModelId := app.config.canaryModelId body.agent body.task roll
    currentTier := cappedTier }

def servedResponse (loop : LoopState) (best : Attempt) (costUsd : Rat) : CompletionResponse where
  content := best.response.content
  modelUsed := loop.modelUsed
  tierUsed := loop.tierUsed
  escalated := decide (0 < loop.escalationCount)
  escalationPath := loop.escalationPath
  usage := best.response.usage
  confidence := loop.bestConfidence
  toolCalls := best.response.toolCalls
  costUsd := costUsd
  traceId := body.traceId

def Shared.raises (shared : Shared) (outcome : Outcome) : Bool :=
  shared.tracker.redis.isSome && !outcome.stored

/-- What a request does when its await comes back, and what it leaves of the shared
state. -/
def advance (shared : Shared) (outcome : Outcome) : Phase → Turn × Shared
  | .reading =>
    if shared.raises outcome then (.raise .storeRaised, shared)
    else
      let dailySpend := shared.tracker.getDailySpend body.tenantId shared.today
      ({ phase := .deciding dailySpend, events := [.read dailySpend shared.today] }, shared)
  | .deciding dailySpend =>
    let level := computeLevel dailySpend app.config.cost.maxPerTenantPerDayUsd
    let levels := shared.levels.updateForSpend body.tenantId app.config.cost dailySpend
    let shared := { shared with levels }
    if levels.shouldQueue body.tenantId then ({ phase := .enqueueing level }, shared)
    else if levels.shouldRejectLlm body.tenantId then
      ({ phase := .answered (.llmBudgetExhausted level) }, shared)
    else ({ phase := .counting }, shared)
  | .enqueueing level =>
    if outcome.stored then ({ phase := .answered (.budgetExhausted level) }, shared)
    else ({ phase := .answered .serverError }, shared)
  | .counting =>
    if shared.raises outcome then (.raise .storeRaised, shared)
    else
      let tracker := shared.tracker.incrementRequests body.tenantId shared.today
      (tryTier app (startLoop app body shared.levels outcome.roll), { shared with tracker })
  | .calling loop [] => (afterFailure app body shared.levels loop, shared)
  | .calling loop (model :: rest) =>
    if !model.healthy || !model.enabled || (app.registry model.id).isNone then
      ({ phase := .calling loop rest }, shared)
    else
      match outcome.response with
      | none =>
        ({ phase := .calling loop rest, events := [.called loop.currentTier model.id] }, shared)
      | some response =>
        let attempt := attemptOf app body loop model response
        let turn := afterResponse app body shared.levels loop attempt
        (turn.after [.called loop.currentTier model.id, .completed attempt shared.today], shared)
  | .recording loop best =>
    if shared.raises outcome then (.raise .storeRaised, shared)
    else
      let costUsd := app.costOf loop.modelUsed best.response.usage
      let tracker := shared.tracker.recordCost body.tenantId shared.today costUsd
      ({ phase := .expiring loop best costUsd, events := [.recorded costUsd shared.today] },
        { shared with tracker })
  | .expiring loop best costUsd =>
    if shared.raises outcome then (.raise .expiryRaised, shared)
    else ({ phase := .answered (.served (servedResponse body loop best costUsd)) }, shared)
  | .answered answer => ({ phase := .answered answer }, shared)

end Loop

section Inversion

variable (app : AppState) (body : CompletionRequest) (shared : Shared)

/-- Another tier may be tried: the escalations are not used up, the tier follows in
the path, and the level allows it. -/
structure MayEscalate (loop : LoopState) (nextTier : String) : Prop where
  fewer : (loop.escalationCount : Int) < app.config.escalation.maxEscalations
  allowed : nextTier ∈ tiersForLevel (shared.levels.getLevel body.tenantId)

/-- The moves of a request, each with what it takes and what it leaves. -/
inductive Advances : Phase → Turn → Shared → Prop
  | readRaised : Advances .reading (.raise .storeRaised) shared
  | read : Advances .reading
      { phase := .deciding (shared.tracker.getDailySpend body.tenantId shared.today)
        events :=
          [.read (shared.tracker.getDailySpend body.tenantId shared.today) shared.today] }
      shared
  | turnedAway {dailySpend : Rat} {phase : Phase} {levels : TenantLevels}
      (spent : DegradationLevel.deterministicOnly ≤
        computeLevel dailySpend app.config.cost.maxPerTenantPerDayUsd)
      (unserved : (∃ level, phase = .enqueueing level) ∨
        ∃ level, phase = .answered (.llmBudgetExhausted level)) :
      Advances (.deciding dailySpend) { phase } { shared with levels }
  | admitted {dailySpend : Rat}
      (left : computeLevel dailySpend app.config.cost.maxPerTenantPerDayUsd <
        DegradationLevel.deterministicOnly) :
      Advances (.deciding dailySpend) { phase := .counting }
        { shared with
          levels := shared.levels.updateForSpend body.tenantId app.config.cost dailySpend }
  | queued {level : Nat} {answer : Answer}
      (unserved : answer = .budgetExhausted level ∨ answer = .serverError) :
      Advances (.enqueueing level) { phase := .answered answer } shared
  | countRaised : Advances .counting (.raise .storeRaised) shared
  | started (roll : Nat) :
      Advances .counting (tryTier app (startLoop app body shared.levels roll))
        { shared with
          tracker := shared.tracker.incrementRequests body.tenantId shared.today }
  | passedOver {loop : LoopState} {model : ModelConfig} {rest : List ModelConfig} :
      Advances (.calling loop (model :: rest)) { phase := .calling loop rest } shared
  | failed {loop : LoopState} {model : ModelConfig} {rest : List ModelConfig} :
      Advances (.calling loop (model :: rest))
        { phase := .calling loop rest, events := [.called loop.currentTier model.id] } shared
  | gaveUp {loop : LoopState} : Advances (.calling loop []) (leaveLoop loop) shared
  | movedOn {loop : LoopState} {nextTier : String}
      (may : MayEscalate app body shared loop nextTier) :
      Advances (.calling loop []) (tryTier app (loop.escalate nextTier)) shared
  | settled {loop : LoopState} {model : ModelConfig} {rest : List ModelConfig}
      (response : NormalizedResponse) :
      Advances (.calling loop (model :: rest))
        ((leaveLoop (loop.keep (attemptOf app body loop model response))).after
          [.called loop.currentTier model.id,
            .completed (attemptOf app body loop model response) shared.today]) shared
  | escalated {loop : LoopState} {model : ModelConfig} {rest : List ModelConfig}
      (response : NormalizedResponse) {nextTier : String}
      (unsure : (attemptOf app body loop model response).decision.shouldEscalate = true)
      (may : MayEscalate app body shared loop nextTier) :
      Advances (.calling loop (model :: rest))
        ((tryTier app ((loop.keep (attemptOf app body loop model response)).escalate
            nextTier)).after
          [.called loop.currentTier model.id,
            .completed (attemptOf app body loop model response) shared.today]) shared
  | recordRaised {loop : LoopState} {best : Attempt} :
      Advances (.recording loop best) (.raise .storeRaised) shared
  | recorded {loop : LoopState} {best : Attempt} :
      Advances (.recording loop best)
        { phase := .expiring loop best (app.costOf loop.modelUsed best.response.usage)
          events := [.recorded (app.costOf loop.modelUsed best.response.usage) shared.today] }
        { shared with
          tracker := shared.tracker.recordCost body.tenantId shared.today
            (app.costOf loop.modelUsed best.response.usage) }
  | expiryRaised {loop : LoopState} {best : Attempt} {costUsd : Rat} :
      Advances (.expiring loop best costUsd) (.raise .expiryRaised) shared
  | served {loop : LoopState} {best : Attempt} {costUsd : Rat} :
      Advances (.expiring loop best costUsd)
        { phase := .answered (.served (servedResponse body loop best costUsd)) } shared
  | stayed {answer : Answer} :
      Advances (.answered answer) { phase := .answered answer } shared

variable {app body shared}

@[simp] theorem currentTier_keep (loop : LoopState) (attempt : Attempt) :
    (loop.keep attempt).currentTier = loop.currentTier := by
  rw [LoopState.keep]
  dsimp only
  split <;> rfl

@[simp] theorem escalationCount_keep (loop : LoopState) (attempt : Attempt) :
    (loop.keep attempt).escalationCount = loop.escalationCount := by
  rw [LoopState.keep]
  dsimp only
  split <;> rfl

section

variable (app : AppState) (body : CompletionRequest) (shared : Shared)

theorem afterFailure_cases (loop : LoopState) :
    afterFailure app body shared.levels loop = leaveLoop loop ∨
      ∃ nextTier, MayEscalate app body shared loop nextTier ∧
        afterFailure app body shared.levels loop = tryTier app (loop.escalate nextTier) := by
  rw [afterFailure]
  split
  · next more =>
    split
    · exact .inl rfl
    · next nextTier _ =>
      split
      · next allowed =>
        right
        refine ⟨nextTier, ⟨more.2, ?_⟩, rfl⟩
        simpa [TenantLevels.isTierAllowed] using allowed.2
      · exact .inl rfl
  · exact .inl rfl

theorem afterResponse_cases (loop : LoopState) (attempt : Attempt) :
    afterResponse app body shared.levels loop attempt = leaveLoop (loop.keep attempt) ∨
      ∃ nextTier, attempt.decision.shouldEscalate = true ∧
        MayEscalate app body shared loop nextTier ∧
        afterResponse app body shared.levels loop attempt =
          tryTier app ((loop.keep attempt).escalate nextTier) := by
  rw [afterResponse]
  split
  · exact .inl rfl
  · next unsure =>
    split
    · exact .inl rfl
    · next nextTier _ =>
      split
      · exact .inl rfl
      · next more =>
        split
        · exact .inl rfl
        · next allowed =>
          right
          refine ⟨nextTier, by simpa using unsure, ⟨?_, ?_⟩, rfl⟩
          · simpa using more
          · simpa [TenantLevels.isTierAllowed] using allowed

theorem advance_advances (outcome : Outcome) (phase : Phase) :
    Advances app body shared phase (advance app body shared outcome phase).1
      (advance app body shared outcome phase).2 := by
  cases phase with
  | reading =>
    rw [advance]
    split
    · exact .readRaised
    · exact .read
  | deciding dailySpend =>
    rw [advance]
    simp only [TenantLevels.shouldQueue, TenantLevels.shouldRejectLlm,
      TenantLevels.getLevel_updateForSpend, decide_eq_true_eq]
    split
    · next full =>
      apply Advances.turnedAway
      · exact le_trans (by decide) full
      · exact .inl ⟨_, rfl⟩
    · split
      · next most =>
        apply Advances.turnedAway
        · exact most
        · exact .inr ⟨_, rfl⟩
      · next left => exact .admitted (Nat.lt_of_not_le left)
  | enqueueing level =>
    rw [advance]
    split
    · exact .queued (.inl rfl)
    · exact .queued (.inr rfl)
  | counting =>
    rw [advance]
    split
    · exact .countRaised
    · exact .started outcome.roll
  | calling loop pending =>
    cases pending with
    | nil =>
      rw [advance]
      rcases afterFailure_cases app body shared loop with
        left | ⟨nextTier, may, next⟩
      · rw [left]
        exact .gaveUp
      · rw [next]
        exact .movedOn may
    | cons model rest =>
      rw [advance]
      split
      · exact .passedOver
      · split
        · exact .failed
        · next response _ =>
          dsimp only
          rcases afterResponse_cases app body shared loop
            (attemptOf app body loop model response) with left | ⟨nextTier, unsure, may, next⟩
          · rw [left]
            exact .settled response
          · rw [next]
            exact .escalated response unsure may
  | recording loop best =>
    rw [advance]
    split
    · exact .recordRaised
    · exact .recorded
  | expiring loop best costUsd =>
    rw [advance]
    split
    · exact .expiryRaised
    · exact .served
  | answered answer =>
    rw [advance]
    exact .stayed

end

end Inversion

end Onpremai.Gateway
