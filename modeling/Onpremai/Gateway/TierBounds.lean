import Mathlib.Algebra.Order.BigOperators.Group.List
import Onpremai.Gateway.Interleaving

/-!
# Tiers of a completion

A request that runs by itself tries a bounded number of tiers, is answered after a
bounded number of moves, and calls models of the tiers that its level allows.
-/

namespace Onpremai.Gateway

open Onpremai.Library

section Log

def triedTiers (log : List Event) : List String :=
  log.filterMap fun event =>
    match event with
    | .tried tier => some tier
    | _ => none

def adapterCalls (log : List Event) : List (String × String) :=
  log.filterMap fun event =>
    match event with
    | .called tier modelId => some (tier, modelId)
    | _ => none

def spendsRead (log : List Event) : List Rat :=
  log.filterMap fun event =>
    match event with
    | .read dailySpend _ => some dailySpend
    | _ => none

def requestLevel (app : AppState) (log : List Event) : Option Nat :=
  (spendsRead log).head?.map fun dailySpend =>
    computeLevel dailySpend app.config.cost.maxPerTenantPerDayUsd

section

variable (log events : List Event)

@[simp] theorem triedTiers_append :
    triedTiers (log ++ events) = triedTiers log ++ triedTiers events :=
  List.filterMap_append

@[simp] theorem adapterCalls_append :
    adapterCalls (log ++ events) = adapterCalls log ++ adapterCalls events :=
  List.filterMap_append

@[simp] theorem spendsRead_append :
    spendsRead (log ++ events) = spendsRead log ++ spendsRead events :=
  List.filterMap_append

end

variable {app : AppState}

theorem requestLevel_append_of_some {log : List Event} {level : Nat}
    (known : requestLevel app log = some level) (events : List Event) :
    requestLevel app (log ++ events) = some level := by
  rw [requestLevel, Option.map_eq_some_iff] at known ⊢
  rcases known with ⟨dailySpend, first, levelEq⟩
  refine ⟨dailySpend, ?_, levelEq⟩
  rw [spendsRead_append, List.head?_append, first]
  rfl

end Log

def routedTier (app : AppState) (body : CompletionRequest) : String :=
  (app.config.resolve body.agent body.task body.tenantId).tier

def TierAllowed (app : AppState) (body : CompletionRequest) (level : Nat) (tier : String) : Prop :=
  tier ∈ tiersForLevel level ∨ (tier = routedTier app body ∧ tier ∉ tierPriority)

/-- What the tiers and models of a request keep to. -/
structure WithinBounds (app : AppState) (body : CompletionRequest) (log : List Event) :
    Prop where
  attempts : (triedTiers log).length ≤ app.config.escalation.maxEscalations.toNat + 1
  later : ∀ tier ∈ (triedTiers log).tail, ∃ level, requestLevel app log = some level ∧
    tier ∈ tiersForLevel level
  calls : ∀ call ∈ adapterCalls log, ∃ level, requestLevel app log = some level ∧
    TierAllowed app body level call.1 ∧
      ∃ model ∈ app.config.getModelsForTier call.1, model.id = call.2

section Steps

variable {app : AppState} {body : CompletionRequest}

theorem withinBounds_of_untried {log : List Event} (tiers : triedTiers log = [])
    (calls : adapterCalls log = []) : WithinBounds app body log where
  attempts := by simp [tiers]
  later := by simp [tiers]
  calls := by simp [calls]

theorem WithinBounds.append {log : List Event} (bounds : WithinBounds app body log)
    {events : List Event} (tiers : triedTiers events = []) (calls : adapterCalls events = []) :
    WithinBounds app body (log ++ events) where
  attempts := by
    rw [triedTiers_append, tiers, List.append_nil]
    exact bounds.attempts
  later := by
    intro tier member
    rw [triedTiers_append, tiers, List.append_nil] at member
    rcases bounds.later tier member with ⟨level, known, allowed⟩
    exact ⟨level, requestLevel_append_of_some known events, allowed⟩
  calls := by
    intro call member
    rw [adapterCalls_append, calls, List.append_nil] at member
    rcases bounds.calls call member with ⟨level, known, allowed⟩
    exact ⟨level, requestLevel_append_of_some known events, allowed⟩

/-- The loop beside the log, at the level that the shared state still holds. -/
structure TierHistory (app : AppState) (body : CompletionRequest) (shared : Shared)
    (loop : LoopState) (log : List Event) : Prop where
  bounds : WithinBounds app body log
  level : requestLevel app log = some (shared.levels.getLevel body.tenantId)
  tried : triedTiers log = loop.escalationPath ++ [loop.currentTier]
  count : loop.escalationPath.length = loop.escalationCount
  allowed : TierAllowed app body (shared.levels.getLevel body.tenantId) loop.currentTier

section

variable {shared : Shared} {loop : LoopState} {log : List Event}

theorem TierHistory.keep (history : TierHistory app body shared loop log) (attempt : Attempt) :
    TierHistory app body shared (loop.keep attempt) log := by
  have path : (loop.keep attempt).escalationPath = loop.escalationPath := by
    rw [LoopState.keep]
    dsimp only
    split <;> rfl
  exact {
    bounds := history.bounds
    level := history.level
    tried := by rw [path, currentTier_keep, history.tried]
    count := by rw [path, escalationCount_keep, history.count]
    allowed := by rw [currentTier_keep]; exact history.allowed }

theorem TierHistory.call (history : TierHistory app body shared loop log) {model : ModelConfig}
    (member : model ∈ app.config.getModelsForTier loop.currentTier) {events : List Event}
    (tiers : triedTiers events = [])
    (calls : adapterCalls events = [(loop.currentTier, model.id)]) :
    TierHistory app body shared loop (log ++ events) where
  bounds := {
    attempts := by
      rw [triedTiers_append, tiers, List.append_nil]
      exact history.bounds.attempts
    later := by
      intro tier late
      rw [triedTiers_append, tiers, List.append_nil] at late
      rcases history.bounds.later tier late with ⟨level, known, allowed⟩
      exact ⟨level, requestLevel_append_of_some known events, allowed⟩
    calls := by
      intro call callMember
      rw [adapterCalls_append, calls, List.mem_append, List.mem_singleton] at callMember
      rcases callMember with old | rfl
      · rcases history.bounds.calls call old with ⟨level, known, allowed⟩
        exact ⟨level, requestLevel_append_of_some known events, allowed⟩
      · exact ⟨_, requestLevel_append_of_some history.level events, history.allowed,
          model, member, rfl⟩ }
  level := requestLevel_append_of_some history.level events
  tried := by rw [triedTiers_append, tiers, List.append_nil, history.tried]
  count := history.count
  allowed := history.allowed

theorem TierHistory.escalate (history : TierHistory app body shared loop log) {nextTier : String}
    (may : MayEscalate app body shared loop nextTier) :
    TierHistory app body shared (loop.escalate nextTier) (log ++ [.tried nextTier]) where
  bounds := {
    attempts := by
      have fewer := may.fewer
      have length := congrArg List.length history.tried
      simp only [List.length_append, List.length_singleton, history.count] at length
      simp only [triedTiers_append, List.length_append, length]
      simp only [triedTiers, List.filterMap_cons, List.filterMap_nil, List.length_singleton]
      omega
    later := by
      intro tier member
      refine ⟨_, requestLevel_append_of_some history.level _, ?_⟩
      have tail : (triedTiers (log ++ [.tried nextTier])).tail =
          (triedTiers log).tail ++ [nextTier] := by
        rw [triedTiers_append, List.tail_append_of_ne_nil (by simp [history.tried])]
        rfl
      rw [tail, List.mem_append, List.mem_singleton] at member
      rcases member with old | rfl
      · rcases history.bounds.later tier old with ⟨level, known, allowed⟩
        rw [history.level] at known
        rw [Option.some.inj known]
        exact allowed
      · exact may.allowed
    calls := by
      intro call member
      rw [adapterCalls_append, show adapterCalls [.tried nextTier] = [] from rfl,
        List.append_nil] at member
      rcases history.bounds.calls call member with ⟨level, known, allowed⟩
      exact ⟨level, requestLevel_append_of_some known _, allowed⟩ }
  level := requestLevel_append_of_some history.level _
  tried := by
    rw [triedTiers_append, history.tried]
    rfl
  count := by simp [LoopState.escalate, history.count]
  allowed := .inl may.allowed

end

theorem tierHistory_startLoop {shared : Shared} {log : List Event}
    (level : requestLevel app log = some (shared.levels.getLevel body.tenantId))
    (left : shared.levels.getLevel body.tenantId < DegradationLevel.deterministicOnly)
    (tiers : triedTiers log = []) (calls : adapterCalls log = []) (roll : Nat)
    (tracker : BudgetTracker) :
    TierHistory app body { shared with tracker } (startLoop app body shared.levels roll)
      (log ++ [.tried (startLoop app body shared.levels roll).currentTier]) where
  bounds := {
    attempts := by
      rw [triedTiers_append, tiers]
      exact Nat.succ_le_succ (Nat.zero_le _)
    later := by
      rw [triedTiers_append, tiers]
      exact fun tier member => absurd member List.not_mem_nil
    calls := by
      rw [adapterCalls_append, calls]
      exact fun call member => absurd member List.not_mem_nil }
  level := requestLevel_append_of_some level _
  tried := by
    rw [triedTiers_append, tiers]
    rfl
  count := rfl
  allowed := by
    by_cases known : routedTier app body ∈ tierPriority
    · exact .inl (capTierForLevel_mem left known)
    · have same : (startLoop app body shared.levels roll).currentTier = routedTier app body :=
        capTierForLevel_of_notMem (shared.levels.getLevel body.tenantId) known
      right
      rw [same]
      exact ⟨rfl, known⟩

def TierPhase (app : AppState) (body : CompletionRequest) (shared : Shared) (log : List Event) :
    Phase → Prop
  | .reading => spendsRead log = [] ∧ triedTiers log = [] ∧ adapterCalls log = []
  | .deciding dailySpend =>
    requestLevel app log = some (computeLevel dailySpend app.config.cost.maxPerTenantPerDayUsd) ∧
      triedTiers log = [] ∧ adapterCalls log = []
  | .counting =>
    requestLevel app log = some (shared.levels.getLevel body.tenantId) ∧
      shared.levels.getLevel body.tenantId < DegradationLevel.deterministicOnly ∧
      triedTiers log = [] ∧ adapterCalls log = []
  | .calling loop pending =>
    TierHistory app body shared loop log ∧
      ∀ model ∈ pending, model ∈ app.config.getModelsForTier loop.currentTier
  | _ => WithinBounds app body log

theorem mem_orderedModels {models : List ModelConfig} {target : Option String}
    {model : ModelConfig} (member : model ∈ orderedModels models target) : model ∈ models := by
  cases target with
  | none => exact member
  | some targetModelId =>
    rw [orderedModels] at member
    split at member
    · exact member
    · rcases List.mem_append.mp member with front | back
      · exact List.mem_of_mem_filter front
      · exact List.mem_of_mem_filter back

section

variable {shared : Shared} {log : List Event} {loop : LoopState}

theorem tierPhase_leaveLoop (bounds : WithinBounds app body log) :
    TierPhase app body shared log (leaveLoop loop).phase := by
  rw [leaveLoop]
  cases loop.best with
  | none => exact bounds
  | some best => exact bounds

theorem tierPhase_tryTier (history : TierHistory app body shared loop log) :
    TierPhase app body shared log (tryTier app loop).phase :=
  ⟨history, fun _ member => mem_orderedModels member⟩

end

theorem tierPhase_advances {shared after : Shared} {phase : Phase} {turn : Turn}
    {log : List Event} (move : Advances app body shared phase turn after)
    (history : TierPhase app body shared log phase) :
    TierPhase app body after (log ++ turn.events) turn.phase := by
  cases move with
  | readRaised => exact (withinBounds_of_untried history.2.1 history.2.2).append rfl rfl
  | read =>
    refine ⟨?_, ?_, ?_⟩
    · rw [requestLevel, spendsRead_append, history.1]
      rfl
    · rw [triedTiers_append, history.2.1]
      rfl
    · rw [adapterCalls_append, history.2.2]
      rfl
  | turnedAway spent unserved =>
    have bounds : WithinBounds app body (log ++ []) :=
      (withinBounds_of_untried history.2.1 history.2.2).append rfl rfl
    rcases unserved with ⟨level, rfl⟩ | ⟨level, rfl⟩
    · exact bounds
    · exact bounds
  | admitted left =>
    rw [List.append_nil]
    refine ⟨?_, ?_, history.2⟩
    · rw [TenantLevels.getLevel_updateForSpend]
      exact history.1
    · rw [TenantLevels.getLevel_updateForSpend]
      exact left
  | queued unserved => exact WithinBounds.append history rfl rfl
  | countRaised => exact (withinBounds_of_untried history.2.2.1 history.2.2.2).append rfl rfl
  | started roll =>
    exact tierPhase_tryTier
      (tierHistory_startLoop history.1 history.2.1 history.2.2.1 history.2.2.2 roll _)
  | passedOver =>
    rw [List.append_nil]
    exact ⟨history.1, fun model member => history.2 model (List.mem_cons_of_mem _ member)⟩
  | failed =>
    refine ⟨?_, fun model member => history.2 model (List.mem_cons_of_mem _ member)⟩
    exact history.1.call (history.2 _ List.mem_cons_self) rfl rfl
  | gaveUp => exact tierPhase_leaveLoop (history.1.bounds.append rfl rfl)
  | movedOn may => exact tierPhase_tryTier (history.1.escalate may)
  | settled response =>
    apply tierPhase_leaveLoop
    exact (history.1.call (history.2 _ List.mem_cons_self) rfl rfl).bounds
  | @escalated loop model rest response nextTier unsure may =>
    have called : TierHistory app body shared loop (log ++ [.called loop.currentTier model.id,
          .completed (attemptOf app body loop model response) shared.today]) :=
      history.1.call (history.2 model List.mem_cons_self) rfl rfl
    have kept := called.keep (attemptOf app body loop model response)
    have mayNext : MayEscalate app body shared
        (loop.keep (attemptOf app body loop model response)) nextTier :=
      ⟨by rw [escalationCount_keep]; exact may.fewer, may.allowed⟩
    have moved := kept.escalate mayNext
    rw [List.append_assoc] at moved
    exact tierPhase_tryTier moved
  | recordRaised => exact WithinBounds.append history rfl rfl
  | recorded => exact WithinBounds.append history rfl rfl
  | expiryRaised => exact WithinBounds.append history rfl rfl
  | served => exact WithinBounds.append history rfl rfl
  | stayed => exact WithinBounds.append history rfl rfl

theorem TierPhase.withinBounds {shared : Shared} {log : List Event} {phase : Phase}
    (history : TierPhase app body shared log phase) : WithinBounds app body log := by
  cases phase with
  | reading => exact withinBounds_of_untried history.2.1 history.2.2
  | deciding dailySpend => exact withinBounds_of_untried history.2.1 history.2.2
  | enqueueing level => exact history
  | counting => exact withinBounds_of_untried history.2.2.1 history.2.2.2
  | calling loop pending => exact history.1.bounds
  | recording loop best => exact history
  | expiring loop best costUsd => exact history
  | answered answer => exact history

end Steps

section Termination

variable (app : AppState)

/-- A bound on the number of models of a tier. -/
def longestTier : Nat := (app.config.tiers.values.map List.length).sum

/-- A bound on the moves that a request in a phase still makes. -/
def movesLeft : Phase → Nat
  | .reading => 6 + longestTier app +
      app.config.escalation.maxEscalations.toNat * (longestTier app + 1)
  | .deciding _ => 5 + longestTier app +
      app.config.escalation.maxEscalations.toNat * (longestTier app + 1)
  | .enqueueing _ => 1
  | .counting => 4 + longestTier app +
      app.config.escalation.maxEscalations.toNat * (longestTier app + 1)
  | .calling loop pending => 3 + pending.length +
      (app.config.escalation.maxEscalations.toNat - loop.escalationCount) * (longestTier app + 1)
  | .recording _ _ => 2
  | .expiring _ _ _ => 1
  | .answered _ => 0

variable {app}

theorem length_getModelsForTier_le (app : AppState) (tier : String) :
    (app.config.getModelsForTier tier).length ≤ longestTier app := by
  rw [RoutingConfig.getModelsForTier]
  cases found : app.config.tiers.get? tier with
  | none => exact Nat.zero_le _
  | some models =>
    apply le_trans (List.length_filter_le _ models)
    apply List.single_le_sum (fun length _ => Nat.zero_le length)
    apply List.mem_map_of_mem
    exact (app.config.tiers.mem_values_iff models).mpr ⟨tier, found⟩

theorem length_orderedModels (models : List ModelConfig) (target : Option String) :
    (orderedModels models target).length = models.length := by
  cases target with
  | none => rfl
  | some targetModelId =>
    rw [orderedModels]
    split
    · rfl
    · have parts := List.length_eq_length_filter_add
        (fun model : ModelConfig => decide (model.id = targetModelId)) (l := models)
      simpa using parts.symm

theorem movesLeft_leaveLoop_le (app : AppState) (loop : LoopState) :
    movesLeft app (leaveLoop loop).phase ≤ 2 := by
  rw [leaveLoop]
  cases loop.best with
  | none => exact Nat.zero_le _
  | some best => exact le_refl _

theorem movesLeft_tryTier_le (app : AppState) (loop : LoopState) :
    movesLeft app (tryTier app loop).phase ≤ 3 + longestTier app +
      (app.config.escalation.maxEscalations.toNat - loop.escalationCount) *
        (longestTier app + 1) := by
  have short := length_getModelsForTier_le app loop.currentTier
  rw [tryTier, movesLeft, length_orderedModels]
  omega

theorem movesLeft_escalate_le {loop : LoopState} (nextTier : String)
    (fewer : (loop.escalationCount : Int) < app.config.escalation.maxEscalations) :
    movesLeft app (tryTier app (loop.escalate nextTier)).phase ≤
      2 + (app.config.escalation.maxEscalations.toNat - loop.escalationCount) *
        (longestTier app + 1) := by
  have bound := movesLeft_tryTier_le app (loop.escalate nextTier)
  have one : app.config.escalation.maxEscalations.toNat - loop.escalationCount =
      app.config.escalation.maxEscalations.toNat - (loop.escalationCount + 1) + 1 := by
    omega
  rw [one, Nat.add_mul, Nat.one_mul]
  have count : (loop.escalate nextTier).escalationCount = loop.escalationCount + 1 := rfl
  rw [count] at bound
  omega

theorem movesLeft_advances {body : CompletionRequest} {shared after : Shared} {phase : Phase}
    {turn : Turn} (move : Advances app body shared phase turn after)
    (unanswered : ∀ answer, phase ≠ .answered answer) :
    movesLeft app turn.phase < movesLeft app phase := by
  cases move with
  | readRaised | countRaised | recordRaised | expiryRaised | served =>
    simp only [Turn.raise, movesLeft]
    omega
  | read | admitted _ | recorded | passedOver | failed =>
    simp only [movesLeft, List.length_cons]
    omega
  | turnedAway spent unserved =>
    rcases unserved with ⟨level, rfl⟩ | ⟨level, rfl⟩ <;> simp only [movesLeft] <;> omega
  | queued unserved => exact Nat.zero_lt_one
  | started roll =>
    have bound := movesLeft_tryTier_le app (startLoop app body shared.levels roll)
    rw [show (startLoop app body shared.levels roll).escalationCount = 0 from rfl,
      Nat.sub_zero] at bound
    rw [movesLeft]
    omega
  | @gaveUp loop =>
    have bound := movesLeft_leaveLoop_le app loop
    rw [movesLeft]
    omega
  | @movedOn loop nextTier may =>
    have bound := movesLeft_escalate_le nextTier may.fewer
    rw [movesLeft]
    omega
  | @settled loop model rest response =>
    have bound := movesLeft_leaveLoop_le app
      (loop.keep (attemptOf app body loop model response))
    rw [Turn.after, movesLeft]
    dsimp only
    omega
  | @escalated loop model rest response nextTier unsure may =>
    have fewer := may.fewer
    rw [← escalationCount_keep loop (attemptOf app body loop model response)] at fewer
    have bound := movesLeft_escalate_le nextTier fewer
    rw [escalationCount_keep] at bound
    rw [Turn.after, movesLeft]
    dsimp only
    omega
  | @stayed answer => exact absurd rfl (unanswered answer)

theorem exists_answered_of_movesLeft {phase : Phase} (exhausted : movesLeft app phase = 0) :
    ∃ answer, phase = .answered answer := by
  cases phase with
  | answered answer => exact ⟨answer, rfl⟩
  | reading | deciding _ | enqueueing _ | counting | recording _ _ | expiring _ _ _ =>
    simp [movesLeft] at exhausted
  | calling loop pending =>
    rw [movesLeft] at exhausted
    omega

/-- A request that runs by itself stays within its bounds, and is answered after a
bounded number of moves. -/
theorem complete_within_bounds (app : AppState) (shared : Shared) (body : CompletionRequest)
    (outcomes : List Outcome) :
    WithinBounds app body (complete app shared body outcomes).2.log ∧
      (movesLeft app .reading ≤ outcomes.length →
        (complete app shared body outcomes).2.isAnswered = true) := by
  constructor
  · let holds (state : Shared × Flight) : Prop :=
      state.2.body = body ∧ TierPhase app body state.1 state.2.log state.2.phase
    have kept : ∀ state outcome, holds state → holds (serve app state outcome) := by
      intro state outcome held
      refine ⟨held.1, ?_⟩
      rw [← held.1]
      apply tierPhase_advances (advance_advances app state.2.body state.1 outcome _)
      rw [held.1]
      exact held.2
    have start : holds (shared, { body }) := ⟨rfl, rfl, rfl, rfl⟩
    have history := run_always (serve app) holds kept start outcomes
    exact history.2.withinBounds
  · intro enough
    apply run_done (serve app) (fun state => state.2.isAnswered = true)
      (fun state => movesLeft app state.2.phase)
    · intro state outcome going
      apply movesLeft_advances (advance_advances app state.2.body state.1 outcome _)
      intro answer answered
      apply going
      rw [Flight.isAnswered, answered]
    · intro state outcome done
      rcases isAnswered_iff.mp done with ⟨answer, answered⟩
      apply isAnswered_iff.mpr
      refine ⟨answer, ?_⟩
      simp only [serve, Flight.resume, answered, advance]
    · exact enough
    · intro state exhausted
      exact isAnswered_iff.mpr (exists_answered_of_movesLeft exhausted)

def premiumApp : AppState where
  config := {
    tiers := .ofList [("premium", [{ id := "opus" }])]
    taskRouting := .ofList [("complex_reasoning", "premium")] }
  registry := fun _ => some ⟨fun inputTokens outputTokens => (inputTokens + outputTokens) / 1000⟩
  loads := fun _ => none

def ninetyPercentSpent : Shared where
  tracker := { redis := some { costs := .ofList [(("tenant-a", 0), 45)] } }

def premiumRequest : CompletionRequest where
  task := "complex_reasoning"
  tenantId := "tenant-a"

theorem complete_within_bounds_premium : WithinBounds premiumApp premiumRequest
        (complete premiumApp ninetyPercentSpent premiumRequest (.replicate 11 {})).2.log ∧
      (complete premiumApp ninetyPercentSpent premiumRequest
        (.replicate 11 {})).2.isAnswered = true := by
  have bounds := complete_within_bounds premiumApp ninetyPercentSpent premiumRequest
    (.replicate 11 {})
  exact ⟨bounds.1, bounds.2 (by decide)⟩

/-- A model of the tier is called at a level that allows the fast tier alone. -/
theorem premium_called_at_fast_only : ∃ call ∈ adapterCalls
        (complete premiumApp ninetyPercentSpent premiumRequest (.replicate 4 {})).2.log,
      ∃ level, requestLevel premiumApp
          (complete premiumApp ninetyPercentSpent premiumRequest (.replicate 4 {})).2.log =
            some level ∧
        ∀ tier ∈ tiersForLevel level, call.2 ∉
          (premiumApp.config.getModelsForTier tier).map (·.id) := by
  have calls : adapterCalls
      (complete premiumApp ninetyPercentSpent premiumRequest (.replicate 4 {})).2.log =
        [("premium", "opus")] := by
    decide +kernel
  have level : requestLevel premiumApp
      (complete premiumApp ninetyPercentSpent premiumRequest (.replicate 4 {})).2.log =
        some 2 := by
    decide +kernel
  rw [calls, level]
  refine ⟨_, List.mem_singleton.mpr rfl, 2, rfl, ?_⟩
  decide

end Termination

end Onpremai.Gateway
