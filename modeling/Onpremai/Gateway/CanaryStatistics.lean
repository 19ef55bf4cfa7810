import Onpremai.Gateway.CanaryHistory
import Onpremai.Gateway.Reloads

/-!
# Canary statistics

The variant of a request is drawn when it is routed, the model that answers it is found while
it is served, and its result is recorded when it is done, for the requests alone that were
drawn for the canary and are served.  The statistics of an experiment are faithful exactly as
long as every request that finishes under it is of this kind and was answered by the canary
model.
-/

namespace Onpremai.Gateway

open Onpremai.Library

def Phase.routed : Phase → Bool
  | .calling _ _ => true
  | .recording _ _ => true
  | .expiring _ _ _ => true
  | _ => false

def Phase.producer : Phase → Answer → Option String
  | .expiring _ best _, .served _ => some best.modelId
  | _, _ => none

def CanaryExperiment.variantOf (experiment : CanaryExperiment) (producer : Option String) :
    Variant :=
  if producer = some experiment.config.model then .canary else .control

/-- A finished request is counted once in the experiment that runs for it, under the variant
of its response, and nowhere else. -/
structure CountsResponse (before after : CanaryManager) (body : CompletionRequest)
    (producer : Option String) : Prop where
  counted : ∀ experiment, before.experimentOf body.agent body.task = some experiment →
    ∃ sample, after.get? experiment.taskKey =
      some (experiment.record sample (experiment.variantOf producer))
  others : ∀ key, (∀ experiment, before.experimentOf body.agent body.task = some experiment →
    key ≠ experiment.taskKey) → after.get? key = before.get? key

namespace Serving

variable (charge : ProviderAdapter → Adapter) (loads : String → Option Json)
  (process : Process) (state : Serving)

def CountsRightly : ServingMove → Prop
  | .resume index outcome latencyMs =>
    ∀ flight, state.flights[index]? = some flight →
      let after := (state.step charge loads process (.resume index outcome latencyMs)).app.canary
      (∀ answer, flight.phase.routed = true →
        (state.resumed charge loads flight outcome).phase = .answered answer →
          CountsResponse state.app.canary after flight.body (flight.phase.producer answer)) ∧
      ((flight.phase.routed = false ∨
          (state.resumed charge loads flight outcome).isAnswered = false) →
        ∀ key, after.get? key = state.app.canary.get? key)
  | _ => True

def FinishesOnCanary : ServingMove → Prop
  | .resume index outcome _ =>
    ∀ flight answer experiment, state.flights[index]? = some flight → flight.phase.routed = true →
      (state.resumed charge loads flight outcome).phase = .answered answer →
      state.app.canary.experimentOf flight.body.agent flight.body.task = some experiment →
        ∃ loop best costUsd, flight.phase = .expiring loop best costUsd ∧
          state.shared.raises outcome = false ∧ loop.canaryModelId.isSome = true ∧
          best.modelId = experiment.config.model
  | _ => True

end Serving

section

variable {canary : CanaryManager} {body : CompletionRequest} {producer : Option String}

theorem CanaryExperiment.record_ne (experiment : CanaryExperiment) (sample : Sample)
    (variant : Variant) : experiment.record sample variant ≠ experiment := by
  intro same
  cases variant with
  | canary =>
    have lengths := congrArg (fun other => other.canarySamples.length) same
    simp [record] at lengths
  | control =>
    have lengths := congrArg (fun other => other.controlSamples.length) same
    simp [record] at lengths

theorem CanaryExperiment.record_variant {experiment : CanaryExperiment} {sample other : Sample}
    {variant : Variant}
    (same : experiment.record sample .canary = experiment.record other variant) :
    variant = .canary := by
  cases variant with
  | canary => rfl
  | control =>
    have lengths := congrArg (fun other => other.canarySamples.length) same
    simp [record] at lengths

theorem CanaryExperiment.variantOf_eq_canary_iff {experiment : CanaryExperiment}
    {modelId : String} :
    experiment.variantOf (some modelId) = .canary ↔ modelId = experiment.config.model := by
  rw [variantOf]
  split
  · next same => exact iff_of_true rfl (Option.some.inj same)
  · next differ =>
    constructor
    · intro absurdity
      cases absurdity
    · intro same
      exact absurd (congrArg some same) differ

theorem countsResponse_unrecorded : CountsResponse canary canary body producer ↔
      canary.experimentOf body.agent body.task = none := by
  constructor
  · intro counts
    cases running : canary.experimentOf body.agent body.task with
    | none => rfl
    | some experiment =>
      rcases counts.counted experiment running with ⟨sample, stored⟩
      rw [CanaryManager.get?_of_experimentOf running] at stored
      exact absurd (Option.some.inj stored).symm (experiment.record_ne sample _)
  · intro missing
    constructor
    · intro experiment running
      rw [missing] at running
      cases running
    · intro key _
      rfl

theorem countsResponse_recorded (sample : Sample) (modelId : String) :
    CountsResponse canary (canary.recordResult body.agent body.task .canary sample) body
        (some modelId) ↔
      ∀ experiment, canary.experimentOf body.agent body.task = some experiment →
        modelId = experiment.config.model := by
  constructor
  · intro counts experiment running
    rcases counts.counted experiment running with ⟨other, stored⟩
    rw [CanaryManager.get?_recordResult, running, Option.elim_some, if_pos rfl] at stored
    exact CanaryExperiment.variantOf_eq_canary_iff.mp
      (CanaryExperiment.record_variant (Option.some.inj stored))
  · intro produced
    constructor
    · intro experiment running
      refine ⟨sample, ?_⟩
      rw [CanaryManager.get?_recordResult, running, Option.elim_some, if_pos rfl,
        CanaryExperiment.variantOf_eq_canary_iff.mpr (produced experiment running)]
    · intro key apart
      rw [CanaryManager.get?_recordResult]
      cases running : canary.experimentOf body.agent body.task with
      | none => rfl
      | some experiment =>
        rw [Option.elim_some, if_neg]
        exact (apart experiment running).symm

end

/-! ## Finishing -/

section

variable {canary : CanaryManager} {body : CompletionRequest} {latencyMs : Int}
  {phase next : Phase}

theorem recordCanary_eq_self
    (unserved : (∀ loop best costUsd, phase ≠ .expiring loop best costUsd) ∨
      ∀ response, next ≠ .answered (.served response)) :
    recordCanary canary body latencyMs phase next = canary := by
  cases phase with
  | expiring loop best costUsd =>
    cases next with
    | answered answer =>
      cases answer with
      | served response =>
        rcases unserved with elsewhere | unserved
        · exact absurd rfl (elsewhere loop best costUsd)
        · exact absurd rfl (unserved response)
      | budgetExhausted level => rfl
      | llmBudgetExhausted level => rfl
      | unavailable => rfl
      | serverError => rfl
    | reading => rfl
    | deciding dailySpend => rfl
    | enqueueing level => rfl
    | counting => rfl
    | calling loop pending => rfl
    | recording loop best => rfl
    | expiring loop best costUsd => rfl
  | reading => rfl
  | deciding dailySpend => rfl
  | enqueueing level => rfl
  | counting => rfl
  | calling loop pending => rfl
  | recording loop best => rfl
  | answered answer => rfl

variable {app : AppState} {shared : Shared} {outcome : Outcome}

theorem leaveLoop_unserved (loop : LoopState) (response : CompletionResponse) :
    (leaveLoop loop).phase ≠ .answered (.served response) := by
  rw [leaveLoop]
  cases loop.best with
  | none =>
    intro same
    cases same
  | some best =>
    intro same
    cases same

theorem served_expiring {turn : Turn} {after : Shared} {response : CompletionResponse}
    (moved : Advances app body shared phase turn after) (routed : phase.routed = true)
    (served : turn.phase = .answered (.served response)) :
    ∃ loop best costUsd, phase = .expiring loop best costUsd := by
  cases moved with
  | gaveUp => exact absurd served (leaveLoop_unserved _ _)
  | settled response => exact absurd served (leaveLoop_unserved _ _)
  | served => exact ⟨_, _, _, rfl⟩
  | expiryRaised => exact ⟨_, _, _, rfl⟩
  | stayed => cases routed
  | recordRaised => cases served
  | recorded => cases served
  | movedOn => cases served
  | escalated => cases served
  | failed => cases served
  | passedOver => cases served
  | readRaised => cases served
  | read => cases served
  | turnedAway => cases routed
  | admitted => cases served
  | queued => cases routed
  | countRaised => cases served
  | started => cases served

end

namespace Serving

variable {charge : ProviderAdapter → Adapter} {loads : String → Option Json}
  {process : Process} {state : Serving}

theorem canary_step_resume {index : Nat} {flight : Flight}
    (found : state.flights[index]? = some flight) (outcome : Outcome) (latencyMs : Int) :
    (state.step charge loads process (.resume index outcome latencyMs)).app.canary =
      recordCanary state.app.canary flight.body latencyMs flight.phase
        (state.resumed charge loads flight outcome).phase := by
  rw [step, found]

section

variable {flight : Flight} {outcome : Outcome} {answer : Answer}

theorem unserved_finished (routed : flight.phase.routed = true)
    (finished : (state.resumed charge loads flight outcome).phase = .answered answer)
    (elsewhere : ¬ ∃ loop best costUsd, flight.phase = .expiring loop best costUsd ∧
      state.shared.raises outcome = false) (response : CompletionResponse) :
    answer ≠ .served response := by
  intro same
  rw [same] at finished
  rcases served_expiring (advance_advances (state.app.appState charge loads) flight.body
    state.shared outcome flight.phase) routed finished with ⟨loop, best, costUsd, ends⟩
  cases raised : state.shared.raises outcome with
  | false => exact elsewhere ⟨loop, best, costUsd, ends, raised⟩
  | true =>
    have failed : (state.resumed charge loads flight outcome).phase =
        .answered .serverError := by
      rw [resumed, Flight.resume, ends, advance, if_pos raised]
      rfl
    rw [failed] at finished
    cases finished

theorem countsResponse_finished (latencyMs : Int) (routed : flight.phase.routed = true)
    (finished : (state.resumed charge loads flight outcome).phase = .answered answer) :
    CountsResponse state.app.canary
        (recordCanary state.app.canary flight.body latencyMs flight.phase
          (state.resumed charge loads flight outcome).phase)
        flight.body (flight.phase.producer answer) ↔ ∀ experiment,
        state.app.canary.experimentOf flight.body.agent flight.body.task = some experiment →
          ∃ loop best costUsd, flight.phase = .expiring loop best costUsd ∧
            state.shared.raises outcome = false ∧ loop.canaryModelId.isSome = true ∧
            best.modelId = experiment.config.model := by
  by_cases ends : ∃ loop best costUsd, flight.phase = .expiring loop best costUsd ∧
      state.shared.raises outcome = false
  · rcases ends with ⟨loop, best, costUsd, ends, returned⟩
    have served : (state.resumed charge loads flight outcome).phase =
        .answered (.served (servedResponse flight.body loop best costUsd)) := by
      rw [resumed, Flight.resume, ends, advance, if_neg (by rw [returned]; exact Bool.noConfusion)]
    rw [served] at finished ⊢
    cases finished
    rw [ends, recordCanary]
    split
    · next drawn =>
      rw [Phase.producer, countsResponse_recorded]
      constructor
      · intro produced experiment running
        exact ⟨loop, best, costUsd, rfl, returned, drawn, produced experiment running⟩
      · intro onCanary experiment running
        rcases onCanary experiment running with ⟨_, _, _, same, -, -, produced⟩
        cases same
        exact produced
    · next undrawn =>
      rw [countsResponse_unrecorded, Option.eq_none_iff_forall_ne_some]
      constructor
      · intro missing experiment running
        exact absurd running (missing experiment)
      · intro onCanary experiment running
        rcases onCanary experiment running with ⟨_, _, _, same, -, drawn, -⟩
        cases same
        exact undrawn drawn
  · have unserved (response : CompletionResponse) :
        (state.resumed charge loads flight outcome).phase ≠ .answered (.served response) := by
      rw [finished]
      intro same
      exact unserved_finished routed finished ends response (Phase.answered.inj same)
    rw [recordCanary_eq_self (.inr unserved), countsResponse_unrecorded,
      Option.eq_none_iff_forall_ne_some]
    constructor
    · intro missing experiment running
      exact absurd running (missing experiment)
    · intro onCanary experiment running
      rcases onCanary experiment running with ⟨loop, best, costUsd, same, returned, -⟩
      exact ends ⟨loop, best, costUsd, same, returned⟩

end

theorem countsRightly_step (move : ServingMove) : state.CountsRightly charge loads process move ↔
      state.FinishesOnCanary charge loads move := by
  cases move with
  | operate move outside => exact Iff.rfl
  | arrive body => exact Iff.rfl
  | newDay => exact Iff.rfl
  | resume index outcome latencyMs =>
    constructor
    · intro rightly flight answer experiment found routed finished running
      have counts := (rightly flight found).1 answer routed finished
      rw [canary_step_resume found, countsResponse_finished latencyMs routed finished] at counts
      exact counts experiment running
    · intro onCanary flight found
      dsimp only
      rw [canary_step_resume found]
      constructor
      · intro answer routed finished
        rw [countsResponse_finished latencyMs routed finished]
        intro experiment running
        exact onCanary flight answer experiment found routed finished running
      · intro unfinished key
        rw [recordCanary_eq_self]
        rcases unfinished with unrouted | goesOn
        · left
          intro loop best costUsd ends
          rw [ends] at unrouted
          cases unrouted
        · right
          intro response answered
          rw [Flight.isAnswered, answered] at goesOn
          cases goesOn

end Serving

/-- Over every run the statistics of the experiments are faithful exactly when every request
that finishes under one was drawn for its canary, is served, and has its response from the
canary model. -/
theorem countsRightly_iff (charge : ProviderAdapter → Adapter) (loads : String → Option Json)
    (process : Process) (state : Serving) (moves : List ServingMove) :
    (∀ earlier move later, moves = earlier ++ move :: later →
        (run (Serving.step charge loads process) state earlier).CountsRightly charge loads process
          move) ↔
      Allowed (Serving.step charge loads process)
        (fun state move => state.FinishesOnCanary charge loads move) state moves := by
  rw [allowed_iff_passed]
  constructor
  · intro every earlier move later split
    exact (Serving.countsRightly_step move).mp (every earlier move later split)
  · intro every earlier move later split
    exact (Serving.countsRightly_step move).mpr (every earlier move later split)

/-- The request is served with a response of the canary model that it was drawn for. -/
def Phase.onCanary (experiment : CanaryExperiment) : Phase → Bool
  | .expiring loop best _ =>
    loop.canaryModelId.isSome && decide (best.modelId = experiment.config.model)
  | _ => false

theorem not_countsRightly {charge : ProviderAdapter → Adapter} {loads : String → Option Json}
    {process : Process} {state : Serving} {index : Nat} {outcome : Outcome} (latencyMs : Int)
    (off : (state.flights[index]?.any fun flight =>
      flight.phase.routed && ((state.resumed charge loads flight outcome).isAnswered &&
        (state.app.canary.experimentOf flight.body.agent flight.body.task).any
          fun experiment => !flight.phase.onCanary experiment)) = true) :
    ¬ state.CountsRightly charge loads process (.resume index outcome latencyMs) := by
  rw [Serving.countsRightly_step]
  intro onCanary
  rw [Option.any_eq_true] at off
  rcases off with ⟨flight, found, off⟩
  rw [Bool.and_eq_true, Bool.and_eq_true, Option.any_eq_true] at off
  rcases off with ⟨routed, answered, experiment, running, off⟩
  rcases isAnswered_iff.mp answered with ⟨answer, finished⟩
  rcases onCanary flight answer experiment found routed finished running with
    ⟨loop, best, costUsd, ends, -, drawn, produced⟩
  rw [ends, Phase.onCanary, drawn, produced, decide_eq_true rfl] at off
  cases off

def pairFile : ConfigFile :=
  midTierFile [.obj [("id", .str "old-model")], .obj [("id", .str "new-model")]]

/-- The application that starts with the two models. -/
def pairApp : GatewayApp := (GatewayApp.lifespan bareProcess {} 0 pairFile).toOption.get rfl

/-- A request under an experiment with the new model, and what its awaits come back with. -/
def underExperiment (outcomes : List Outcome) : List ServingMove :=
  .operate (startCanary "classify") rfl :: .arrive { task := "classify", tenantId := "acme" } ::
    outcomes.map fun outcome => .resume 0 outcome 100

def drawnWith (roll : Nat) : List Outcome :=
  [{ stored := true }, { stored := true }, { roll := roll }]

/-- A control request is not counted; a canary request that falls back to the other model is
counted under the canary; and a canary request that fails is not counted. -/
theorem statistics_miscount : GatewayApp.lifespan bareProcess {} 0 pairFile = .ok pairApp ∧
      ¬ (∀ earlier move later, underExperiment (drawnWith 100 ++
          [{ response := some plainResponse }, { stored := true }, { stored := true }]) =
            earlier ++ move :: later →
        (run (Serving.step freeOfCharge (fun _ => none) bareProcess) { app := pairApp }
          earlier).CountsRightly freeOfCharge (fun _ => none) bareProcess move) ∧
      ¬ (∀ earlier move later, underExperiment (drawnWith 1 ++
          [{ response := none }, { response := some plainResponse }, { stored := true },
            { stored := true }]) = earlier ++ move :: later →
        (run (Serving.step freeOfCharge (fun _ => none) bareProcess) { app := pairApp }
          earlier).CountsRightly freeOfCharge (fun _ => none) bareProcess move) ∧
      ¬ (∀ earlier move later, underExperiment (drawnWith 1 ++
          [{ response := none }, { response := none }, { response := none },
            { response := none }]) = earlier ++ move :: later →
        (run (Serving.step freeOfCharge (fun _ => none) bareProcess) { app := pairApp }
          earlier).CountsRightly freeOfCharge (fun _ => none) bareProcess move) := by
  refine ⟨rfl, ?_, ?_, ?_⟩
  · intro every
    exact not_countsRightly 100 (by decide +kernel) (every
      (underExperiment (drawnWith 100 ++ [{ response := some plainResponse }, { stored := true }]))
      (.resume 0 { stored := true } 100) [] rfl)
  · intro every
    exact not_countsRightly 100 (by decide +kernel) (every
      (underExperiment (drawnWith 1 ++
        [{ response := none }, { response := some plainResponse }, { stored := true }]))
      (.resume 0 { stored := true } 100) [] rfl)
  · intro every
    exact not_countsRightly 100 (by decide +kernel) (every
      (underExperiment (drawnWith 1 ++
        [{ response := none }, { response := none }, { response := none }]))
      (.resume 0 { response := none } 100) [] rfl)

end Onpremai.Gateway
