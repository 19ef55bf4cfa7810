import Onpremai.Observer.AutonomyLimits
import Onpremai.Observer.CircuitBreaker

/-!
# Circuit breaker of the change pipeline

The quality check reads whether the breaker is open, which holds of a half-open breaker too,
and forces every change to the human tier then.  So the probe that would close the breaker
is never issued.
-/

namespace Onpremai.Observer

open Onpremai.Library

def Change.isInEffect (change : Change) : Bool :=
  decide (change.status = .applied ∨ change.status = .canaryRunning)

def Consideration.putInEffect (entry : Consideration) : Option String :=
  match entry.outcome with
  | some change => if change.isInEffect then some change.id else none
  | none => none

def Offer.considerAt (now : Time) (offer : Offer) : Offer :=
  { offer with surroundings := { offer.surroundings with now } }

/-- The observer with the clock, the rollbacks that its breaker remembers, and the changes in
effect whose outcome is not recorded yet. -/
structure PipelineState extends ObserverState where
  now : Time
  rollbacks : List Time := []
  inEffect : List String := []

/-- What happens to the pipeline: time passes, the quality check considers a pair, the outcome
of a change in effect is recorded, the status is read, and the breaker is reset. -/
inductive PipelineMove where
  | wait (elapsed : Nat)
  | consider (offer : Offer)
  | validated (changeId : String)
  | rolledBack (changeId : String) (elapsed : Nat)
  | status
  | reset

namespace PipelineState

def timed (state : PipelineState) : TimedBreaker where
  now := state.now
  breaker := { toCircuitBreaker := state.breaker, rollbacks := state.rollbacks }

def withTimed (state : PipelineState) (timed : TimedBreaker) : PipelineState :=
  { state with
    breaker := timed.breaker.toCircuitBreaker
    rollbacks := timed.breaker.rollbacks
    now := timed.now }

variable (settings : ObserverSettings)

def breakerEvent (state : PipelineState) (event : BreakerEvent) : PipelineState :=
  state.withTimed (state.timed.after settings event)

def consider (state : PipelineState) (offer : Offer) : PipelineState :=
  let considered := (considerPair settings state.toObserverState (offer.considerAt state.now)).1
  { state with
    toObserverState := considered
    inEffect := state.inEffect ++
      (considered.log.drop state.log.length).filterMap Consideration.putInEffect }

def recordOutcome (state : PipelineState) (changeId : String) (event : BreakerEvent) :
    PipelineState :=
  if changeId ∈ state.inEffect then
    { state.breakerEvent settings event with inEffect := state.inEffect.erase changeId }
  else state

def step (state : PipelineState) : PipelineMove → PipelineState
  | .wait elapsed => state.breakerEvent settings (.wait elapsed)
  | .consider offer => state.consider settings offer
  | .validated changeId => state.recordOutcome settings changeId .success
  | .rolledBack changeId elapsed => state.recordOutcome settings changeId (.rollback elapsed)
  | .status => state.breakerEvent settings .getStatus
  | .reset => state.breakerEvent settings .reset

def start (autonomy : AutonomyLevel) (now : Time) : PipelineState :=
  { regulator := { autonomy }, now }

def Eligible (offer : Offer) : Prop := ∃ changeType, QualifiesForAuto settings offer changeType ∧
        snapshotReads offer.surroundings.replies = true ∧
        accepts changeType offer.surroundings.replies.execute = true ∨
      QualifiesForCanary settings offer changeType ∧
        offer.surroundings.replies.execute.hasStatus 200 = true

def PutsInEffect (state : PipelineState) (offer : Offer) (changeId : String) : Prop :=
  (state.consider settings offer).inEffect = state.inEffect ++ [changeId]

def CanStillApply (state : PipelineState) : Prop :=
  ∃ moves offer changeId, (∀ move ∈ moves, move ≠ .reset) ∧
    (run (step settings) state moves).PutsInEffect settings offer changeId

def StaysHalfOpen (state : PipelineState) (moves : List PipelineMove) : Prop :=
  Allowed (step settings) (fun state move => (step settings state move).breaker.state = .halfOpen)
    state moves

/-- Considering the pair issues the probe of a breaker whose cooldown has elapsed, and the
breaker stays half open in the moves that follow. -/
structure ProbeOut (state : PipelineState) (probe : Offer) (changeId : String)
    (since : List PipelineMove) : Prop where
  pending : ProbePending settings state.timed
  issued : state.PutsInEffect settings probe changeId
  stays : state.StaysHalfOpen settings (.consider probe :: since)

/-- What the breaker promises of a run of the pipeline. -/
structure KeepsPromises (state : PipelineState) (moves : List PipelineMove) : Prop where
  /-- The next eligible change is the probe. -/
  probe : ∀ earlier offer later, moves = earlier ++ .consider offer :: later →
    ProbePending settings (run (step settings) state earlier).timed → Eligible settings offer →
        ∃ changeId, (run (step settings) state earlier).PutsInEffect settings offer changeId
  /-- No other change is applied while the probe is out. -/
  single : ∀ earlier probe changeId since offer later,
    moves = earlier ++ .consider probe :: (since ++ .consider offer :: later) →
      (run (step settings) state earlier).ProbeOut settings probe changeId since →
        ∀ other, ¬ (run (step settings) state (earlier ++ .consider probe :: since)).PutsInEffect
          settings offer other
  /-- A successful probe closes the breaker. -/
  closes : ∀ earlier probe changeId since later,
    moves = earlier ++ .consider probe :: (since ++ .validated changeId :: later) →
      (run (step settings) state earlier).ProbeOut settings probe changeId since →
        changeId ∈ (run (step settings) state (earlier ++ .consider probe :: since)).inEffect →
          (run (step settings) state
            (earlier ++ .consider probe :: (since ++ [.validated changeId]))).breaker.state =
              .closed
  /-- A probe that is rolled back opens the breaker again. -/
  reopens : ∀ earlier probe changeId since elapsed later,
    moves = earlier ++ .consider probe :: (since ++ .rolledBack changeId elapsed :: later) →
      (run (step settings) state earlier).ProbeOut settings probe changeId since →
        changeId ∈ (run (step settings) state (earlier ++ .consider probe :: since)).inEffect →
          (run (step settings) state (earlier ++
            .consider probe :: (since ++ [.rolledBack changeId elapsed]))).breaker.state = .opened
  /-- Under a closed breaker every eligible change is applied. -/
  applies : ∀ earlier offer later, moves = earlier ++ .consider offer :: later →
    (run (step settings) state earlier).breaker.state = .closed → Eligible settings offer →
        ∃ changeId, (run (step settings) state earlier).PutsInEffect settings offer changeId
  /-- No state denies every change until a manual reset. -/
  recovers : ∀ earlier later, moves = earlier ++ later →
    (run (step settings) state earlier).CanStillApply settings

def AsksNoProbe (state : PipelineState) : PipelineMove → Prop
  | .consider offer => ¬ (ProbePending settings state.timed ∧ Eligible settings offer)
  | .validated changeId => state.inEffect = [changeId] → state.breaker.state ≠ .opened
  | .rolledBack changeId elapsed => state.inEffect = [changeId] →
      state.breaker.state = .closed ∧ ¬ WindowFull settings state.timed elapsed
  | _ => True

section

variable {settings} {state : PipelineState} {offer : Offer}

theorem isOpen_checkCooldown (now : Time) (breaker : CircuitBreaker) :
    isOpen (checkCooldown settings now breaker) = decide (breaker.state ≠ .closed) := by
  by_cases isClosed : breaker.state = .closed
  · rw [checkCooldown_of_closed isClosed, isOpen]
  · have blocks : (checkCooldown settings now breaker).state ≠ .closed :=
      fun closes => isClosed (@RollbackBreaker.closed_of_check settings now
        { toCircuitBreaker := breaker } closes)
    rw [isOpen, decide_eq_true blocks, decide_eq_true isClosed]

theorem considerPair_outcome (observer : ObserverState) (offer : Offer) :
    ∃ entry, (considerPair settings observer offer).1.log = observer.log ++ [entry] ∧
      entry.outcome = (proposedFor settings observer offer).bind fun change =>
        (applied settings observer offer change).toOption.map Prod.fst := by
  rw [considerPair]
  cases proposedFor settings observer offer with
  | none => exact ⟨_, rfl, rfl⟩
  | some change =>
    dsimp only
    cases outcome : applied settings observer offer change with
    | error error =>
      refine ⟨_, rfl, ?_⟩
      rw [Option.bind_some, outcome]
      rfl
    | ok changed =>
      refine ⟨_, rfl, ?_⟩
      rw [Option.bind_some, outcome]
      rfl

theorem putInEffect_of_entry {entry : Consideration}
    (applied : entry.autoApplied = true ∨ entry.canaryRunning = true) :
    ∃ changeId, entry.putInEffect = some changeId := by
  rw [Consideration.putInEffect]
  rw [Consideration.autoApplied, Consideration.canaryRunning] at applied
  cases outcome : entry.outcome with
  | none =>
    rw [outcome] at applied
    simp at applied
  | some change =>
    rw [outcome] at applied
    refine ⟨change.id, if_pos ?_⟩
    rcases applied with auto | canary
    · exact decide_eq_true (.inl (of_decide_eq_true auto).2)
    · exact decide_eq_true (.inr (of_decide_eq_true canary))

theorem consider_of_not_closed (blocks : state.breaker.state ≠ .closed) :
    (state.consider settings offer).inEffect = state.inEffect := by
  obtain ⟨entry, logged, outcome⟩ := @considerPair_outcome settings state.toObserverState
    (offer.considerAt state.now)
  have nothing : entry.putInEffect = none := by
    rw [Consideration.putInEffect, outcome]
    cases proposedFor settings state.toObserverState (offer.considerAt state.now) with
    | none => rfl
    | some change =>
      rw [Option.bind_some, applied, isOpen_checkCooldown, decide_eq_true blocks, apply]
      by_cases tier : change.applyTier = .human
      · rw [if_neg fun forced => forced.2 tier, tier]
        rfl
      · rw [if_pos ⟨rfl, tier⟩]
        rfl
  rw [consider, logged, List.drop_left, List.filterMap_cons_none nothing]
  exact List.append_nil _

theorem consider_timed (state : PipelineState) (offer : Offer) :
    (state.consider settings offer).timed = state.timed ∨
      (state.consider settings offer).timed = state.timed.after settings .isOpen := by
  rw [consider, considerPair]
  cases proposedFor settings state.toObserverState (offer.considerAt state.now) with
  | none => exact .inl rfl
  | some change =>
    dsimp only
    cases applied settings state.toObserverState (offer.considerAt state.now) change with
    | error error => exact .inr rfl
    | ok changed => exact .inr rfl

theorem consider_proposer (state : PipelineState) (offer : Offer) :
    (state.consider settings offer).proposer = state.proposer := by
  rw [consider, considerPair]
  cases proposedFor settings state.toObserverState (offer.considerAt state.now) with
  | none => rfl
  | some change =>
    dsimp only
    cases applied settings state.toObserverState (offer.considerAt state.now) change with
    | error error => rfl
    | ok changed => rfl

theorem not_closed_of_pending (pending : ProbePending settings state.timed) :
    state.breaker.state ≠ .closed := by
  intro isClosed
  have unchecked := pending.1
  rw [RollbackBreaker.check_of_not_due fun due => absurd (due.1.symm.trans isClosed) (by simp)]
    at unchecked
  exact absurd (unchecked.symm.trans isClosed) (by simp)

/-! ## Where the pipeline can recover -/

/-- An open breaker knows when it was tripped, and nothing has updated the proposer. -/
structure Sound (state : PipelineState) : Prop where
  tripped : state.breaker.state = .opened → ∃ trippedAt, state.breaker.trippedAt = some trippedAt
  proposer : state.proposer = {}

theorem puts_of_closed (sound : state.Sound) (isClosed : state.breaker.state = .closed)
    (eligible : Eligible settings offer) :
    ∃ changeId, state.PutsInEffect settings offer changeId := by
  obtain ⟨entry, logged, told⟩ := @considerPair_entry settings state.toObserverState
    ⟨sound.proposer, isClosed⟩ (offer.considerAt state.now)
  have applied : entry.autoApplied = true ∨ entry.canaryRunning = true := by
    obtain ⟨changeType, ⟨qualifies, accepted⟩ | ⟨qualifies, accepted⟩⟩ := eligible
    · left
      exact told.auto.mpr ⟨changeType, ⟨qualifies.known, qualifies.tier, qualifies.acts,
        qualifies.confident, qualifies.sampled, qualifies.enabled⟩, accepted⟩
    · right
      exact told.canary.mpr ⟨changeType, ⟨qualifies.known, qualifies.acts, qualifies.tier.imp
        (fun misses => ⟨misses.1, fun auto => misses.2 ⟨auto.known, auto.tier, auto.acts,
          auto.confident, auto.sampled, auto.enabled⟩⟩) id⟩, accepted⟩
  obtain ⟨changeId, put⟩ := putInEffect_of_entry applied
  refine ⟨changeId, ?_⟩
  rw [PutsInEffect, consider, logged, List.drop_left, List.filterMap_cons_some put]
  rfl

theorem after_tripped {timed : TimedBreaker}
    (tripped : timed.breaker.state = .opened →
      ∃ trippedAt, timed.breaker.trippedAt = some trippedAt) (event : BreakerEvent)
    (isOpened : (timed.after settings event).breaker.state = .opened) :
    ∃ trippedAt, (timed.after settings event).breaker.trippedAt = some trippedAt := by
  have checked : (timed.breaker.check settings timed.now).state = .opened →
      ∃ trippedAt, (timed.breaker.check settings timed.now).trippedAt = some trippedAt := by
    intro stays
    by_cases due : timed.breaker.Due settings timed.now
    · rw [RollbackBreaker.check_of_due due] at stays
      exact absurd stays (by simp)
    · rw [RollbackBreaker.check_of_not_due due] at stays ⊢
      exact tripped stays
  cases event with
  | wait elapsed => exact tripped isOpened
  | rollback elapsed =>
    simp only [TimedBreaker.after, next, TimedBreaker.react, RollbackBreaker.recordRollback]
      at isOpened ⊢
    split
    · exact ⟨_, rfl⟩
    · split
      · exact ⟨_, rfl⟩
      · next ended full =>
        rw [if_neg ended, if_neg full] at isOpened
        exact tripped isOpened
  | success =>
    simp only [TimedBreaker.after, next, TimedBreaker.react, RollbackBreaker.recordSuccess]
      at isOpened ⊢
    split
    · next isHalfOpen =>
      rw [if_pos isHalfOpen] at isOpened
      exact absurd isOpened (by simp [RollbackBreaker.close])
    · next ended =>
      rw [if_neg ended] at isOpened
      exact tripped isOpened
  | canAutoApply =>
    by_cases pending : ProbePending settings timed
    · rw [TimedBreaker.after, next, TimedBreaker.react, canAutoApply_of_pending pending] at isOpened
      exact absurd (pending.1.symm.trans isOpened) (by simp)
    · rw [TimedBreaker.after, next, TimedBreaker.react,
        canAutoApply_of_not_pending pending] at isOpened ⊢
      exact checked isOpened
  | reset => exact absurd isOpened (by simp [TimedBreaker.after, next, TimedBreaker.react,
      RollbackBreaker.reset, RollbackBreaker.close])
  | isOpen | state | getStatus => exact checked isOpened

theorem Sound.breakerEvent (sound : state.Sound) (event : BreakerEvent) :
    (state.breakerEvent settings event).Sound :=
  ⟨@after_tripped settings state.timed sound.tripped event, sound.proposer⟩

theorem Sound.consider (sound : state.Sound) (offer : Offer) :
    (state.consider settings offer).Sound := by
  refine ⟨?_, (consider_proposer state offer).trans sound.proposer⟩
  rcases @consider_timed settings state offer with same | checked
  · change (state.consider settings offer).timed.breaker.state = .opened →
      ∃ trippedAt, (state.consider settings offer).timed.breaker.trippedAt = some trippedAt
    rw [same]
    exact sound.tripped
  · change (state.consider settings offer).timed.breaker.state = .opened →
      ∃ trippedAt, (state.consider settings offer).timed.breaker.trippedAt = some trippedAt
    rw [checked]
    exact @after_tripped settings state.timed sound.tripped .isOpen

theorem Sound.recordOutcome (sound : state.Sound) (changeId : String) (event : BreakerEvent) :
    (state.recordOutcome settings changeId event).Sound := by
  rw [PipelineState.recordOutcome]
  split
  · have kept := @Sound.breakerEvent settings state sound event
    exact ⟨kept.tripped, kept.proposer⟩
  · exact sound

theorem Sound.step (sound : state.Sound) (move : PipelineMove) :
    (state.step settings move).Sound := by
  cases move with
  | wait elapsed => exact sound.breakerEvent (.wait elapsed)
  | consider offer => exact sound.consider offer
  | validated changeId => exact sound.recordOutcome changeId .success
  | rolledBack changeId elapsed => exact sound.recordOutcome changeId (.rollback elapsed)
  | status => exact sound.breakerEvent .getStatus
  | reset => exact sound.breakerEvent .reset

def Hopeful (state : PipelineState) : Prop := state.breaker.state = .closed ∨ state.inEffect ≠ []

theorem hopeless_step (hopeless : ¬ state.Hopeful) {move : PipelineMove}
    (automatic : move ≠ .reset) : ¬ (state.step settings move).Hopeful := by
  rw [Hopeful, not_or, not_not] at hopeless ⊢
  obtain ⟨blocks, empty⟩ := hopeless
  have unrecorded : ∀ changeId event,
      state.recordOutcome settings changeId event = state := by
    intro changeId event
    rw [recordOutcome, empty]
    exact if_neg (List.not_mem_nil)
  have polled : ∀ event : BreakerEvent, event.isPoll = true →
      (state.timed.after settings event).breaker.state ≠ .closed := by
    intro event poll closes
    rcases @after_closed settings state.timed event blocks closes with same | ⟨same, _⟩
    · rw [same] at poll
      exact absurd poll Bool.false_ne_true
    · rw [same] at poll
      exact absurd poll Bool.false_ne_true
  cases move with
  | wait elapsed => exact ⟨blocks, empty⟩
  | consider offer =>
    refine ⟨?_, (consider_of_not_closed blocks).trans empty⟩
    rcases @consider_timed settings state offer with same | checked
    · have kept := congrArg (fun timed => timed.breaker.state) same
      exact fun closes => blocks (kept.symm.trans closes)
    · have kept := congrArg (fun timed => timed.breaker.state) checked
      exact fun closes => polled .isOpen rfl (kept.symm.trans closes)
  | validated changeId =>
    rw [step, unrecorded]
    exact ⟨blocks, empty⟩
  | rolledBack changeId elapsed =>
    rw [step, unrecorded]
    exact ⟨blocks, empty⟩
  | status => exact ⟨polled .getStatus rfl, empty⟩
  | reset => exact absurd rfl automatic

def routineOffer : Offer where
  diagnosis := { id := "diag_1", fixType := "routing", confidence := .finite 1 }
  issue := { id := "issue_1", task := "evaluate" }
  surroundings := {
    changeId := "chg_1"
    now := 0
    replies := {
      metrics := .answered 200 (.obj [])
      routing := .answered 200 (.obj [])
      execute := .answered 200 (.obj [])
      appliedAt := 0 } }

theorem eligible_routineOffer (settings : ObserverSettings) :
    Eligible settings routineOffer := by
  have acts : routineOffer.diagnosis.confidence.below (6 / 10) = false := by decide +kernel
  have known : changeTypeOf routineOffer.diagnosis.fixType = some .routing := by decide
  refine ⟨.routing, ?_⟩
  by_cases auto : QualifiesForAuto settings routineOffer .routing
  · exact .inl ⟨auto, rfl, rfl⟩
  · exact .inr ⟨⟨known, acts, .inl ⟨rfl, auto⟩⟩, rfl⟩

theorem canStillApply_of_closed (moves : List PipelineMove) (sound : state.Sound)
    (automatic : ∀ move ∈ moves, move ≠ .reset)
    (isClosed : (run (step settings) state moves).breaker.state = .closed) :
    state.CanStillApply settings := by
  have reached : (run (step settings) state moves).Sound :=
    run_always (step settings) Sound (fun _ move sound => sound.step move) sound moves
  obtain ⟨changeId, puts⟩ := puts_of_closed reached isClosed (eligible_routineOffer settings)
  exact ⟨moves, routineOffer, changeId, automatic, puts⟩

theorem validated_of_halfOpen {changeId : String} (recorded : changeId ∈ state.inEffect)
    (isHalfOpen : state.breaker.state = .halfOpen) :
    (state.step settings (.validated changeId)).breaker.state = .closed := by
  have closes : (state.timed.after settings .success).breaker.state = .closed := by
    rw [TimedBreaker.after, next, TimedBreaker.react, RollbackBreaker.recordSuccess]
    exact congrArg (fun breaker : RollbackBreaker => breaker.state) (if_pos isHalfOpen)
  rw [step, recordOutcome, if_pos recorded]
  exact closes

theorem rolledBack_of_halfOpen {changeId : String} (recorded : changeId ∈ state.inEffect)
    (isHalfOpen : state.breaker.state = .halfOpen) (elapsed : Nat) :
    (state.step settings (.rolledBack changeId elapsed)).breaker.state = .opened := by
  have opens : (state.timed.after settings (.rollback elapsed)).breaker.state = .opened := by
    rw [TimedBreaker.after, next, TimedBreaker.react, RollbackBreaker.recordRollback]
    exact congrArg (fun recorded : RollbackBreaker × Bool => recorded.1.state)
      (if_pos isHalfOpen)
  rw [step, recordOutcome, if_pos recorded]
  exact opens

theorem canStillApply_iff (sound : state.Sound) :
    state.CanStillApply settings ↔ state.Hopeful := by
  constructor
  · rintro ⟨moves, offer, changeId, automatic, puts⟩
    by_contra hopeless
    have stays := run_invariant (step settings) (fun move => move ≠ .reset)
      (fun state => ¬ state.Hopeful) (fun state move automatic hopeless =>
        hopeless_step hopeless automatic) automatic hopeless
    rw [Hopeful, not_or] at stays
    have nothing := @consider_of_not_closed settings _ offer stays.1
    exact absurd (congrArg List.length (nothing.symm.trans puts)) (by simp)
  · rintro (isClosed | waits)
    · exact canStillApply_of_closed [] sound (by simp) isClosed
    · obtain ⟨changeId, recorded⟩ := List.exists_mem_of_ne_nil _ waits
      cases current : state.breaker.state with
      | closed => exact canStillApply_of_closed [] sound (by simp) current
      | halfOpen =>
        apply canStillApply_of_closed [.validated changeId] sound (by simp)
        exact validated_of_halfOpen recorded current
      | opened =>
        obtain ⟨trippedAt, tripped⟩ := sound.tripped current
        let pause := ((trippedAt : Int) + settings.circuitBreakerCooldownHours * 3600000000).toNat
        apply canStillApply_of_closed [.wait pause, .status, .validated changeId] sound (by simp)
        apply @validated_of_halfOpen settings (run (step settings) state [.wait pause, .status])
          changeId recorded
        have due : RollbackBreaker.Due settings (state.now + pause) state.timed.breaker := by
          refine ⟨current, trippedAt, tripped, ?_⟩
          have enough := Int.self_le_toNat ((trippedAt : Int) +
            settings.circuitBreakerCooldownHours * 3600000000)
          push_cast
          omega
        exact congrArg (fun breaker => breaker.state) (RollbackBreaker.check_of_due due)

/-! ## Runs -/

variable {moves : List PipelineMove}

theorem hopeful_last {changeId : String} (last : state.inEffect = [changeId])
    (event : BreakerEvent) :
    (state.recordOutcome settings changeId event).Hopeful ↔
      (state.timed.after settings event).breaker.state = .closed := by
  have recorded : changeId ∈ state.inEffect := last ▸ List.mem_singleton_self changeId
  have empty : state.inEffect.erase changeId = [] := by
    rw [last]
    simp
  rw [recordOutcome, if_pos recorded, Hopeful, empty]
  exact or_iff_left fun waits => waits rfl

theorem hopeful_other {changeId : String} (hopeful : state.Hopeful)
    (others : state.inEffect ≠ [changeId]) (event : BreakerEvent) :
    (state.recordOutcome settings changeId event).Hopeful := by
  rw [recordOutcome]
  split
  · next recorded =>
    right
    intro empty
    have erased : state.inEffect.erase changeId = [] := empty
    have length := List.length_erase_of_mem recorded
    rw [erased, List.length_nil] at length
    obtain ⟨first, rest, split⟩ := List.exists_cons_of_ne_nil (List.ne_nil_of_mem recorded)
    rw [split] at recorded length others
    cases rest with
    | nil => exact others (congrArg (fun id => [id]) (List.mem_singleton.mp recorded).symm)
    | cons next rest => simp at length
  · exact hopeful

theorem success_closed_iff (state : PipelineState) :
    (state.timed.after settings .success).breaker.state = .closed ↔
      state.breaker.state ≠ .opened := by
  change (state.timed.breaker.recordSuccess).state = .closed ↔ _
  have same : state.timed.breaker.state = state.breaker.state := rfl
  rw [RollbackBreaker.recordSuccess, same]
  cases current : state.breaker.state with
  | closed => simp [same, current]
  | opened => simp [same, current]
  | halfOpen => simp [RollbackBreaker.close]

theorem rollback_closed_iff (state : PipelineState) (elapsed : Nat) :
    (state.timed.after settings (.rollback elapsed)).breaker.state = .closed ↔
      state.breaker.state = .closed ∧ ¬ WindowFull settings state.timed elapsed := by
  have same : state.timed.breaker.state = state.breaker.state := rfl
  by_cases isClosed : state.breaker.state = .closed
  · have opens := @after_opened settings state.timed isClosed (.rollback elapsed)
    rw [and_iff_right isClosed]
    constructor
    · intro closes full
      have opened := opens.mpr ⟨elapsed, rfl, full⟩
      exact absurd (opened.symm.trans closes) (by simp)
    · intro few
      change (state.timed.breaker.recordRollback settings state.timed.now
        (state.timed.now + elapsed)).1.state = .closed
      rw [RollbackBreaker.recordRollback, if_neg (by simp [RollbackBreaker.append, same, isClosed])]
      exact (congrArg (fun recorded : RollbackBreaker × Bool => recorded.1.state)
        (if_neg few)).trans isClosed
  · apply iff_of_false
    · intro closes
      rcases @after_closed settings state.timed (.rollback elapsed) isClosed closes with
        reset | ⟨success, _⟩
      · cases reset
      · cases success
    · exact fun both => isClosed both.1

theorem poll_closed (isClosed : state.breaker.state = .closed) :
    (state.timed.after settings .isOpen).breaker.state = .closed := by
  have unchecked : state.timed.breaker.check settings state.timed.now = state.timed.breaker :=
    RollbackBreaker.check_of_not_due fun due => absurd (due.1.symm.trans isClosed) (by simp)
  exact (congrArg (fun breaker => breaker.state) unchecked).trans isClosed

theorem hopeful_step (hopeful : state.Hopeful) {move : PipelineMove}
    (allowed : state.AsksNoProbe settings move) : (state.step settings move).Hopeful := by
  cases move with
  | wait elapsed => exact hopeful
  | consider offer =>
    rcases hopeful with isClosed | waits
    · left
      rcases @consider_timed settings state offer with same | checked
      · exact (congrArg (fun timed => timed.breaker.state) same).trans isClosed
      · exact (congrArg (fun timed => timed.breaker.state) checked).trans (poll_closed isClosed)
    · right
      intro empty
      rw [step, PipelineState.consider] at empty
      exact waits (List.append_eq_nil_iff.mp empty).1
  | validated changeId =>
    by_cases last : state.inEffect = [changeId]
    · exact (hopeful_last last .success).mpr ((success_closed_iff state).mpr (allowed last))
    · exact hopeful_other hopeful last .success
  | rolledBack changeId elapsed =>
    by_cases last : state.inEffect = [changeId]
    · exact (hopeful_last last (.rollback elapsed)).mpr
        ((rollback_closed_iff state elapsed).mpr (allowed last))
    · exact hopeful_other hopeful last (.rollback elapsed)
  | status =>
    rcases hopeful with isClosed | waits
    · exact .inl (poll_closed isClosed)
    · exact .inr waits
  | reset => exact .inl rfl

theorem ProbeOut.halfOpen {probe : Offer} {changeId : String}
    (out : state.ProbeOut settings probe changeId moves) :
    (run (step settings) state (.consider probe :: moves)).breaker.state = .halfOpen := by
  have stays := out.stays
  rw [run_cons]
  apply run_allowed (step settings) (fun state => state.breaker.state = .halfOpen) _ stays.2
  · exact stays.1
  · exact fun _ _ allowed _ => allowed

theorem sound_start (autonomy : AutonomyLevel) (now : Time) : (start autonomy now).Sound :=
  ⟨fun isOpened => absurd isOpened (by simp [start]), rfl⟩

theorem keepsPromises_of_asksNoProbe (sound : state.Sound) (hopeful : state.Hopeful)
    (all : Allowed (step settings) (AsksNoProbe settings) state moves) :
    state.KeepsPromises settings moves where
  probe := by
    intro earlier offer later split pending eligible
    exact absurd ⟨pending, eligible⟩
      ((allowed_iff_passed _ _ _ _).mp all earlier (.consider offer) later split)
  single := by
    intro earlier probe changeId since offer later split out other puts
    have isHalfOpen := out.halfOpen
    rw [← run_append] at isHalfOpen
    have nothing := @consider_of_not_closed settings
      (run (step settings) state (earlier ++ .consider probe :: since)) offer
      (by simp [isHalfOpen])
    exact absurd (congrArg List.length (nothing.symm.trans puts)) (by simp)
  closes := by
    intro earlier probe changeId since later split out recorded
    have isHalfOpen := out.halfOpen
    rw [← run_append] at isHalfOpen
    rw [← List.cons_append, ← List.append_assoc, run_concat]
    exact validated_of_halfOpen recorded isHalfOpen
  reopens := by
    intro earlier probe changeId since elapsed later split out recorded
    have isHalfOpen := out.halfOpen
    rw [← run_append] at isHalfOpen
    rw [← List.cons_append, ← List.append_assoc, run_concat]
    exact rolledBack_of_halfOpen recorded isHalfOpen elapsed
  applies := by
    intro earlier offer later split isClosed eligible
    apply puts_of_closed _ isClosed eligible
    exact run_always (step settings) Sound (fun _ move sound => sound.step move) sound earlier
  recovers := by
    intro earlier later split
    rw [split, allowed_append] at all
    have reached := run_allowed (step settings) (fun state => state.Sound ∧ state.Hopeful)
      (fun _ move allowed holds => ⟨holds.1.step move, hopeful_step holds.2 allowed⟩) all.1
      ⟨sound, hopeful⟩
    exact (canStillApply_iff reached.1).mpr reached.2

theorem asksNoProbe_of_keepsPromises (sound : state.Sound)
    (keeps : state.KeepsPromises settings moves) :
    Allowed (step settings) (AsksNoProbe settings) state moves := by
  rw [allowed_iff_passed]
  intro earlier move later split
  have reached : (run (step settings) state earlier).Sound :=
    run_always (step settings) Sound (fun _ move sound => sound.step move) sound earlier
  have hopeful : (step settings (run (step settings) state earlier) move).Hopeful := by
    have after := keeps.recovers (earlier ++ [move]) later (by simp [split])
    rw [run_concat] at after
    exact (canStillApply_iff (reached.step move)).mp after
  cases move with
  | wait elapsed => trivial
  | consider offer =>
    rintro ⟨pending, eligible⟩
    obtain ⟨changeId, puts⟩ := keeps.probe earlier offer later split pending eligible
    have nothing := @consider_of_not_closed settings _ offer (not_closed_of_pending pending)
    exact absurd (congrArg List.length (nothing.symm.trans puts)) (by simp)
  | validated changeId =>
    intro last
    exact (success_closed_iff _).mp ((hopeful_last last .success).mp hopeful)
  | rolledBack changeId elapsed =>
    intro last
    exact (rollback_closed_iff _ elapsed).mp ((hopeful_last last (.rollback elapsed)).mp hopeful)
  | status => trivial
  | reset => trivial

end

end PipelineState

open PipelineState

/-- In a run of the pipeline the next eligible change after the cooldown is applied as the
single probe, its success closes the breaker and its rollback reopens it, and no state denies
every change until a manual reset, exactly if no eligible change meets a half-open breaker,
and recording the outcome of the last change in effect leaves the breaker closed. -/
theorem pipeline_keeps_promises_iff (settings : ObserverSettings) (autonomy : AutonomyLevel)
    (now : Time) (moves : List PipelineMove) :
    (start autonomy now).KeepsPromises settings moves ↔
      Allowed (step settings) (AsksNoProbe settings) (start autonomy now) moves :=
  ⟨asksNoProbe_of_keepsPromises (sound_start autonomy now),
    keepsPromises_of_asksNoProbe (sound_start autonomy now) (.inl rfl)⟩

/-- Three changes are applied and rolled back; twelve hours later the next change is
considered. -/
def threeRollbacks : List PipelineMove :=
  [.consider routineOffer, .rolledBack "chg_1" 0, .consider routineOffer, .rolledBack "chg_1" 0,
    .consider routineOffer, .rolledBack "chg_1" 0, .wait 43200000000]

/-- The change after the cooldown is eligible and is not applied, and from then on nothing is
applied until a manual reset. -/
theorem probe_is_never_issued :
    let state := run (step {}) (start {} 0) threeRollbacks
    ProbePending {} state.timed ∧ Eligible {} routineOffer ∧
      (state.consider {} routineOffer).inEffect = state.inEffect ∧
      ¬ state.CanStillApply {} ∧
      ¬ (start {} 0).KeepsPromises {} (threeRollbacks ++ [.consider routineOffer]) := by
  have pending : ProbePending {} (run (step {}) (start {} 0) threeRollbacks).timed := by
    decide +kernel
  have empty : (run (step {}) (start {} 0) threeRollbacks).inEffect = [] := by decide +kernel
  have sound : (run (step {}) (start {} 0) threeRollbacks).Sound :=
    run_always (step {}) Sound (fun _ move sound => sound.step move) (sound_start {} 0) _
  have nothing := @consider_of_not_closed {} _ routineOffer (not_closed_of_pending pending)
  refine ⟨pending, eligible_routineOffer {}, nothing, ?_, ?_⟩
  · rw [canStillApply_iff sound, Hopeful, empty]
    rintro (isClosed | waits)
    · exact not_closed_of_pending pending isClosed
    · exact waits rfl
  · intro keeps
    obtain ⟨changeId, puts⟩ := keeps.probe threeRollbacks routineOffer [] rfl pending
      (eligible_routineOffer {})
    exact absurd (congrArg List.length (nothing.symm.trans puts)) (by simp)

end Onpremai.Observer
