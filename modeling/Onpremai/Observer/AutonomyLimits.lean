import Onpremai.Observer.QualityCheck

/-!
# Limits of the observer's autonomy

Over a whole run the changes that were applied automatically should stay within the limits
of the autonomy level.  The proposer looks at counters that no component updates and at the
settings instead of the level, so that the limits hold only as far as the diagnoses stay
within them by themselves.
-/

namespace Onpremai.Observer

open Onpremai.Library

namespace Consideration

variable (entry : Consideration)

def autoApplied : Bool :=
  match entry.outcome with
  | some change => decide (change.applyTier = .auto ∧ change.status = .applied)
  | none => false

def canaryRunning : Bool :=
  match entry.outcome with
  | some change => decide (change.status = .canaryRunning)
  | none => false

def failed (changeType : ChangeType) : Bool :=
  match entry.outcome with
  | some change =>
    decide (change.changeType = changeType ∧
      (change.status = .rolledBack ∨ change.status = .canaryFailed))
  | none => false

def autoAppliedOn (day : Day) : Bool := entry.autoApplied && decide (entry.appliedAt.day = day)

end Consideration

/-- The autonomy level allows to apply a change of the type with this confidence and
number of samples. -/
structure AutonomyLevel.Allows (autonomy : AutonomyLevel) (changeType : ChangeType)
    (confidence : FloatValue) (sampleCount : Int) : Prop where
  type : changeType.value ∈ autonomy.allowedAutoTypes
  confident : confidence.atLeast autonomy.minConfidence = true
  sampled : autonomy.minSamples ≤ sampleCount

/-- There is room for a change of the type to be applied automatically on the day. -/
structure HasRoom (log : List Consideration) (autonomy : AutonomyLevel) (day : Day)
    (changeType : ChangeType) : Prop where
  daily : ((log.countP fun entry => entry.autoAppliedOn day : Nat) : Int) <
    autonomy.maxAutoAppliesPerDay
  unfailed : ∀ entry ∈ log, entry.failed changeType = false

def HasCanaryRoom (settings : ObserverSettings) (log : List Consideration) : Prop :=
  ((log.countP Consideration.canaryRunning : Nat) : Int) < settings.maxConcurrentCanaries

/-- The entry respects the limits after the entries before it. -/
structure RespectsLimits (settings : ObserverSettings) (earlier : List Consideration)
    (entry : Consideration) : Prop where
  auto : entry.autoApplied = true → ∀ change, entry.outcome = some change →
    entry.autonomy.Allows change.changeType change.confidence change.sampleCount ∧
      HasRoom earlier entry.autonomy entry.appliedAt.day change.changeType
  canary : entry.canaryRunning = true → HasCanaryRoom settings earlier

def WithinLimits (settings : ObserverSettings) (log : List Consideration) : Prop :=
  ∀ earlier entry later, log = earlier ++ entry :: later → RespectsLimits settings earlier entry

/-- A move of the observer. -/
inductive ObserverMove where
  | qualityCheck (cycle : Cycle)
  | selfEval (now : Time)
  | resetBreaker

section

variable (settings : ObserverSettings) (decoders : Decoders)

def observerStep (state : ObserverState) : ObserverMove → ObserverState
  | .qualityCheck cycle => runQualityCheck settings state decoders cycle
  | .selfEval now => { state with regulator := evaluate settings state.regulator now }
  | .resetBreaker => { state with breaker := Onpremai.Observer.resetBreaker }

def started (autonomy : AutonomyLevel) : ObserverState :=
  { regulator := { autonomy } }

def RunWithinLimits (state : ObserverState) (moves : List ObserverMove) : Prop :=
  ∀ earlier later, moves = earlier ++ later →
    WithinLimits settings (run (observerStep settings decoders) state earlier).log

/-- By the settings alone, the diagnosis qualifies for automatic application as a change of
the type. -/
structure QualifiesForAuto (offer : Offer) (changeType : ChangeType) : Prop where
  known : changeTypeOf offer.diagnosis.fixType = some changeType
  tier : defaultTier changeType = .auto
  acts : offer.diagnosis.confidence.below (6 / 10) = false
  confident : offer.diagnosis.confidence.below settings.autoApplyMinConfidence = false
  sampled : settings.autoApplyMinSamples ≤ offer.issue.sampleCount
  enabled : 0 < settings.maxAutoAppliesPerDay

/-- By the settings alone, the diagnosis qualifies for a canary: a change that misses the
thresholds of automatic application, or one that starts as a canary. -/
structure QualifiesForCanary (offer : Offer) (changeType : ChangeType) : Prop where
  known : changeTypeOf offer.diagnosis.fixType = some changeType
  acts : offer.diagnosis.confidence.below (6 / 10) = false
  tier : defaultTier changeType = .auto ∧ ¬ QualifiesForAuto settings offer changeType ∨
    defaultTier changeType = .canary ∧ offer.diagnosis.confidence.below (7 / 10) = false ∧
      0 < settings.maxConcurrentCanaries

/-- The requests for the snapshot do not raise. -/
def snapshotReads (replies : Replies) : Bool :=
  match replies.metrics, replies.routing with
  | .raised _, _ => false
  | .answered _ _, .raised _ => false
  | _, _ => true

def accepts (changeType : ChangeType) (reply : HttpReply) : Bool :=
  reply.hasStatus 200 || (decide (changeType = .pattern) && reply.hasStatus 201)

/-- The diagnosis stays within the limits: if it qualifies for automatic application and is
accepted, the level allows it and there is room for it, and if it qualifies for a canary
and is accepted, there is room for a canary. -/
structure StaysWithin (state : ObserverState) (offer : Offer) : Prop where
  auto : ∀ changeType, QualifiesForAuto settings offer changeType →
    snapshotReads offer.surroundings.replies = true →
      accepts changeType offer.surroundings.replies.execute = true →
        state.regulator.autonomy.Allows changeType offer.diagnosis.confidence
            offer.issue.sampleCount ∧
          HasRoom state.log state.regulator.autonomy
            offer.surroundings.replies.appliedAt.day changeType
  canary : ∀ changeType, QualifiesForCanary settings offer changeType →
    offer.surroundings.replies.execute.hasStatus 200 = true → HasCanaryRoom settings state.log

def OffersStayWithin : ObserverState → List Offer → Prop
  | _, [] => True
  | state, offer :: rest =>
    StaysWithin settings state offer ∧ ((considerPair settings state offer).2 = false →
        OffersStayWithin (considerPair settings state offer).1 rest)

def MoveStaysWithin (state : ObserverState) : ObserverMove → Prop
  | .qualityCheck cycle =>
    ∀ diagnoses, diagnoseBatch decoders settings cycle.calls = .ok diagnoses →
      OffersStayWithin settings state (offersOf diagnoses cycle)
  | _ => True

end

/-- No component has updated the proposer, and nothing has tripped the breaker. -/
structure Untouched (state : ObserverState) : Prop where
  proposer : state.proposer = {}
  breaker : state.breaker.state = .closed

section

variable {settings : ObserverSettings}

def tierBySettings (settings : ObserverSettings) (changeType : ChangeType)
    (confidence : FloatValue) (sampleCount : Int) : ApplyTier :=
  match defaultTier changeType with
  | .auto =>
    if confidence.below settings.autoApplyMinConfidence = false ∧
        settings.autoApplyMinSamples ≤ sampleCount ∧ 0 < settings.maxAutoAppliesPerDay
    then .auto else .canary
  | .canary =>
    if confidence.below (7 / 10) = false ∧ 0 < settings.maxConcurrentCanaries
    then .canary else .human
  | .human => .human

theorem classifyTier_untouched (changeType : ChangeType) (confidence : FloatValue)
    (sampleCount : Int) :
    classifyTier settings {} changeType confidence sampleCount =
      tierBySettings settings changeType confidence sampleCount := by
  rw [classifyTier, tierBySettings, if_neg (by simp)]
  cases defaultTier changeType with
  | auto =>
    cases confidence.below settings.autoApplyMinConfidence with
    | true => rfl
    | false =>
      by_cases few : sampleCount < settings.autoApplyMinSamples
      · simp [few]
      · by_cases none : settings.maxAutoAppliesPerDay ≤ 0
        · simp [few, none]
        · simp [few, none]
  | canary =>
    cases confidence.below (7 / 10) with
    | true => rfl
    | false =>
      by_cases none : settings.maxConcurrentCanaries ≤ 0
      · simp [none]
      · simp [none]
  | human => rfl

variable {state : ObserverState} {offer : Offer} {changeType : ChangeType}

def changeFor (settings : ObserverSettings) (offer : Offer) (changeType : ChangeType) :
    Change where
  id := offer.surroundings.changeId
  changeType := changeType
  applyTier := classifyTier settings {} changeType offer.diagnosis.confidence
    offer.issue.sampleCount
  task := offer.issue.task
  model := offer.issue.model
  description := offer.diagnosis.fixDescription
  configDiff := buildConfigDiff changeType offer.diagnosis offer.issue
  confidence := offer.diagnosis.confidence
  sampleCount := offer.issue.sampleCount
  diagnosisId := offer.diagnosis.id
  issueId := offer.issue.id
  proposedAt := offer.surroundings.now

theorem proposedFor_known (untouched : Untouched state)
    (acts : offer.diagnosis.confidence.below (6 / 10) = false)
    (known : changeTypeOf offer.diagnosis.fixType = some changeType) :
    proposedFor settings state offer = some (changeFor settings offer changeType) := by
  rw [proposedFor, propose, acts, known, untouched.proposer]
  rfl

theorem proposedFor_unknown
    (unknown : ¬ (offer.diagnosis.confidence.below (6 / 10) = false ∧
      ∃ changeType, changeTypeOf offer.diagnosis.fixType = some changeType)) :
    proposedFor settings state offer = none := by
  rw [proposedFor, propose]
  split
  · rfl
  · next acts =>
    rw [Bool.not_eq_true] at acts
    cases known : changeTypeOf offer.diagnosis.fixType with
    | none => rfl
    | some changeType => exact absurd ⟨acts, changeType, known⟩ unknown

theorem changeFor_auto_iff (acts : offer.diagnosis.confidence.below (6 / 10) = false)
    (known : changeTypeOf offer.diagnosis.fixType = some changeType) :
    (changeFor settings offer changeType).applyTier = .auto ↔
      QualifiesForAuto settings offer changeType := by
  rw [changeFor, classifyTier_untouched, tierBySettings]
  constructor
  · intro auto
    cases tier : defaultTier changeType with
    | auto =>
      rw [tier] at auto
      dsimp only at auto
      split at auto
      · next meets => exact ⟨known, tier, acts, meets.1, meets.2.1, meets.2.2⟩
      · cases auto
    | canary =>
      rw [tier] at auto
      dsimp only at auto
      split at auto
      · cases auto
      · cases auto
    | human =>
      rw [tier] at auto
      cases auto
  · intro qualifies
    rw [qualifies.tier]
    exact if_pos ⟨qualifies.confident, qualifies.sampled, qualifies.enabled⟩

theorem changeFor_canary_iff (acts : offer.diagnosis.confidence.below (6 / 10) = false)
    (known : changeTypeOf offer.diagnosis.fixType = some changeType) :
    (changeFor settings offer changeType).applyTier = .canary ↔
      QualifiesForCanary settings offer changeType := by
  rw [changeFor, classifyTier_untouched, tierBySettings]
  constructor
  · intro canary
    refine ⟨known, acts, ?_⟩
    cases tier : defaultTier changeType with
    | auto =>
      rw [tier] at canary
      refine .inl ⟨rfl, fun qualifies => ?_⟩
      have meets := And.intro qualifies.confident
        (And.intro qualifies.sampled qualifies.enabled)
      dsimp only at canary
      rw [if_pos meets] at canary
      cases canary
    | canary =>
      rw [tier] at canary
      dsimp only at canary
      split at canary
      · next meets => exact .inr ⟨rfl, meets.1, meets.2⟩
      · cases canary
    | human =>
      rw [tier] at canary
      cases canary
  · intro qualifies
    rcases qualifies.tier with ⟨tier, misses⟩ | ⟨tier, confident, enabled⟩
    · rw [tier]
      exact if_neg fun meets => misses ⟨known, tier, acts, meets.1, meets.2.1, meets.2.2⟩
    · rw [tier]
      exact if_pos ⟨confident, enabled⟩

theorem takeSnapshot_returns_iff (change : Change) (replies : Replies) :
    (∃ snapshot, takeSnapshot change replies = .ok snapshot) ↔
      snapshotReads replies = true := by
  rw [takeSnapshot, snapshotReads]
  cases replies.metrics with
  | raised error => simp
  | httpError => simp
  | answered status body =>
    cases routed : replies.routing with
    | raised error => simp [snapshotRouting, routed]
    | httpError => simp [snapshotRouting, routed]
    | answered status body => simp [snapshotRouting, routed]

theorem executeChange_iff {change : Change} (tier : defaultTier change.changeType = .auto)
    (replies : Replies) :
    executeChange change replies = .ok true ↔
      accepts change.changeType replies.execute = true := by
  rw [executeChange, accepts]
  cases executed : replies.execute with
  | raised error =>
    cases typed : change.changeType <;> simp [typed, HttpReply.hasStatus, defaultTier] at tier ⊢
  | httpError =>
    cases typed : change.changeType <;> simp [typed, HttpReply.hasStatus, defaultTier] at tier ⊢
  | answered status body =>
    cases typed : change.changeType <;> simp [typed, HttpReply.hasStatus, defaultTier] at tier ⊢

section

variable {applier : ApplierState} {change : Change}

theorem applyAuto_applied_iff (tier : defaultTier change.changeType = .auto) (replies : Replies) :
    (∃ outcome, applyAuto settings applier change replies = .ok outcome ∧
      outcome.1.status = .applied) ↔
        snapshotReads replies = true ∧ accepts change.changeType replies.execute = true := by
  rw [← takeSnapshot_returns_iff change, ← executeChange_iff tier, applyAuto]
  cases takeSnapshot change replies with
  | error error => simp [bind, Except.bind]
  | ok snapshot =>
    cases executeChange change replies with
    | error error => simp [bind, Except.bind]
    | ok success =>
      cases success with
      | true => simp [bind, Except.bind, pure, Except.pure]
      | false => simp [bind, Except.bind, pure, Except.pure]

theorem applyAuto_keeps {replies : Replies} {outcome : Change × ApplierState}
    (returned : applyAuto settings applier change replies = .ok outcome) :
    outcome.1.changeType = change.changeType ∧ outcome.1.applyTier = change.applyTier ∧
      outcome.1.confidence = change.confidence ∧ outcome.1.sampleCount = change.sampleCount ∧
        outcome.1.status ≠ .canaryRunning := by
  simp only [applyAuto, bind_eq_ok] at returned
  rcases returned with ⟨snapshot, -, success, -, made⟩
  cases success with
  | true =>
    cases made
    exact ⟨rfl, rfl, rfl, rfl, ChangeStatus.noConfusion⟩
  | false =>
    cases made
    exact ⟨rfl, rfl, rfl, rfl, ChangeStatus.noConfusion⟩

end

theorem applyCanary_keeps {change changed : Change} {replies : Replies}
    (returned : applyCanary change replies = .ok changed) :
    changed.changeType = change.changeType ∧ changed.applyTier = change.applyTier ∧
      changed.confidence = change.confidence ∧ changed.sampleCount = change.sampleCount ∧
        (changed.status = .canaryRunning ↔ replies.execute.hasStatus 200 = true) := by
  rw [applyCanary] at returned
  cases executed : replies.execute with
  | raised error =>
    rw [executed] at returned
    cases returned
  | httpError =>
    rw [executed] at returned
    cases returned
    simp [HttpReply.hasStatus]
  | answered status body =>
    rw [executed] at returned
    dsimp only at returned
    split at returned
    · next success =>
      cases returned
      simp [HttpReply.hasStatus, success]
    · next failure =>
      cases returned
      simp [HttpReply.hasStatus, failure]

theorem applyCanary_returns {change : Change} {replies : Replies}
    (status : replies.execute.hasStatus 200 = true) :
    ∃ changed, applyCanary change replies = .ok changed := by
  rw [applyCanary]
  cases executed : replies.execute with
  | raised error =>
    rw [executed] at status
    cases status
  | httpError => exact ⟨_, rfl⟩
  | answered status body =>
    dsimp only
    split
    · exact ⟨_, rfl⟩
    · exact ⟨_, rfl⟩

/-! ## One pair -/

/-- What the log says about an offer that was considered. -/
structure EntryOf (settings : ObserverSettings) (state : ObserverState) (offer : Offer)
    (entry : Consideration) : Prop where
  appliedAt : entry.appliedAt = offer.surroundings.replies.appliedAt
  autonomy : entry.autonomy = state.regulator.autonomy
  outcome : ∀ change, entry.outcome = some change →
    changeTypeOf offer.diagnosis.fixType = some change.changeType ∧
      change.confidence = offer.diagnosis.confidence ∧ change.sampleCount = offer.issue.sampleCount
  auto : entry.autoApplied = true ↔ ∃ changeType, QualifiesForAuto settings offer changeType ∧
      snapshotReads offer.surroundings.replies = true ∧
        accepts changeType offer.surroundings.replies.execute = true
  canary : entry.canaryRunning = true ↔ ∃ changeType, QualifiesForCanary settings offer changeType ∧
      offer.surroundings.replies.execute.hasStatus 200 = true

def appliedInTier (settings : ObserverSettings) (state : ObserverState) (offer : Offer)
    (change : Change) : Except PyError (Change × ApplierState) :=
  match change.applyTier with
  | .auto => applyAuto settings state.applier change offer.surroundings.replies
  | .canary => do
    let change ← applyCanary change offer.surroundings.replies
    return (change, state.applier)
  | .human => .ok (queueForHuman state.applier change)

theorem applied_untouched (untouched : Untouched state) (change : Change) :
    applied settings state offer change = appliedInTier settings state offer change := by
  have closed : isOpen (checkCooldown settings offer.surroundings.now state.breaker) = false := by
    rw [checkCooldown_of_closed untouched.breaker, isOpen, untouched.breaker]
    rfl
  rw [applied, closed, apply]
  simp only [Bool.false_eq_true, false_and, if_false]
  rfl

theorem entryOf_none {entry : Consideration}
    (appliedAt : entry.appliedAt = offer.surroundings.replies.appliedAt)
    (autonomy : entry.autonomy = state.regulator.autonomy) (outcome : entry.outcome = none)
    (notAuto : ¬ ∃ changeType, QualifiesForAuto settings offer changeType ∧
      snapshotReads offer.surroundings.replies = true ∧
        accepts changeType offer.surroundings.replies.execute = true)
    (notCanary : ¬ ∃ changeType, QualifiesForCanary settings offer changeType ∧
      offer.surroundings.replies.execute.hasStatus 200 = true) :
    EntryOf settings state offer entry where
  appliedAt := appliedAt
  autonomy := autonomy
  outcome := by
    intro change some
    rw [outcome] at some
    cases some
  auto := by
    rw [Consideration.autoApplied, outcome]
    exact ⟨Bool.noConfusion, fun qualifies => absurd qualifies notAuto⟩
  canary := by
    rw [Consideration.canaryRunning, outcome]
    exact ⟨Bool.noConfusion, fun qualifies => absurd qualifies notCanary⟩

theorem considerPair_untouched (untouched : Untouched state) (offer : Offer) :
    Untouched (considerPair settings state offer).1 := by
  rw [considerPair]
  cases proposedFor settings state offer with
  | none => exact ⟨untouched.proposer, untouched.breaker⟩
  | some change =>
    dsimp only
    rw [checkCooldown_of_closed untouched.breaker]
    cases applied settings state offer change with
    | error error => exact ⟨untouched.proposer, untouched.breaker⟩
    | ok outcome => exact ⟨untouched.proposer, untouched.breaker⟩

theorem considerPair_entry_unknown
    (unknown : ¬ (offer.diagnosis.confidence.below (6 / 10) = false ∧
      ∃ changeType, changeTypeOf offer.diagnosis.fixType = some changeType)) :
    ∃ entry, (considerPair settings state offer).1.log = state.log ++ [entry] ∧
      EntryOf settings state offer entry := by
  have none := @proposedFor_unknown settings state offer unknown
  rw [considerPair, none]
  refine ⟨_, rfl, entryOf_none rfl rfl rfl ?_ ?_⟩
  · rintro ⟨changeType, qualifies, -⟩
    exact unknown ⟨qualifies.acts, changeType, qualifies.known⟩
  · rintro ⟨changeType, qualifies, -⟩
    exact unknown ⟨qualifies.acts, changeType, qualifies.known⟩

section

variable (untouched : Untouched state)
  (acts : offer.diagnosis.confidence.below (6 / 10) = false)
  (known : changeTypeOf offer.diagnosis.fixType = some changeType)

include untouched acts known

theorem considerPair_entry_auto (qualifies : QualifiesForAuto settings offer changeType) :
    ∃ entry, (considerPair settings state offer).1.log = state.log ++ [entry] ∧
      EntryOf settings state offer entry := by
  have tier := (changeFor_auto_iff acts known).mpr qualifies
  have notCanary : ¬ ∃ changeType, QualifiesForCanary settings offer changeType ∧
      offer.surroundings.replies.execute.hasStatus 200 = true := by
    rintro ⟨other, canary, -⟩
    cases known.symm.trans canary.known
    rw [← changeFor_canary_iff acts known, tier] at canary
    cases canary
  have effect := @applyAuto_applied_iff settings state.applier
    (changeFor settings offer changeType) qualifies.tier offer.surroundings.replies
  have ran := @applied_untouched settings state offer untouched
    (changeFor settings offer changeType)
  rw [appliedInTier, tier] at ran
  rw [considerPair, proposedFor_known untouched acts known]
  dsimp only at ran ⊢
  rw [ran]
  cases returned : applyAuto settings state.applier (changeFor settings offer changeType)
      offer.surroundings.replies with
  | error error =>
    refine ⟨_, rfl, entryOf_none rfl rfl rfl ?_ notCanary⟩
    rintro ⟨other, auto, reads, accepted⟩
    cases known.symm.trans auto.known
    rcases effect.mpr ⟨reads, accepted⟩ with ⟨outcome, done, -⟩
    rw [returned] at done
    cases done
  | ok outcome =>
    rcases applyAuto_keeps returned with ⟨type, sameTier, confidence, samples, noCanary⟩
    refine ⟨_, rfl, rfl, rfl, ?_, ?_, ?_⟩
    · intro change some
      cases some
      rw [type, confidence, samples]
      exact ⟨known, rfl, rfl⟩
    · rw [Consideration.autoApplied, decide_eq_true_iff, sameTier, tier]
      constructor
      · rintro ⟨-, status⟩
        exact ⟨changeType, qualifies, effect.mp ⟨outcome, returned, status⟩⟩
      · rintro ⟨other, auto, takes⟩
        cases known.symm.trans auto.known
        rcases effect.mpr takes with ⟨again, done, status⟩
        rw [returned] at done
        cases done
        exact ⟨rfl, status⟩
    · rw [Consideration.canaryRunning, decide_eq_true_iff]
      exact ⟨fun running => absurd running noCanary, fun canary => absurd canary notCanary⟩

theorem considerPair_entry_canary (qualifies : QualifiesForCanary settings offer changeType) :
    ∃ entry, (considerPair settings state offer).1.log = state.log ++ [entry] ∧
      EntryOf settings state offer entry := by
  have tier := (changeFor_canary_iff acts known).mpr qualifies
  have notAuto : ¬ ∃ changeType, QualifiesForAuto settings offer changeType ∧
      snapshotReads offer.surroundings.replies = true ∧
        accepts changeType offer.surroundings.replies.execute = true := by
    rintro ⟨other, auto, -⟩
    cases known.symm.trans auto.known
    rw [← changeFor_auto_iff acts known, tier] at auto
    cases auto
  have ran := @applied_untouched settings state offer untouched
    (changeFor settings offer changeType)
  rw [appliedInTier, tier] at ran
  rw [considerPair, proposedFor_known untouched acts known]
  dsimp only at ran ⊢
  rw [ran]
  cases returned : applyCanary (changeFor settings offer changeType)
      offer.surroundings.replies with
  | error error =>
    refine ⟨_, rfl, entryOf_none rfl rfl rfl notAuto ?_⟩
    rintro ⟨other, canary, status⟩
    rcases @applyCanary_returns (changeFor settings offer changeType) _ status
      with ⟨changed, done⟩
    rw [returned] at done
    cases done
  | ok changed =>
    rcases applyCanary_keeps returned with ⟨type, sameTier, confidence, samples, running⟩
    refine ⟨_, rfl, rfl, rfl, ?_, ?_, ?_⟩
    · intro change some
      cases some
      rw [type, confidence, samples]
      exact ⟨known, rfl, rfl⟩
    · rw [Consideration.autoApplied, decide_eq_true_iff, sameTier, tier]
      constructor
      · rintro ⟨absurdity, -⟩
        cases absurdity
      · intro auto
        exact absurd auto notAuto
    · rw [Consideration.canaryRunning, decide_eq_true_iff, running]
      constructor
      · intro status
        exact ⟨changeType, qualifies, status⟩
      · rintro ⟨other, canary, status⟩
        exact status

theorem considerPair_entry_human
    (tier : (changeFor settings offer changeType).applyTier = .human) :
    ∃ entry, (considerPair settings state offer).1.log = state.log ++ [entry] ∧
      EntryOf settings state offer entry := by
  have ran := @applied_untouched settings state offer untouched
    (changeFor settings offer changeType)
  rw [appliedInTier, tier] at ran
  rw [considerPair, proposedFor_known untouched acts known]
  dsimp only at ran ⊢
  rw [ran]
  refine ⟨_, rfl, rfl, rfl, ?_, ?_, ?_⟩
  · intro change some
    cases some
    exact ⟨known, rfl, rfl⟩
  · rw [Consideration.autoApplied, decide_eq_true_iff]
    constructor
    · rintro ⟨-, status⟩
      cases status
    · rintro ⟨other, auto, -⟩
      cases known.symm.trans auto.known
      rw [← changeFor_auto_iff acts known, tier] at auto
      cases auto
  · rw [Consideration.canaryRunning, decide_eq_true_iff]
    constructor
    · intro status
      cases status
    · rintro ⟨other, canary, -⟩
      cases known.symm.trans canary.known
      rw [← changeFor_canary_iff acts known, tier] at canary
      cases canary

end

theorem considerPair_entry (untouched : Untouched state) (offer : Offer) :
    ∃ entry, (considerPair settings state offer).1.log = state.log ++ [entry] ∧
      EntryOf settings state offer entry := by
  by_cases proposes : offer.diagnosis.confidence.below (6 / 10) = false ∧
    ∃ changeType, changeTypeOf offer.diagnosis.fixType = some changeType
  · rcases proposes with ⟨acts, changeType, known⟩
    cases tier : (changeFor settings offer changeType).applyTier with
    | auto =>
      exact considerPair_entry_auto untouched acts known
        ((changeFor_auto_iff acts known).mp tier)
    | canary =>
      exact considerPair_entry_canary untouched acts known
        ((changeFor_canary_iff acts known).mp tier)
    | human => exact considerPair_entry_human untouched acts known tier
  · exact considerPair_entry_unknown proposes

theorem outcome_of_autoApplied {entry : Consideration} (auto : entry.autoApplied = true) :
    ∃ change, entry.outcome = some change := by
  rw [Consideration.autoApplied] at auto
  cases outcome : entry.outcome with
  | none =>
    rw [outcome] at auto
    cases auto
  | some change => exact ⟨change, rfl⟩

theorem respectsLimits_iff {entry : Consideration} (made : EntryOf settings state offer entry) :
    RespectsLimits settings state.log entry ↔ StaysWithin settings state offer := by
  constructor
  · intro respects
    constructor
    · intro changeType qualifies reads accepted
      have auto := made.auto.mpr ⟨changeType, qualifies, reads, accepted⟩
      rcases outcome_of_autoApplied auto with ⟨change, outcome⟩
      rcases made.outcome change outcome with ⟨known, confidence, samples⟩
      have limits := respects.auto auto change outcome
      cases qualifies.known.symm.trans known
      rw [confidence, samples, made.autonomy, made.appliedAt] at limits
      exact limits
    · intro changeType qualifies status
      exact respects.canary (made.canary.mpr ⟨changeType, qualifies, status⟩)
  · intro stays
    constructor
    · intro auto change outcome
      rcases made.auto.mp auto with ⟨changeType, qualifies, reads, accepted⟩
      rcases made.outcome change outcome with ⟨known, confidence, samples⟩
      cases qualifies.known.symm.trans known
      rw [confidence, samples, made.autonomy, made.appliedAt]
      exact stays.auto _ qualifies reads accepted
    · intro running
      rcases made.canary.mp running with ⟨changeType, qualifies, status⟩
      exact stays.canary changeType qualifies status

theorem withinLimits_of_start {log longer : List Consideration}
    (within : WithinLimits settings longer) (start : log <+: longer) :
    WithinLimits settings log := by
  rcases start with ⟨rest, extended⟩
  intro earlier entry later split
  apply within earlier entry (later ++ rest)
  rw [← extended, split, List.append_assoc, List.cons_append]

theorem withinLimits_concat {log : List Consideration} {entry : Consideration} :
    WithinLimits settings (log ++ [entry]) ↔
      WithinLimits settings log ∧ RespectsLimits settings log entry := by
  constructor
  · intro within
    exact ⟨withinLimits_of_start within ⟨[entry], rfl⟩, within log entry [] rfl⟩
  · rintro ⟨within, respects⟩ earlier other later split
    cases later using List.reverseRecOn with
    | nil =>
      have same := List.append_inj' split rfl
      cases same.2
      rw [← same.1]
      exact respects
    | append_singleton rest last =>
      rw [← List.cons_append, ← List.append_assoc] at split
      have same := List.append_inj' split rfl
      exact within earlier other rest same.1

theorem considerPairs_untouched (untouched : Untouched state) (offers : List Offer) :
    Untouched (considerPairs settings state offers) := by
  induction offers generalizing state with
  | nil => exact untouched
  | cons offer rest ih =>
    have kept := @considerPair_untouched settings _ untouched offer
    rw [considerPairs]
    split
    · exact kept
    · exact ih kept

theorem considerPairs_withinLimits_iff (untouched : Untouched state) (offers : List Offer)
    (within : WithinLimits settings state.log) :
    WithinLimits settings (considerPairs settings state offers).log ↔
      OffersStayWithin settings state offers := by
  induction offers generalizing state with
  | nil => exact ⟨fun _ => trivial, fun _ => within⟩
  | cons offer rest ih =>
    rcases @considerPair_entry settings _ untouched offer with ⟨entry, log, made⟩
    have kept := @considerPair_untouched settings _ untouched offer
    have step : WithinLimits settings (considerPair settings state offer).1.log ↔
        StaysWithin settings state offer := by
      rw [log, withinLimits_concat, and_iff_right within]
      exact respectsLimits_iff made
    rw [considerPairs, OffersStayWithin]
    cases raised : (considerPair settings state offer).2 with
    | true => simpa using step
    | false =>
      simp only [Bool.false_eq_true, if_false, forall_const]
      constructor
      · intro later
        rcases @considerPairs_log settings (considerPair settings state offer).1 rest with
          ⟨entries, extended, -⟩
        have first := withinLimits_of_start later ⟨entries, extended.symm⟩
        exact ⟨step.mp first, (ih kept first).mp later⟩
      · rintro ⟨stays, later⟩
        exact (ih kept (step.mpr stays)).mpr later

/-! ## Moves -/

variable {decoders : Decoders}

theorem observerStep_untouched (move : ObserverMove) (untouched : Untouched state) :
    Untouched (observerStep settings decoders state move) := by
  cases move with
  | selfEval now => exact ⟨untouched.proposer, untouched.breaker⟩
  | resetBreaker => exact ⟨untouched.proposer, rfl⟩
  | qualityCheck cycle =>
    rw [observerStep, runQualityCheck]
    split
    · exact untouched
    · exact considerPairs_untouched untouched _

theorem observerStep_withinLimits_iff (move : ObserverMove) (untouched : Untouched state)
    (within : WithinLimits settings state.log) :
    WithinLimits settings (observerStep settings decoders state move).log ↔
      MoveStaysWithin settings decoders state move := by
  cases move with
  | selfEval now => exact ⟨fun _ => trivial, fun _ => within⟩
  | resetBreaker => exact ⟨fun _ => trivial, fun _ => within⟩
  | qualityCheck cycle =>
    rw [observerStep, runQualityCheck, MoveStaysWithin]
    cases diagnosed : diagnoseBatch decoders settings cycle.calls with
    | error error =>
      constructor
      · intro _ diagnoses returned
        cases returned
      · intro _
        exact within
    | ok diagnoses =>
      dsimp only
      rw [considerPairs_withinLimits_iff untouched _ within]
      constructor
      · intro stays other same
        cases same
        exact stays
      · intro stays
        exact stays diagnoses rfl

end

/-- The limits hold throughout a run exactly when the diagnoses stay within them in every
cycle. -/
theorem runWithinLimits_iff (settings : ObserverSettings) (decoders : Decoders)
    (autonomy : AutonomyLevel) (moves : List ObserverMove) :
    RunWithinLimits settings decoders (started autonomy) moves ↔
      Allowed (observerStep settings decoders) (MoveStaysWithin settings decoders)
        (started autonomy) moves := by
  have fresh : Untouched (started autonomy) := ⟨rfl, rfl⟩
  have empty : WithinLimits settings (started autonomy).log := by
    intro earlier entry later split
    cases earlier <;> cases split
  rw [← passed_invariant_iff (observerStep settings decoders)
    (fun state => Untouched state ∧ WithinLimits settings state.log) _ ⟨fresh, empty⟩]
  · apply forall_congr'
    intro earlier
    apply forall_congr'
    intro later
    apply imp_congr_right
    intro split
    have untouched := run_always (observerStep settings decoders) Untouched
      (fun _ move => observerStep_untouched move) fresh earlier
    exact (and_iff_right untouched).symm
  · rintro state move ⟨untouched, within⟩
    rw [and_iff_right (observerStep_untouched move untouched)]
    exact observerStep_withinLimits_iff move untouched within

def busyCycle (count : Nat) (status : Nat → Nat) : Cycle where
  calls := (List.range count).map fun number =>
    { issue := { id := "iss_" ++ toString number, task := "task_" ++ toString number
                 sampleCount := 50 }
      diagnosisId := "diag_" ++ toString number
      answer := some routingAnswer }
  surroundings := fun number =>
    { changeId := "chg_" ++ toString number, now := 0
      replies := { metrics := .answered 200 (.obj []), routing := .answered 200 (.obj [])
                   execute := .answered (status number) (.obj []), appliedAt := 0 } }

/-- A reader whose answers ask for another prompt. -/
def promptDecoders : Decoders where
  loads := fun _ => .ok (.obj
    [("root_cause", .str "unclear prompt"), ("fix_type", .str "prompt"),
     ("fix_description", .str "rewrite"), ("confidence", .num (9 / 10))])
  floatOfString := fun _ => none
  reprOf := fun _ => "None"

theorem RunWithinLimits.last {settings : ObserverSettings} {decoders : Decoders}
    {state : ObserverState} {moves : List ObserverMove} {log : List Consideration}
    (within : RunWithinLimits settings decoders state moves)
    (reached : (run (observerStep settings decoders) state moves).log = log) :
    ∀ entry ∈ log.getLast?, RespectsLimits settings log.dropLast entry := by
  intro entry last
  have all := within moves [] (List.append_nil moves).symm
  rw [reached] at all
  exact all log.dropLast entry [] (List.dropLast_append_getLast? entry last).symm

/-- Nothing counts what was applied: an eleventh change is applied on one day, a type is
applied again after it failed, a fourth canary starts, and a level that allows thresholds
only has a routing change applied. -/
theorem uncounted_limits_are_exceeded : ¬ RunWithinLimits {} routingDecoders (started {})
      [.qualityCheck (busyCycle 11 fun _ => 200)] ∧
    ¬ RunWithinLimits {} routingDecoders (started {})
      [.qualityCheck (busyCycle 2 fun number => if number = 0 then 500 else 200)] ∧
    ¬ RunWithinLimits {} promptDecoders (started {}) [.qualityCheck (busyCycle 4 fun _ => 200)] ∧
    ¬ RunWithinLimits {} routingDecoders
      (started { level := "restricted", allowedAutoTypes := ["threshold"] })
      [.qualityCheck (busyCycle 1 fun _ => 200)] := by
  constructor
  · intro within
    generalize reached : (run (observerStep {} routingDecoders) (started {})
      [.qualityCheck (busyCycle 11 fun _ => 200)]).log = log
    have last : log.getLast?.map (fun entry => (entry.autoApplied, entry.appliedAt.day,
        entry.autonomy.maxAutoAppliesPerDay)) = some (true, Time.day 0, 10) := by
      rw [← reached]
      decide +kernel
    have count : (log.dropLast.countP fun entry => entry.autoAppliedOn (Time.day 0)) = 10 := by
      rw [← reached]
      decide +kernel
    rcases Option.map_eq_some_iff.mp last with ⟨entry, ends, facts⟩
    rw [Prod.mk.injEq, Prod.mk.injEq] at facts
    rcases facts with ⟨auto, day, most⟩
    rcases outcome_of_autoApplied auto with ⟨change, outcome⟩
    have daily := ((within.last reached entry ends).auto auto change outcome).2.daily
    rw [day, most, count] at daily
    exact absurd daily (by decide)
  constructor
  · intro within
    generalize reached : (run (observerStep {} routingDecoders) (started {})
      [.qualityCheck (busyCycle 2 fun number => if number = 0 then 500 else 200)]).log = log
    have last : log.getLast?.map (fun entry => (entry.autoApplied,
        entry.outcome.map Change.changeType)) = some (true, some .routing) := by
      rw [← reached]
      decide +kernel
    have failed : (log.dropLast.any fun entry => entry.failed .routing) = true := by
      rw [← reached]
      decide +kernel
    rcases Option.map_eq_some_iff.mp last with ⟨entry, ends, facts⟩
    rw [Prod.mk.injEq, Option.map_eq_some_iff] at facts
    rcases facts with ⟨auto, change, outcome, type⟩
    have unfailed := ((within.last reached entry ends).auto auto change outcome).2.unfailed
    rw [type] at unfailed
    rcases List.any_eq_true.mp failed with ⟨before, member, fails⟩
    rw [unfailed before member] at fails
    cases fails
  constructor
  · intro within
    generalize reached : (run (observerStep {} promptDecoders) (started {})
      [.qualityCheck (busyCycle 4 fun _ => 200)]).log = log
    have last : log.getLast?.map Consideration.canaryRunning = some true := by
      rw [← reached]
      decide +kernel
    have count : log.dropLast.countP Consideration.canaryRunning = 3 := by
      rw [← reached]
      decide +kernel
    rcases Option.map_eq_some_iff.mp last with ⟨entry, ends, running⟩
    have room := (within.last reached entry ends).canary running
    rw [HasCanaryRoom, count] at room
    exact absurd room (by decide)
  · intro within
    generalize reached : (run (observerStep {} routingDecoders)
      (started { level := "restricted", allowedAutoTypes := ["threshold"] })
      [.qualityCheck (busyCycle 1 fun _ => 200)]).log = log
    have last : log.getLast?.map (fun entry => (entry.autoApplied,
        entry.outcome.map Change.changeType, entry.autonomy.allowedAutoTypes)) =
          some (true, some .routing, ["threshold"]) := by
      rw [← reached]
      decide +kernel
    rcases Option.map_eq_some_iff.mp last with ⟨entry, ends, facts⟩
    rw [Prod.mk.injEq, Prod.mk.injEq, Option.map_eq_some_iff] at facts
    rcases facts with ⟨auto, ⟨change, outcome, type⟩, allowed⟩
    have allows := ((within.last reached entry ends).auto auto change outcome).1.type
    rw [type, allowed] at allows
    exact absurd allows (by decide)

end Onpremai.Observer
