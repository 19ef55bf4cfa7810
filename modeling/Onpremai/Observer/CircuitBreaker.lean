import Onpremai.Library.Transducer
import Onpremai.Observer.SelfRegulation

/-!
# Circuit breaker over time

Closed, open and half open: the breaker trips where too many rollbacks lie in a rolling
window, and lets one probe through after its cooldown.  The cooldown is checked by the calls
that read the state, but not by those that record a rollback or a success.
-/

namespace Onpremai.Observer

open Onpremai.Library

/-- The circuit breaker together with every rollback that was recorded. -/
structure RollbackBreaker extends CircuitBreaker where
  rollbacks : List Time := []
  deriving DecidableEq, Repr

/-- Current status of the circuit breaker. -/
structure CircuitBreakerStatus where
  state : CircuitBreakerState
  rollbackCountInWindow : Nat
  maxRollbacks : Int
  windowHours : Int
  cooldownHours : Int
  trippedAt : Option Time
  cooldownEndsAt : Option Int
  halfOpenProbeUsed : Bool
  deriving DecidableEq, Repr

namespace RollbackBreaker

def check (settings : ObserverSettings) (now : Time) (breaker : RollbackBreaker) :
    RollbackBreaker :=
  { breaker with toCircuitBreaker := checkCooldown settings now breaker.toCircuitBreaker }

def countRecentRollbacks (settings : ObserverSettings) (now : Time)
    (breaker : RollbackBreaker) : Nat :=
  breaker.rollbacks.countP fun rollback =>
    decide ((now : Int) - settings.circuitBreakerWindowHours * 3600000000 ≤ rollback)

def trip (at_ : Time) (breaker : RollbackBreaker) : RollbackBreaker :=
  { breaker with state := .opened, trippedAt := some at_, halfOpenProbeUsed := false }

def append (now : Time) (breaker : RollbackBreaker) : RollbackBreaker :=
  { breaker with rollbacks := breaker.rollbacks ++ [now] }

def recordRollback (settings : ObserverSettings) (now counted : Time)
    (breaker : RollbackBreaker) : RollbackBreaker × Bool :=
  let breaker := breaker.append now
  if breaker.state = .halfOpen then (breaker.trip now, true)
  else if settings.circuitBreakerMaxRollbacks ≤ breaker.countRecentRollbacks settings counted then
    (breaker.trip now, true)
  else (breaker, false)

/-- The breaker without a trip. -/
def close (breaker : RollbackBreaker) : RollbackBreaker :=
  { breaker with state := .closed, trippedAt := none, halfOpenProbeUsed := false }

def recordSuccess (breaker : RollbackBreaker) : RollbackBreaker :=
  if breaker.state = .halfOpen then breaker.close else breaker

def canAutoApply (settings : ObserverSettings) (now : Time) (breaker : RollbackBreaker) :
    RollbackBreaker × Bool :=
  let breaker := breaker.check settings now
  match breaker.state with
  | .closed => (breaker, true)
  | .halfOpen =>
    if breaker.halfOpenProbeUsed = false then
      ({ breaker with halfOpenProbeUsed := true }, true)
    else (breaker, false)
  | .opened => (breaker, false)

def reset (breaker : RollbackBreaker) : RollbackBreaker × CircuitBreakerState :=
  (breaker.close, breaker.state)

def getStatus (settings : ObserverSettings) (now : Time) (breaker : RollbackBreaker) :
    RollbackBreaker × CircuitBreakerStatus :=
  let breaker := breaker.check settings now
  (breaker, {
    state := breaker.state
    rollbackCountInWindow := breaker.countRecentRollbacks settings now
    maxRollbacks := settings.circuitBreakerMaxRollbacks
    windowHours := settings.circuitBreakerWindowHours
    cooldownHours := settings.circuitBreakerCooldownHours
    trippedAt := breaker.trippedAt
    cooldownEndsAt := breaker.trippedAt.map fun trippedAt =>
      (trippedAt : Int) + settings.circuitBreakerCooldownHours * 3600000000
    halfOpenProbeUsed := breaker.halfOpenProbeUsed })

end RollbackBreaker

/-- What happens to a breaker: time passes, a method is called, or a property is read.
The clock moves on while a rollback is recorded, before the window is counted. -/
inductive BreakerEvent where
  | wait (elapsed : Nat)
  | rollback (elapsed : Nat)
  | success
  | canAutoApply
  | reset
  | isOpen
  | state
  | getStatus
  deriving DecidableEq, Repr

/-- A read of the status, which decides nothing. -/
def BreakerEvent.isPoll : BreakerEvent → Bool
  | .isOpen | .state | .getStatus => true
  | _ => false

/-- What an event is answered with. -/
inductive BreakerAnswer where
  | nothing
  | tripped (value : Bool)
  | allowed (value : Bool)
  | previous (state : CircuitBreakerState)
  | isOpen (value : Bool)
  | state (state : CircuitBreakerState)
  | status (status : CircuitBreakerStatus)
  deriving DecidableEq, Repr

/-- Whether an auto-apply was allowed, where one was asked for. -/
def BreakerAnswer.decision : BreakerAnswer → Option Bool
  | .allowed value => some value
  | _ => none

/-- A breaker and the clock that it reads. -/
structure TimedBreaker where
  now : Time
  breaker : RollbackBreaker := {}
  deriving DecidableEq, Repr

def TimedBreaker.react (settings : ObserverSettings) (timed : TimedBreaker) :
    BreakerEvent → TimedBreaker × BreakerAnswer
  | .wait elapsed => ({ timed with now := timed.now + elapsed }, .nothing)
  | .rollback elapsed =>
    let recorded := timed.breaker.recordRollback settings timed.now (timed.now + elapsed)
    ({ now := timed.now + elapsed, breaker := recorded.1 }, .tripped recorded.2)
  | .success => ({ timed with breaker := timed.breaker.recordSuccess }, .nothing)
  | .canAutoApply =>
    let asked := timed.breaker.canAutoApply settings timed.now
    ({ timed with breaker := asked.1 }, .allowed asked.2)
  | .reset => ({ timed with breaker := timed.breaker.reset.1 }, .previous timed.breaker.reset.2)
  | .isOpen =>
    let breaker := timed.breaker.check settings timed.now
    ({ timed with breaker }, .isOpen (isOpen breaker.toCircuitBreaker))
  | .state =>
    let breaker := timed.breaker.check settings timed.now
    ({ timed with breaker }, .state breaker.state)
  | .getStatus =>
    let read := timed.breaker.getStatus settings timed.now
    ({ timed with breaker := read.1 }, .status read.2)

variable (settings : ObserverSettings)

/-- Whether the auto-applies that were asked for were allowed. -/
def decisions (timed : TimedBreaker) (events : List BreakerEvent) : List Bool :=
  (answers (TimedBreaker.react settings) timed events).filterMap BreakerAnswer.decision

def TimedBreaker.after (timed : TimedBreaker) (event : BreakerEvent) : TimedBreaker :=
  next (TimedBreaker.react settings) timed event

namespace RollbackBreaker

variable {settings} {now later : Time} {breaker : RollbackBreaker}

def Due (settings : ObserverSettings) (now : Time) (breaker : RollbackBreaker) : Prop :=
  breaker.state = .opened ∧ ∃ trippedAt, breaker.trippedAt = some trippedAt ∧
    (trippedAt : Int) + settings.circuitBreakerCooldownHours * 3600000000 ≤ now

theorem Due.mono (due : breaker.Due settings now) (forward : now ≤ later) :
    breaker.Due settings later := by
  obtain ⟨isOpened, trippedAt, tripped, elapsed⟩ := due
  exact ⟨isOpened, trippedAt, tripped, elapsed.trans (Int.ofNat_le.mpr forward)⟩

theorem check_of_due (due : breaker.Due settings now) : breaker.check settings now =
    { breaker with state := .halfOpen, halfOpenProbeUsed := false } := by
  obtain ⟨isOpened, trippedAt, tripped, elapsed⟩ := due
  simp only [check, checkCooldown, isOpened, tripped, if_pos elapsed]

theorem check_of_not_due (waits : ¬ breaker.Due settings now) :
    breaker.check settings now = breaker := by
  rw [check, checkCooldown]
  split
  · next trippedAt isOpened tripped =>
    rw [if_neg fun elapsed => waits ⟨isOpened, trippedAt, tripped, elapsed⟩]
  · rfl

section

variable (settings : ObserverSettings) (now : Time) (breaker : RollbackBreaker)

@[simp] theorem check_rollbacks : (breaker.check settings now).rollbacks = breaker.rollbacks := rfl

@[simp] theorem check_close : (breaker.check settings now).close = breaker.close := rfl

end

theorem check_check (forward : now ≤ later) :
    (breaker.check settings now).check settings later = breaker.check settings later := by
  by_cases due : breaker.Due settings now
  · rw [check_of_due due, check_of_due (due.mono forward)]
    exact check_of_not_due fun again => absurd again.1 (by simp)
  · rw [check_of_not_due due]

theorem check_eq_self (busy : (breaker.check settings now).state = .halfOpen →
      (breaker.check settings now).halfOpenProbeUsed = true) :
    breaker.check settings now = breaker := by
  by_cases due : breaker.Due settings now
  · rw [check_of_due due] at busy
    exact absurd (busy rfl) Bool.false_ne_true
  · exact check_of_not_due due

end RollbackBreaker

def ProbePending (timed : TimedBreaker) : Prop :=
  (timed.breaker.check settings timed.now).state = .halfOpen ∧
    (timed.breaker.check settings timed.now).halfOpenProbeUsed = false

/-- The window holds enough rollbacks for a trip once one more is recorded. -/
def WindowFull (timed : TimedBreaker) (elapsed : Nat) : Prop :=
  settings.circuitBreakerMaxRollbacks ≤
    (timed.breaker.append timed.now).countRecentRollbacks settings (timed.now + elapsed)

def Awaited (timed : TimedBreaker) : BreakerEvent → Prop
  | .rollback elapsed => ProbePending settings timed → WindowFull settings timed elapsed
  | .success => ¬ ProbePending settings timed
  | _ => True

instance (timed : TimedBreaker) : Decidable (ProbePending settings timed) :=
  inferInstanceAs (Decidable (_ ∧ _))

instance (timed : TimedBreaker) (elapsed : Nat) : Decidable (WindowFull settings timed elapsed) :=
  inferInstanceAs (Decidable (_ ≤ _))

instance (timed : TimedBreaker) : ∀ event, Decidable (Awaited settings timed event)
  | .rollback _ => inferInstanceAs (Decidable (_ → _))
  | .success => inferInstanceAs (Decidable (¬ _))
  | .wait _ | .canAutoApply | .reset | .isOpen | .state | .getStatus => .isTrue trivial

def TripsAtThreshold (timed : TimedBreaker) (events : List BreakerEvent) : Prop :=
  ∀ earlier event later, events = earlier ++ event :: later →
    (run (TimedBreaker.after settings) timed earlier).breaker.state = .closed →
      ((run (TimedBreaker.after settings) timed (earlier ++ [event])).breaker.state = .opened ↔
        ∃ elapsed, event = .rollback elapsed ∧
          WindowFull settings (run (TimedBreaker.after settings) timed earlier) elapsed)

def StaysHalfOpen (timed : TimedBreaker) (events : List BreakerEvent) : Prop :=
  Allowed (TimedBreaker.after settings)
    (fun timed event => (timed.after settings event).breaker.state = .halfOpen) timed events

def OneProbe (timed : TimedBreaker) (events : List BreakerEvent) : Prop :=
  ∀ earlier period later, events = earlier ++ period ++ later →
    StaysHalfOpen settings (run (TimedBreaker.after settings) timed earlier) period →
      (decisions settings (run (TimedBreaker.after settings) timed earlier) period).count true ≤ 1

def ProbeOut (timed : TimedBreaker) (events : List BreakerEvent) : Prop :=
  ∃ earlier since, events = earlier ++ .canAutoApply :: since ∧
    ((run (TimedBreaker.after settings) timed earlier).react settings .canAutoApply).2 =
      .allowed true ∧
    StaysHalfOpen settings (run (TimedBreaker.after settings) timed earlier)
      (.canAutoApply :: since)

def ClosesAfterProbe (timed : TimedBreaker) (events : List BreakerEvent) : Prop :=
  ∀ earlier event later, events = earlier ++ event :: later →
    (run (TimedBreaker.after settings) timed earlier).breaker.state ≠ .closed →
      (run (TimedBreaker.after settings) timed (earlier ++ [event])).breaker.state = .closed →
        event = .reset ∨ event = .success ∧ ProbeOut settings timed earlier

/-! ## Two runs, one with more polls -/

/-- The clocks agree, and so would the breakers once their cooldown is checked. -/
def SameWhenChecked (first second : TimedBreaker) : Prop := first.now = second.now ∧
    first.breaker.check settings first.now = second.breaker.check settings first.now

variable {settings} {first second : TimedBreaker}

theorem SameWhenChecked.pending (same : SameWhenChecked settings first second) :
    ProbePending settings first ↔ ProbePending settings second := by
  rw [ProbePending, ProbePending, ← same.1, same.2]

theorem SameWhenChecked.rollbacks (same : SameWhenChecked settings first second) :
    first.breaker.rollbacks = second.breaker.rollbacks := by
  have checked := congrArg RollbackBreaker.rollbacks same.2
  rwa [RollbackBreaker.check_rollbacks, RollbackBreaker.check_rollbacks] at checked

theorem SameWhenChecked.full (same : SameWhenChecked settings first second) (elapsed : Nat) :
    WindowFull settings first elapsed ↔ WindowFull settings second elapsed := by
  simp only [WindowFull, RollbackBreaker.countRecentRollbacks, RollbackBreaker.append, ← same.1,
    same.rollbacks]

theorem SameWhenChecked.awaited (same : SameWhenChecked settings first second)
    (event : BreakerEvent) : Awaited settings first event ↔ Awaited settings second event := by
  cases event with
  | rollback elapsed => exact imp_congr same.pending (same.full elapsed)
  | success => exact not_congr same.pending
  | _ => exact Iff.rfl

theorem SameWhenChecked.eq (same : SameWhenChecked settings first second)
    (busy : ¬ ProbePending settings first) : first = second := by
  have used : (first.breaker.check settings first.now).state = .halfOpen →
      (first.breaker.check settings first.now).halfOpenProbeUsed = true := by
    intro isHalfOpen
    by_contra unused
    exact busy ⟨isHalfOpen, Bool.eq_false_iff.mpr unused⟩
  have breakers : first.breaker = second.breaker := by
    rw [← RollbackBreaker.check_eq_self used, same.2]
    apply RollbackBreaker.check_eq_self
    rwa [← same.2]
  obtain ⟨now, breaker⟩ := first
  obtain ⟨clock, other⟩ := second
  obtain rfl : now = clock := same.1
  obtain rfl : breaker = other := breakers
  rfl

theorem recordRollback_of_full {timed : TimedBreaker} {elapsed : Nat}
    (full : WindowFull settings timed elapsed) :
    timed.breaker.recordRollback settings timed.now (timed.now + elapsed) =
      ((timed.breaker.append timed.now).trip timed.now, true) := by
  rw [RollbackBreaker.recordRollback]
  split
  · rfl
  · exact if_pos full

theorem SameWhenChecked.poll (same : SameWhenChecked settings first second)
    {event : BreakerEvent} (poll : event.isPoll = true) :
    SameWhenChecked settings (first.after settings event) second := by
  have checked : first.after settings event =
      { first with breaker := first.breaker.check settings first.now } := by
    cases event with
    | isOpen | state | getStatus => rfl
    | _ => exact absurd poll Bool.false_ne_true
  rw [checked]
  exact ⟨same.1, (RollbackBreaker.check_check le_rfl).trans same.2⟩

theorem SameWhenChecked.event (same : SameWhenChecked settings first second)
    {event : BreakerEvent} (awaited : Awaited settings first event)
    (decides : event.isPoll = false) :
    (first.react settings event).2.decision = (second.react settings event).2.decision ∧
      SameWhenChecked settings (first.after settings event) (second.after settings event) := by
  cases event with
  | wait elapsed =>
    refine ⟨rfl, congrArg (· + elapsed) same.1, ?_⟩
    have forward : first.now ≤ first.now + elapsed := Nat.le_add_right _ _
    have checked := congrArg (RollbackBreaker.check settings (first.now + elapsed)) same.2
    rwa [RollbackBreaker.check_check forward, RollbackBreaker.check_check forward] at checked
  | rollback elapsed =>
    refine ⟨rfl, ?_⟩
    by_cases pending : ProbePending settings first
    · have full := awaited pending
      rw [TimedBreaker.after, TimedBreaker.after, next, next, TimedBreaker.react,
        TimedBreaker.react, recordRollback_of_full full,
        recordRollback_of_full ((same.full elapsed).mp full)]
      have tripped : (first.breaker.append first.now).trip first.now =
          (second.breaker.append second.now).trip second.now := by
        rw [RollbackBreaker.trip, RollbackBreaker.trip, RollbackBreaker.append,
          RollbackBreaker.append, same.rollbacks, same.1]
      refine ⟨congrArg (· + elapsed) same.1, ?_⟩
      rw [tripped]
    · rw [same.eq pending]
      exact ⟨rfl, rfl⟩
  | success =>
    rw [same.eq awaited]
    exact ⟨rfl, rfl, rfl⟩
  | canAutoApply =>
    have asked : first.breaker.canAutoApply settings first.now =
        second.breaker.canAutoApply settings second.now := by
      rw [RollbackBreaker.canAutoApply, RollbackBreaker.canAutoApply, ← same.1, same.2]
    have allows := congrArg (fun asked : RollbackBreaker × Bool => some asked.2) asked
    have leaves := congrArg Prod.fst asked
    exact ⟨allows, same.1, congrArg (RollbackBreaker.check settings first.now) leaves⟩
  | reset =>
    refine ⟨rfl, same.1, ?_⟩
    have closed := congrArg RollbackBreaker.close same.2
    rw [RollbackBreaker.check_close, RollbackBreaker.check_close] at closed
    exact congrArg (RollbackBreaker.check settings first.now) closed
  | isOpen | state | getStatus => exact absurd decides.symm Bool.false_ne_true

def TimedBreaker.decide (settings : ObserverSettings) (timed : TimedBreaker)
    (event : BreakerEvent) : TimedBreaker × Option Bool :=
  (timed.after settings event, (timed.react settings event).2.decision)

section

variable (timed : TimedBreaker) (events : List BreakerEvent)

theorem decisions_eq_answers : decisions settings timed events =
      (answers (TimedBreaker.decide settings) timed events).filterMap id := by
  induction events generalizing timed with
  | nil => rfl
  | cons event rest ih =>
    have follows := ih (timed.after settings event)
    rw [decisions, List.filterMap_eq_flatMap_toList, List.filterMap_eq_flatMap_toList]
      at follows ⊢
    exact congrArg ((timed.react settings event).2.decision.toList ++ ·) follows

theorem decisions_eq_observed : decisions settings timed events =
      (observed (fun event => !event.isPoll) events
        (answers (TimedBreaker.decide settings) timed events)).filterMap id := by
  rw [decisions_eq_answers, List.filterMap_eq_flatMap_toList, List.filterMap_eq_flatMap_toList]
  induction events generalizing timed with
  | nil => rfl
  | cons event rest ih =>
    have follows := ih (timed.after settings event)
    rw [answers, observed, List.flatMap_cons]
    cases poll : event.isPoll with
    | true =>
      have silent : (timed.react settings event).2.decision = none := by
        cases event with
        | isOpen | state | getStatus => rfl
        | _ => exact absurd poll Bool.false_ne_true
      rw [if_neg (by simp), TimedBreaker.decide, silent]
      exact follows
    | false =>
      rw [if_pos (by rfl), List.flatMap_cons]
      exact congrArg _ follows

end

theorem decisions_filter {timed : TimedBreaker} {events : List BreakerEvent}
    (all : Allowed (TimedBreaker.after settings) (Awaited settings) timed events) :
    decisions settings timed events =
      decisions settings timed (events.filter fun event => !event.isPoll) := by
  have decided : Allowed (next (TimedBreaker.decide settings)) (Awaited settings) timed events :=
    all
  rw [decisions_eq_observed, decisions_eq_answers]
  apply congrArg (List.filterMap id)
  apply observed_eq _ _ _ (SameWhenChecked settings) _ _ ⟨rfl, rfl⟩ decided
  · intro first second event same awaited decides
    exact same.event awaited (by simpa using decides)
  · intro first second event same _ poll
    exact same.poll (by simpa using poll)

theorem awaited_filter (timed : TimedBreaker) (events : List BreakerEvent) :
    Allowed (TimedBreaker.after settings) (Awaited settings) timed events ↔
      Allowed (TimedBreaker.after settings) (Awaited settings) timed
        (events.filter fun event => !event.isPoll) := by
  apply allowed_filter_iff _ _ _ (SameWhenChecked settings) _ _ _ ⟨rfl, rfl⟩
  · intro first second event same awaited decides
    exact (same.event awaited (by simpa using decides)).2
  · intro first second event same _
    exact same.awaited event
  · intro first second event same poll
    have isPoll : event.isPoll = true := by simpa using poll
    refine ⟨?_, same.poll isPoll⟩
    cases event with
    | isOpen | state | getStatus => trivial
    | _ => exact absurd isPoll Bool.false_ne_true

/-! ## Trips, probes and closing -/

variable {timed : TimedBreaker}

theorem after_opened (isClosed : timed.breaker.state = .closed) (event : BreakerEvent) :
    (timed.after settings event).breaker.state = .opened ↔
      ∃ elapsed, event = .rollback elapsed ∧ WindowFull settings timed elapsed := by
  have waits : ¬ timed.breaker.Due settings timed.now := by
    intro due
    rw [due.1] at isClosed
    exact absurd isClosed (by simp)
  have unchecked := RollbackBreaker.check_of_not_due waits
  cases event with
  | rollback elapsed =>
    by_cases full : WindowFull settings timed elapsed
    · have recorded := recordRollback_of_full full
      apply iff_of_true
      · rw [TimedBreaker.after, next, TimedBreaker.react, recorded]
        rfl
      · exact ⟨elapsed, rfl, full⟩
    · apply iff_of_false
      · have recorded : timed.breaker.recordRollback settings timed.now
            (timed.now + elapsed) = (timed.breaker.append timed.now, false) := by
          rw [RollbackBreaker.recordRollback]
          simp only [RollbackBreaker.append, isClosed]
          rw [if_neg (by simp)]
          exact if_neg full
        rw [TimedBreaker.after, next, TimedBreaker.react, recorded]
        simp [RollbackBreaker.append, isClosed]
      · rintro ⟨other, same, filled⟩
        cases same
        exact full filled
  | _ =>
    simp [TimedBreaker.after, next, TimedBreaker.react, RollbackBreaker.recordSuccess,
      RollbackBreaker.canAutoApply, RollbackBreaker.reset, RollbackBreaker.close,
      RollbackBreaker.getStatus, unchecked, isClosed]

theorem canAutoApply_of_pending (pending : ProbePending settings timed) :
    timed.breaker.canAutoApply settings timed.now =
      ({ timed.breaker.check settings timed.now with halfOpenProbeUsed := true }, true) := by
  rw [RollbackBreaker.canAutoApply]
  simp only [pending.1, pending.2, if_true]

theorem canAutoApply_of_not_pending (waits : ¬ ProbePending settings timed) :
    timed.breaker.canAutoApply settings timed.now = (timed.breaker.check settings timed.now,
        decide ((timed.breaker.check settings timed.now).state = .closed)) := by
  rw [RollbackBreaker.canAutoApply]
  cases checked : (timed.breaker.check settings timed.now).state with
  | closed | opened => rfl
  | halfOpen => exact if_neg fun unused => waits ⟨checked, unused⟩

theorem record_ends_halfOpen {event : BreakerEvent}
    (stays : (timed.after settings event).breaker.state = .halfOpen) :
    (∀ elapsed, event ≠ .rollback elapsed) ∧ event ≠ .success ∧ event ≠ .reset := by
  refine ⟨?_, ?_, ?_⟩
  · intro elapsed same
    subst same
    simp only [TimedBreaker.after, next, TimedBreaker.react, RollbackBreaker.recordRollback]
      at stays
    split at stays
    · exact absurd stays (by simp [RollbackBreaker.trip])
    · next ended =>
      split at stays
      · exact absurd stays (by simp [RollbackBreaker.trip])
      · exact ended stays
  · intro same
    subst same
    simp only [TimedBreaker.after, next, TimedBreaker.react, RollbackBreaker.recordSuccess]
      at stays
    split at stays
    · exact absurd stays (by simp [RollbackBreaker.close])
    · next ended => exact ended stays
  · intro same
    subst same
    exact absurd stays (by simp [TimedBreaker.after, next, TimedBreaker.react,
      RollbackBreaker.reset, RollbackBreaker.close])

def Spent (timed : TimedBreaker) : Prop :=
  timed.breaker.state = .halfOpen ∧ timed.breaker.halfOpenProbeUsed = true

theorem Spent.check (spent : Spent timed) :
    timed.breaker.check settings timed.now = timed.breaker := by
  apply RollbackBreaker.check_of_not_due
  intro due
  have isOpened := due.1
  rw [spent.1] at isOpened
  exact absurd isOpened (by simp)

theorem Spent.not_pending (spent : Spent timed) : ¬ ProbePending settings timed := by
  intro pending
  have unused := pending.2
  rw [spent.check, spent.2] at unused
  exact absurd unused.symm Bool.false_ne_true

theorem spent_of_check
    (spent : Spent { timed with breaker := timed.breaker.check settings timed.now }) :
    Spent timed := by
  rwa [RollbackBreaker.check_eq_self fun _ => spent.2] at spent

theorem Spent.after (spent : Spent timed) {event : BreakerEvent}
    (stays : (timed.after settings event).breaker.state = .halfOpen) :
    Spent (timed.after settings event) := by
  have goes := record_ends_halfOpen stays
  cases event with
  | wait elapsed => exact spent
  | rollback elapsed => exact absurd rfl (goes.1 elapsed)
  | success => exact absurd rfl goes.2.1
  | reset => exact absurd rfl goes.2.2
  | canAutoApply =>
    rw [TimedBreaker.after, next, TimedBreaker.react,
      canAutoApply_of_not_pending spent.not_pending, spent.check]
    exact spent
  | isOpen | state | getStatus =>
    simp only [TimedBreaker.after, next, TimedBreaker.react, RollbackBreaker.getStatus, spent.check]
    exact spent

theorem spent_of_allowed {event : BreakerEvent}
    (stays : (timed.after settings event).breaker.state = .halfOpen)
    (allows : (timed.react settings event).2.decision = some true) :
    ¬ Spent timed ∧ Spent (timed.after settings event) := by
  cases event with
  | canAutoApply =>
    by_cases pending : ProbePending settings timed
    · refine ⟨fun spent => spent.not_pending pending, stays, ?_⟩
      rw [TimedBreaker.after, next, TimedBreaker.react, canAutoApply_of_pending pending]
    · rw [TimedBreaker.after, next, TimedBreaker.react,
        canAutoApply_of_not_pending pending] at stays
      rw [TimedBreaker.react, canAutoApply_of_not_pending pending] at allows
      have isClosed := of_decide_eq_true (Option.some.inj allows)
      exact absurd (isClosed.symm.trans stays) (by simp)
  | _ => exact absurd allows (by simp [TimedBreaker.react, BreakerAnswer.decision])

theorem spent_cases {event : BreakerEvent} (spent : Spent (timed.after settings event)) :
    Spent timed ∨
      event = .canAutoApply ∧ (timed.react settings event).2 = .allowed true := by
  have goes := record_ends_halfOpen spent.1
  cases event with
  | wait elapsed => exact Or.inl spent
  | rollback elapsed => exact absurd rfl (goes.1 elapsed)
  | success => exact absurd rfl goes.2.1
  | reset => exact absurd rfl goes.2.2
  | canAutoApply =>
    by_cases pending : ProbePending settings timed
    · rw [TimedBreaker.react, canAutoApply_of_pending pending]
      exact Or.inr ⟨rfl, rfl⟩
    · rw [TimedBreaker.after, next, TimedBreaker.react,
        canAutoApply_of_not_pending pending] at spent
      exact Or.inl (spent_of_check spent)
  | isOpen | state | getStatus => exact Or.inl (spent_of_check spent)

theorem probes_le {events : List BreakerEvent} (stays : StaysHalfOpen settings timed events) :
    (decisions settings timed events).count true ≤ 1 ∧
      (Spent timed → (decisions settings timed events).count true = 0) := by
  induction events generalizing timed with
  | nil => exact ⟨Nat.zero_le 1, fun _ => rfl⟩
  | cons event rest ih =>
    have follows := ih stays.2
    have counted : (decisions settings timed (event :: rest)).count true =
        (timed.react settings event).2.decision.toList.count true +
          (decisions settings (timed.after settings event) rest).count true := by
      rw [decisions, List.filterMap_eq_flatMap_toList, answers, List.flatMap_cons,
        List.count_append, decisions, List.filterMap_eq_flatMap_toList]
      rfl
    rw [counted]
    by_cases allows : (timed.react settings event).2.decision = some true
    · have probe := spent_of_allowed stays.1 allows
      rw [allows, follows.2 probe.2]
      exact ⟨le_rfl, fun spent => absurd spent probe.1⟩
    · have denied : (timed.react settings event).2.decision.toList.count true = 0 := by
        rw [List.count_eq_zero, Option.mem_toList]
        exact allows
      rw [denied, Nat.zero_add]
      exact ⟨follows.1, fun spent => follows.2 (spent.after stays.1)⟩

theorem probeOut_of_spent (start : ¬ Spent timed) (events : List BreakerEvent)
    (spent : Spent (run (TimedBreaker.after settings) timed events)) :
    ProbeOut settings timed events := by
  induction events using List.reverseRecOn with
  | nil => exact absurd spent start
  | append_singleton earlier event ih =>
    rw [run_concat] at spent
    rcases spent_cases spent with before | ⟨same, allows⟩
    · obtain ⟨first, since, split, answered, stays⟩ := ih before
      refine ⟨first, since ++ [event], by simp [split], answered, ?_⟩
      rw [StaysHalfOpen, ← List.cons_append, allowed_append]
      refine ⟨stays, ?_, trivial⟩
      rw [← run_append, ← split]
      exact spent.1
    · subst same
      exact ⟨earlier, [], rfl, allows, spent.1, trivial⟩

theorem RollbackBreaker.closed_of_check {now : Time} {breaker : RollbackBreaker}
    (isClosed : (breaker.check settings now).state = .closed) : breaker.state = .closed := by
  by_cases due : breaker.Due settings now
  · rw [check_of_due due] at isClosed
    exact absurd isClosed (by simp)
  · rwa [check_of_not_due due] at isClosed

theorem after_closed {event : BreakerEvent} (blocks : timed.breaker.state ≠ .closed)
    (closes : (timed.after settings event).breaker.state = .closed) :
    event = .reset ∨ event = .success ∧ timed.breaker.state = .halfOpen := by
  cases event with
  | wait elapsed => exact absurd closes blocks
  | rollback elapsed =>
    simp only [TimedBreaker.after, next, TimedBreaker.react, RollbackBreaker.recordRollback]
      at closes
    split at closes
    · exact absurd closes (by simp [RollbackBreaker.trip])
    · split at closes
      · exact absurd closes (by simp [RollbackBreaker.trip])
      · exact absurd closes blocks
  | success =>
    by_cases isHalfOpen : timed.breaker.state = .halfOpen
    · exact Or.inr ⟨rfl, isHalfOpen⟩
    · simp only [TimedBreaker.after, next, TimedBreaker.react, RollbackBreaker.recordSuccess,
        if_neg isHalfOpen] at closes
      exact absurd closes blocks
  | canAutoApply =>
    by_cases pending : ProbePending settings timed
    · rw [TimedBreaker.after, next, TimedBreaker.react, canAutoApply_of_pending pending] at closes
      exact absurd (RollbackBreaker.closed_of_check closes) blocks
    · rw [TimedBreaker.after, next, TimedBreaker.react,
        canAutoApply_of_not_pending pending] at closes
      exact absurd (RollbackBreaker.closed_of_check closes) blocks
  | reset => exact Or.inl rfl
  | isOpen | state | getStatus => exact absurd (RollbackBreaker.closed_of_check closes) blocks

section

variable (timed : TimedBreaker) (events : List BreakerEvent)

theorem tripsAtThreshold : TripsAtThreshold settings timed events := by
  intro earlier event later _ isClosed
  rw [run_concat]
  exact after_opened isClosed event

theorem oneProbe : OneProbe settings timed events := by
  intro earlier period later _ stays
  exact (probes_le stays).1

end

theorem closesAfterProbe (start : ¬ Spent timed) {events : List BreakerEvent}
    (all : Allowed (TimedBreaker.after settings) (Awaited settings) timed events) :
    ClosesAfterProbe settings timed events := by
  intro earlier event later split blocks closes
  rw [run_concat] at closes
  rcases after_closed blocks closes with isReset | ⟨isSuccess, isHalfOpen⟩
  · exact Or.inl isReset
  · refine Or.inr ⟨isSuccess, probeOut_of_spent start earlier ⟨isHalfOpen, ?_⟩⟩
    have awaited := (allowed_iff_passed _ _ _ _).mp all earlier event later split
    rw [isSuccess] at awaited
    by_contra unused
    apply awaited
    have waits : ¬ RollbackBreaker.Due settings
        (run (TimedBreaker.after settings) timed earlier).now
        (run (TimedBreaker.after settings) timed earlier).breaker := by
      intro due
      have isOpened := due.1
      rw [isHalfOpen] at isOpened
      exact absurd isOpened (by simp)
    rw [ProbePending, RollbackBreaker.check_of_not_due waits]
    exact ⟨isHalfOpen, Bool.eq_false_iff.mpr unused⟩

/-- In a run that records nothing while a probe is pending, polls make no difference to what
is decided, and however many there are: the breaker trips at its threshold, lets one probe
through in each half-open period, and closes after the probe. -/
theorem breaker_keeps_promises (settings : ObserverSettings) (start : Time)
    (events : List BreakerEvent)
    (awaited : Allowed (TimedBreaker.after settings) (Awaited settings) { now := start } events)
    (polled : List BreakerEvent)
    (same : polled.filter (fun event => !event.isPoll) = events.filter fun event => !event.isPoll) :
    decisions settings { now := start } polled = decisions settings { now := start } events ∧
      TripsAtThreshold settings { now := start } polled ∧
      OneProbe settings { now := start } polled ∧
      ClosesAfterProbe settings { now := start } polled := by
  have unpolled := (awaited_filter _ events).mp awaited
  rw [← same] at unpolled
  have all := (awaited_filter _ polled).mpr unpolled
  refine ⟨?_, tripsAtThreshold _ _, oneProbe _ _, ?_⟩
  · rw [decisions_filter all, same, ← decisions_filter awaited]
  · exact closesAfterProbe (fun spent => absurd spent.1 (by simp)) all

def forgottenCheck : List BreakerEvent :=
  [.rollback 0, .rollback 0, .rollback 0, .wait 43200000000, .rollback 0, .canAutoApply]

def rememberedCheck : List BreakerEvent :=
  [.rollback 0, .rollback 0, .rollback 0, .wait 43200000000, .state, .rollback 0, .canAutoApply]

/-- A success of an earlier change, recorded when the cooldown has elapsed. -/
def unprobedSuccess : List BreakerEvent :=
  [.rollback 0, .rollback 0, .rollback 0, .wait 43200000000, .state, .success]

/-- A single poll turns an auto-apply that is allowed into one that is denied, and a success
closes a breaker that has let no probe through. -/
theorem poll_changes_decision : (forgottenCheck.filter fun event => !event.isPoll) =
        (rememberedCheck.filter fun event => !event.isPoll) ∧
      decisions {} { now := 0 } forgottenCheck = [true] ∧
      decisions {} { now := 0 } rememberedCheck = [false] ∧
      (¬ ∀ events polled : List BreakerEvent,
        polled.filter (fun event => !event.isPoll) = events.filter (fun event => !event.isPoll) →
          decisions {} { now := 0 } polled = decisions {} { now := 0 } events) ∧
      ¬ ClosesAfterProbe {} { now := 0 } unprobedSuccess := by
  have apart : decisions {} { now := 0 } forgottenCheck = [true] ∧
      decisions {} { now := 0 } rememberedCheck = [false] := by decide
  refine ⟨rfl, apart.1, apart.2, ?_, ?_⟩
  · intro always
    have alike := always forgottenCheck rememberedCheck rfl
    rw [apart.1, apart.2] at alike
    exact absurd alike (by decide)
  · intro closes
    rcases closes [.rollback 0, .rollback 0, .rollback 0, .wait 43200000000, .state] .success []
      rfl (by decide) (by decide) with isReset | ⟨_, earlier, since, split, _⟩
    · exact absurd isReset (by decide)
    · have asked : BreakerEvent.canAutoApply ∈ earlier ++ .canAutoApply :: since := by simp
      rw [← split] at asked
      exact absurd asked (by decide)

/-- A run in which the probe is let through before its success is recorded. -/
theorem breaker_keeps_promises_probe :
    let events := [.rollback 0, .rollback 0, .rollback 0, .wait 43200000000, .canAutoApply,
      .success, .canAutoApply]
    let polled := [.rollback 0, .isOpen, .rollback 0, .rollback 0, .wait 43200000000, .getStatus,
      .canAutoApply, .success, .canAutoApply]
    decisions {} { now := 0 } polled = decisions {} { now := 0 } events ∧
      TripsAtThreshold {} { now := 0 } polled ∧ OneProbe {} { now := 0 } polled ∧
      ClosesAfterProbe {} { now := 0 } polled :=
  breaker_keeps_promises {} 0 _ (by decide) _ rfl

end Onpremai.Observer
