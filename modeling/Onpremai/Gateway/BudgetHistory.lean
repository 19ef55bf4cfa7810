import Onpremai.Gateway.Budget
import Onpremai.Library.Transducer

/-!
# Budgets over the days

Costs are recorded and budgets are read by the clock, over any number of days.  Redis may
drop a key at any time once its day is past.
-/

namespace Onpremai.Gateway

open Onpremai.Library

/-- What is asked of the tracker. -/
inductive BudgetOperation where
  | recordCost (tenantId : String) (costUsd : Rat)
  | getDailySpend (tenantId : String)
  | getRequestCount (tenantId : String)
  | incrementRequests (tenantId : String)
  | checkBudget (tenantId : String) (dailyLimitUsd : Rat)
  deriving DecidableEq, Repr

/-- What the tracker answers. -/
inductive BudgetAnswer where
  | spend (usd : Rat)
  | count (requests : Nat)
  | within (budget : Bool)
  deriving DecidableEq, Repr

/-- An operation with its time, in seconds, and the keys that Redis has found expired. -/
structure BudgetMoment where
  now : Nat
  operation : BudgetOperation
  expired : String × Day → Bool := fun _ => false

/-- The UTC day of an operation. -/
def BudgetMoment.today (moment : BudgetMoment) : Day := moment.now / 86400

def keepsKey (today : Day) (expired : String × Day → Bool) (key : String × Day) : Bool :=
  decide (today ≤ key.2) || !expired key

namespace BudgetTracker

variable (tracker : BudgetTracker)

def expire (today : Day) (expired : String × Day → Bool) : BudgetTracker :=
  { tracker with
    redis := tracker.redis.map fun store =>
      { costs := store.costs.restrict (keepsKey today expired)
        requests := store.requests.restrict (keepsKey today expired) } }

/-- One operation on a day; a total that comes back is the one that was written. -/
def performOn (today : Day) : BudgetOperation → BudgetTracker × BudgetAnswer
  | .recordCost tenantId costUsd =>
    let recorded := tracker.recordCost tenantId today costUsd
    (recorded, .spend (recorded.getDailySpend tenantId today))
  | .getDailySpend tenantId => (tracker, .spend (tracker.getDailySpend tenantId today))
  | .getRequestCount tenantId => (tracker, .count (tracker.getRequestCount tenantId today))
  | .incrementRequests tenantId =>
    let counted := tracker.incrementRequests tenantId today
    (counted, .count (counted.getRequestCount tenantId today))
  | .checkBudget tenantId dailyLimitUsd =>
    (tracker, .within (decide (tracker.getDailySpend tenantId today < dailyLimitUsd)))

def perform (moment : BudgetMoment) : BudgetTracker × BudgetAnswer :=
  (tracker.expire moment.today moment.expired).performOn moment.today moment.operation

variable {tracker}

theorem getDailySpend_expire {today day : Day} (later : today ≤ day)
    (expired : String × Day → Bool) (tenantId : String) :
    (tracker.expire today expired).getDailySpend tenantId day =
      tracker.getDailySpend tenantId day := by
  cases connected : tracker.redis with
  | none => simp [expire, getDailySpend, connected]
  | some store => simp [expire, getDailySpend, connected, keepsKey, later]

theorem getRequestCount_expire {today day : Day} (later : today ≤ day)
    (expired : String × Day → Bool) (tenantId : String) :
    (tracker.expire today expired).getRequestCount tenantId day =
      tracker.getRequestCount tenantId day := by
  cases connected : tracker.redis with
  | none => simp [expire, getRequestCount, connected]
  | some store => simp [expire, getRequestCount, connected, keepsKey, later]

/-- Two trackers that agree on a day and have nothing for the days after it. -/
structure AgreeOn (today : Day) (first second : BudgetTracker) : Prop where
  spend : ∀ tenantId, first.getDailySpend tenantId today = second.getDailySpend tenantId today
  count : ∀ tenantId, first.getRequestCount tenantId today = second.getRequestCount tenantId today
  unspent : ∀ tenantId later, today < later →
    first.getDailySpend tenantId later = 0 ∧ second.getDailySpend tenantId later = 0
  uncounted : ∀ tenantId later, today < later →
    first.getRequestCount tenantId later = 0 ∧ second.getRequestCount tenantId later = 0

namespace AgreeOn

variable {today : Day} {first second : BudgetTracker}

theorem mono {later : Day} (agree : AgreeOn today first second) (ahead : today ≤ later) :
    AgreeOn later first second := by
  cases Nat.lt_or_eq_of_le ahead with
  | inl after =>
    exact {
      spend := fun tenantId =>
        (agree.unspent tenantId later after).1.trans (agree.unspent tenantId later after).2.symm
      count := fun tenantId =>
        (agree.uncounted tenantId later after).1.trans
          (agree.uncounted tenantId later after).2.symm
      unspent := fun tenantId other past => agree.unspent tenantId other (after.trans past)
      uncounted := fun tenantId other past => agree.uncounted tenantId other (after.trans past) }
  | inr same => exact same ▸ agree

theorem expire (agree : AgreeOn today first second) (expired : String × Day → Bool) :
    AgreeOn today (first.expire today expired) (second.expire today expired) where
  spend := fun tenantId => by
    rw [getDailySpend_expire (le_refl today), getDailySpend_expire (le_refl today)]
    exact agree.spend tenantId
  count := fun tenantId => by
    rw [getRequestCount_expire (le_refl today), getRequestCount_expire (le_refl today)]
    exact agree.count tenantId
  unspent := fun tenantId later ahead => by
    rw [getDailySpend_expire ahead.le, getDailySpend_expire ahead.le]
    exact agree.unspent tenantId later ahead
  uncounted := fun tenantId later ahead => by
    rw [getRequestCount_expire ahead.le, getRequestCount_expire ahead.le]
    exact agree.uncounted tenantId later ahead

theorem recordCost (agree : AgreeOn today first second) (tenantId : String) (costUsd : Rat) :
    AgreeOn today (first.recordCost tenantId today costUsd)
      (second.recordCost tenantId today costUsd) where
  spend := fun other => by
    rw [getDailySpend_recordCost, getDailySpend_recordCost, agree.spend]
  count := fun other => by
    rw [getRequestCount_recordCost, getRequestCount_recordCost, agree.count]
  unspent := fun other later ahead =>
    ⟨getDailySpend_recordCost_later ahead (agree.unspent other later ahead).1 costUsd,
      getDailySpend_recordCost_later ahead (agree.unspent other later ahead).2 costUsd⟩
  uncounted := fun other later ahead =>
    ⟨getRequestCount_recordCost_later ahead (agree.uncounted other later ahead).1 costUsd,
      getRequestCount_recordCost_later ahead (agree.uncounted other later ahead).2 costUsd⟩

theorem incrementRequests (agree : AgreeOn today first second) (tenantId : String) :
    AgreeOn today (first.incrementRequests tenantId today)
      (second.incrementRequests tenantId today) where
  spend := fun other => by
    rw [getDailySpend_incrementRequests, getDailySpend_incrementRequests, agree.spend]
  count := fun other => by
    rw [getRequestCount_incrementRequests, getRequestCount_incrementRequests, agree.count]
  unspent := fun other later ahead =>
    ⟨getDailySpend_incrementRequests_later ahead (agree.unspent other later ahead).1,
      getDailySpend_incrementRequests_later ahead (agree.unspent other later ahead).2⟩
  uncounted := fun other later ahead =>
    ⟨getRequestCount_incrementRequests_later ahead (agree.uncounted other later ahead).1,
      getRequestCount_incrementRequests_later ahead (agree.uncounted other later ahead).2⟩

theorem performOn (agree : AgreeOn today first second) (operation : BudgetOperation) :
    AgreeOn today (first.performOn today operation).1 (second.performOn today operation).1 ∧
      (first.performOn today operation).2 = (second.performOn today operation).2 := by
  cases operation with
  | recordCost tenantId costUsd =>
    have recorded := agree.recordCost tenantId costUsd
    exact ⟨recorded, congrArg BudgetAnswer.spend (recorded.spend tenantId)⟩
  | getDailySpend tenantId => exact ⟨agree, congrArg BudgetAnswer.spend (agree.spend tenantId)⟩
  | getRequestCount tenantId => exact ⟨agree, congrArg BudgetAnswer.count (agree.count tenantId)⟩
  | incrementRequests tenantId =>
    have counted := agree.incrementRequests tenantId
    exact ⟨counted, congrArg BudgetAnswer.count (counted.count tenantId)⟩
  | checkBudget tenantId dailyLimitUsd =>
    refine ⟨agree, ?_⟩
    simp only [BudgetTracker.performOn, agree.spend tenantId]

end AgreeOn

theorem agreeOn_connect (today : Day) : AgreeOn today (connect true) (connect false) where
  spend := fun tenantId => by rw [getDailySpend_connect, getDailySpend_connect]
  count := fun tenantId => by rw [getRequestCount_connect, getRequestCount_connect]
  unspent := fun tenantId later _ =>
    ⟨getDailySpend_connect true tenantId later, getDailySpend_connect false tenantId later⟩
  uncounted := fun tenantId later _ =>
    ⟨getRequestCount_connect true tenantId later, getRequestCount_connect false tenantId later⟩

theorem answers_eq_of_agreeOn {today : Day} {first second : BudgetTracker}
    (agree : AgreeOn today first second) {moments : List BudgetMoment}
    (following : ∀ moment ∈ moments, today ≤ moment.today)
    (ordered : (moments.map BudgetMoment.now).Pairwise (· ≤ ·)) :
    answers perform first moments = answers perform second moments := by
  induction moments generalizing today first second with
  | nil => rfl
  | cons moment rest ih =>
    rw [List.map_cons, List.pairwise_cons] at ordered
    have now := (agree.mono (following moment List.mem_cons_self)).expire moment.expired
    have performed := now.performOn moment.operation
    rw [answers, answers]
    congr 1
    · exact performed.2
    · apply ih performed.1
      · intro other member
        apply Nat.div_le_div_right
        exact ordered.1 other.now (List.mem_map_of_mem member)
      · exact ordered.2

/-- In Redis and in memory, operations whose times do not decrease are answered alike, over
any number of days and tenants. -/
theorem redis_agrees_with_memory (moments : List BudgetMoment)
    (ordered : (moments.map BudgetMoment.now).Pairwise (· ≤ ·)) :
    answers perform (connect true) moments = answers perform (connect false) moments := by
  apply answers_eq_of_agreeOn (agreeOn_connect 0)
  · intro moment _
    exact Nat.zero_le _
  · exact ordered

def overMidnight : List BudgetMoment := [{ now := 86399, operation := .recordCost "acme" (1 / 2) },
   { now := 86400, operation := .getDailySpend "acme" },
   { now := 86401, operation := .incrementRequests "acme", expired := fun _ => true }]

theorem redis_agrees_overMidnight : (overMidnight.map BudgetMoment.now).Pairwise (· ≤ ·) ∧
      answers perform (connect true) overMidnight = answers perform (connect false) overMidnight ∧
      answers perform (connect true) overMidnight = [.spend (1 / 2), .spend 0, .count 1] :=
  ⟨by decide, redis_agrees_with_memory overMidnight (by decide), by decide +kernel⟩

end BudgetTracker

end Onpremai.Gateway
