import Mathlib.Tactic.NormNum
import Onpremai.Gateway.Models

/-!
# Budget tracker

Spend and request counts are kept per tenant and UTC day: in Redis under keys
made of both, or in memory under the tenant with the day beside the counts.  An
expiry of a key falls after its day, when the key is no longer read.
-/

namespace Onpremai.Gateway

open Onpremai.Library

/-- In-memory budget state for one tenant and one day. -/
structure TenantBudgetState where
  dailySpend : Rat := 0
  requestCount : Nat := 0
  date : Day

/-- The counters in Redis, keyed by tenant and day. -/
structure RedisStore where
  costs : Dict (String × Day) Rat := .empty
  requests : Dict (String × Day) Nat := .empty

/-- Per-tenant cost accumulator: in Redis when it is connected, else in memory. -/
structure BudgetTracker where
  redis : Option RedisStore := some {}
  fallback : Dict String TenantBudgetState := .empty

namespace BudgetTracker

def connect (reachable : Bool) : BudgetTracker where
  redis := if reachable then some {} else none

variable (tracker : BudgetTracker) (tenantId : String) (today : Day)

/-- In-memory state of a tenant, reset on a new day. -/
def getOrCreateState : TenantBudgetState :=
  match tracker.fallback.get? tenantId with
  | none => { date := today }
  | some state => if state.date = today then state else { date := today }

def getDailySpend : Rat :=
  match tracker.redis with
  | some store => (store.costs.get? (tenantId, today)).getD 0
  | none =>
    match tracker.fallback.get? tenantId with
    | none => 0
    | some state => if state.date = today then state.dailySpend else 0

def recordCost (costUsd : Rat) : BudgetTracker :=
  match tracker.redis with
  | some store =>
    let total := (store.costs.get? (tenantId, today)).getD 0 + costUsd
    { tracker with redis := some { store with costs := store.costs.set (tenantId, today) total } }
  | none =>
    let state := tracker.getOrCreateState tenantId today
    { tracker with
      fallback := tracker.fallback.set tenantId
        { state with dailySpend := state.dailySpend + costUsd } }

def incrementRequests : BudgetTracker :=
  match tracker.redis with
  | some store =>
    let count := (store.requests.get? (tenantId, today)).getD 0 + 1
    { tracker with
      redis := some { store with requests := store.requests.set (tenantId, today) count } }
  | none =>
    let state := tracker.getOrCreateState tenantId today
    { tracker with
      fallback := tracker.fallback.set tenantId
        { state with requestCount := state.requestCount + 1 } }

def getRequestCount : Nat :=
  match tracker.redis with
  | some store => (store.requests.get? (tenantId, today)).getD 0
  | none =>
    match tracker.fallback.get? tenantId with
    | none => 0
    | some state => if state.date = today then state.requestCount else 0

variable {tracker tenantId today}

theorem dailySpend_getOrCreateState (tenantId : String) (today : Day)
    (memory : tracker.redis = none) :
    (tracker.getOrCreateState tenantId today).dailySpend =
      tracker.getDailySpend tenantId today := by
  rw [getOrCreateState, getDailySpend, memory]
  cases tracker.fallback.get? tenantId with
  | none => rfl
  | some state =>
    dsimp only
    split <;> rfl

theorem date_getOrCreateState :
    (tracker.getOrCreateState tenantId today).date = today := by
  rw [getOrCreateState]
  cases tracker.fallback.get? tenantId with
  | none => rfl
  | some state =>
    dsimp only
    split
    · assumption
    · rfl

theorem getDailySpend_connect (reachable : Bool) (tenantId : String) (today : Day) :
    (connect reachable).getDailySpend tenantId today = 0 := by
  cases reachable <;> rfl

theorem getDailySpend_recordCost (tracker : BudgetTracker) (tenantId other : String)
    (today : Day) (costUsd : Rat) :
    (tracker.recordCost tenantId today costUsd).getDailySpend other today =
      tracker.getDailySpend other today + if other = tenantId then costUsd else 0 := by
  cases connected : tracker.redis with
  | some store =>
    simp only [recordCost, getDailySpend, connected, Dict.get?_set, Prod.mk.injEq, and_true]
    by_cases same : tenantId = other
    · subst same
      simp
    · simp [same, Ne.symm same]
  | none =>
    simp only [recordCost, getDailySpend, connected, Dict.get?_set]
    by_cases same : tenantId = other
    · subst same
      have spend := dailySpend_getOrCreateState tenantId today connected
      rw [getDailySpend, connected] at spend
      simp [date_getOrCreateState, spend]
    · simp [same, Ne.symm same]

theorem getDailySpend_recordCost_later {later : Day} (ahead : today < later)
    {other : String} (fresh : tracker.getDailySpend other later = 0) (costUsd : Rat) :
    (tracker.recordCost tenantId today costUsd).getDailySpend other later = 0 := by
  have apart : today ≠ later := Nat.ne_of_lt ahead
  cases connected : tracker.redis with
  | some store =>
    rw [getDailySpend, connected] at fresh
    simp [recordCost, getDailySpend, connected, Dict.get?_set, apart, fresh]
  | none =>
    rw [getDailySpend, connected] at fresh
    simp only [recordCost, getDailySpend, connected, Dict.get?_set]
    by_cases same : tenantId = other
    · simp [same, date_getOrCreateState, apart]
    · simpa [same] using fresh

theorem getDailySpend_incrementRequests (tracker : BudgetTracker) (tenantId other : String)
    (today : Day) :
    (tracker.incrementRequests tenantId today).getDailySpend other today =
      tracker.getDailySpend other today := by
  cases connected : tracker.redis with
  | some store => simp [incrementRequests, getDailySpend, connected]
  | none =>
    simp only [incrementRequests, getDailySpend, connected, Dict.get?_set]
    by_cases same : tenantId = other
    · subst same
      have spend := dailySpend_getOrCreateState tenantId today connected
      rw [getDailySpend, connected] at spend
      simp [date_getOrCreateState, spend]
    · simp [same]

theorem getDailySpend_incrementRequests_later {later : Day} (ahead : today < later)
    {other : String} (fresh : tracker.getDailySpend other later = 0) :
    (tracker.incrementRequests tenantId today).getDailySpend other later = 0 := by
  have apart : today ≠ later := Nat.ne_of_lt ahead
  cases connected : tracker.redis with
  | some store =>
    rw [getDailySpend, connected] at fresh
    simpa [incrementRequests, getDailySpend, connected] using fresh
  | none =>
    rw [getDailySpend, connected] at fresh
    simp only [incrementRequests, getDailySpend, connected, Dict.get?_set]
    by_cases same : tenantId = other
    · simp [same, date_getOrCreateState, apart]
    · simpa [same] using fresh

theorem getRequestCount_incrementRequests (tracker : BudgetTracker) (tenantId other : String)
    (today : Day) :
    (tracker.incrementRequests tenantId today).getRequestCount other today =
      tracker.getRequestCount other today + if other = tenantId then 1 else 0 := by
  cases connected : tracker.redis with
  | some store =>
    simp only [incrementRequests, getRequestCount, connected, Dict.get?_set, Prod.mk.injEq,
      and_true]
    by_cases same : tenantId = other
    · subst same
      simp
    · simp [same, Ne.symm same]
  | none =>
    simp only [incrementRequests, getRequestCount, connected, Dict.get?_set]
    by_cases same : tenantId = other
    · subst same
      simp only [if_pos, date_getOrCreateState]
      rw [getOrCreateState]
      cases tracker.fallback.get? tenantId with
      | none => rfl
      | some state =>
        dsimp only
        split <;> simp_all
    · simp [same, Ne.symm same]

theorem getRequestCount_connect (reachable : Bool) (tenantId : String) (today : Day) :
    (connect reachable).getRequestCount tenantId today = 0 := by
  cases reachable <;> rfl

theorem requestCount_getOrCreateState (tenantId : String) (today : Day)
    (memory : tracker.redis = none) :
    (tracker.getOrCreateState tenantId today).requestCount =
      tracker.getRequestCount tenantId today := by
  rw [getOrCreateState, getRequestCount, memory]
  cases tracker.fallback.get? tenantId with
  | none => rfl
  | some state =>
    dsimp only
    split <;> rfl

theorem getRequestCount_recordCost (tracker : BudgetTracker) (tenantId other : String)
    (today : Day) (costUsd : Rat) :
    (tracker.recordCost tenantId today costUsd).getRequestCount other today =
      tracker.getRequestCount other today := by
  cases connected : tracker.redis with
  | some store => simp [recordCost, getRequestCount, connected]
  | none =>
    simp only [recordCost, getRequestCount, connected, Dict.get?_set]
    by_cases same : tenantId = other
    · subst same
      have count := requestCount_getOrCreateState tenantId today connected
      rw [getRequestCount, connected] at count
      simp [date_getOrCreateState, count]
    · simp [same]

theorem getRequestCount_recordCost_later {later : Day} (ahead : today < later)
    {other : String} (fresh : tracker.getRequestCount other later = 0) (costUsd : Rat) :
    (tracker.recordCost tenantId today costUsd).getRequestCount other later = 0 := by
  have apart : today ≠ later := Nat.ne_of_lt ahead
  cases connected : tracker.redis with
  | some store =>
    rw [getRequestCount, connected] at fresh
    simpa [recordCost, getRequestCount, connected] using fresh
  | none =>
    rw [getRequestCount, connected] at fresh
    simp only [recordCost, getRequestCount, connected, Dict.get?_set]
    by_cases same : tenantId = other
    · simp [same, date_getOrCreateState, apart]
    · simpa [same] using fresh

theorem getRequestCount_incrementRequests_later {later : Day} (ahead : today < later)
    {other : String} (fresh : tracker.getRequestCount other later = 0) :
    (tracker.incrementRequests tenantId today).getRequestCount other later = 0 := by
  have apart : today ≠ later := Nat.ne_of_lt ahead
  cases connected : tracker.redis with
  | some store =>
    rw [getRequestCount, connected] at fresh
    simp [incrementRequests, getRequestCount, connected, Dict.get?_set, apart, fresh]
  | none =>
    rw [getRequestCount, connected] at fresh
    simp only [incrementRequests, getRequestCount, connected, Dict.get?_set]
    by_cases same : tenantId = other
    · simp [same, date_getOrCreateState, apart]
    · simpa [same] using fresh

end BudgetTracker

end Onpremai.Gateway
