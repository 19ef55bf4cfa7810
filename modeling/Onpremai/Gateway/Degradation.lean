import Mathlib.Tactic.Linarith
import Onpremai.Gateway.Models

/-!
# Degradation levels

The share of the daily limit that a tenant has spent decides which tiers its
requests may use, and whether they reach a model at all.
-/

namespace Onpremai.Gateway

open Onpremai.Library

namespace DegradationLevel

def fullService : Nat := 0

def noStrong : Nat := 1

/-- Mid tier gone. -/
def fastOnly : Nat := 2

/-- All models gone. -/
def deterministicOnly : Nat := 3

def queued : Nat := 4

end DegradationLevel

open DegradationLevel

def computeLevel (dailySpend dailyLimit : Rat) : Nat :=
  if dailyLimit ≤ 0 then fullService
  else
    let ratio := dailySpend / dailyLimit
    if 1 ≤ ratio then queued
    else if 95 / 100 ≤ ratio then deterministicOnly
    else if 85 / 100 ≤ ratio then fastOnly
    else if 70 / 100 ≤ ratio then noStrong
    else fullService

def tiersForLevel (level : Nat) : List String :=
  if level = fullService then ["fast", "mid", "strong"]
  else if level = noStrong then ["fast", "mid"]
  else if level = fastOnly then ["fast"]
  else []

/-- Tiers from the highest to the lowest. -/
def tierPriority : List String := ["strong", "mid", "fast"]

def capTierForLevel (level : Nat) (requestedTier : String) : String :=
  let allowed := tiersForLevel level
  if allowed.isEmpty then requestedTier
  else if requestedTier ∉ tierPriority then requestedTier
  else
    match (tierPriority.drop (tierPriority.idxOf requestedTier)).find? (· ∈ allowed) with
    | some tier => tier
    | none => allowed.head?.getD requestedTier

abbrev TenantLevels := Dict String Nat

namespace TenantLevels

variable (levels : TenantLevels) (tenantId : String)

def getLevel : Nat := (levels.get? tenantId).getD fullService

def updateForSpend (cost : CostConfig) (dailySpend : Rat) : TenantLevels :=
  levels.set tenantId (computeLevel dailySpend cost.maxPerTenantPerDayUsd)

def isTierAllowed (tier : String) : Bool := decide (tier ∈ tiersForLevel (levels.getLevel tenantId))

def shouldQueue : Bool := decide (queued ≤ levels.getLevel tenantId)

def shouldRejectLlm : Bool := decide (deterministicOnly ≤ levels.getLevel tenantId)

def capTier (requestedTier : String) : String :=
  capTierForLevel (levels.getLevel tenantId) requestedTier

variable {levels tenantId}

@[simp] theorem getLevel_updateForSpend (cost : CostConfig) (dailySpend : Rat) :
    (levels.updateForSpend tenantId cost dailySpend).getLevel tenantId =
      computeLevel dailySpend cost.maxPerTenantPerDayUsd := by
  simp [getLevel, updateForSpend]

end TenantLevels

theorem deterministicOnly_le_computeLevel_iff {dailySpend dailyLimit : Rat}
    (positive : 0 < dailyLimit) :
    deterministicOnly ≤ computeLevel dailySpend dailyLimit ↔
      95 / 100 * dailyLimit ≤ dailySpend := by
  have share : 95 / 100 * dailyLimit ≤ dailySpend ↔ 95 / 100 ≤ dailySpend / dailyLimit :=
    (le_div_iff₀ positive).symm
  rw [share, computeLevel, if_neg (not_le.mpr positive)]
  dsimp only
  split
  · next full =>
    constructor
    · intro _
      linarith
    · intro _
      decide
  · split
    · next most => exact ⟨fun _ => most, fun _ => le_refl _⟩
    · next less =>
      constructor
      · intro high
        split at high
        · exact absurd high (by decide)
        · split at high
          · exact absurd high (by decide)
          · exact absurd high (by decide)
      · intro most
        exact absurd most less

theorem capTierForLevel_mem {level : Nat} (anyAllowed : level < deterministicOnly)
    {requestedTier : String} (known : requestedTier ∈ tierPriority) :
    capTierForLevel level requestedTier ∈ tiersForLevel level := by
  have three : level = 0 ∨ level = 1 ∨ level = 2 := by
    simp only [deterministicOnly] at anyAllowed
    omega
  simp only [tierPriority, List.mem_cons, List.not_mem_nil, or_false] at known
  rcases three with rfl | rfl | rfl <;> rcases known with rfl | rfl | rfl <;> decide

theorem capTierForLevel_of_notMem (level : Nat) {requestedTier : String}
    (unknown : requestedTier ∉ tierPriority) :
    capTierForLevel level requestedTier = requestedTier := by
  simp only [capTierForLevel, if_pos unknown, ite_self]

end Onpremai.Gateway
