import Mathlib.Algebra.BigOperators.Ring.List
import Mathlib.Tactic.Positivity

/-!
# Weighted averages over lists

Sums and averages of a value over a list, each item counted with a weight.  The
facts here are the ones a scoring rule rests on: an average of values between two
bounds lies between them, and raising values never lowers the average.
-/

namespace Onpremai.Library

universe u v

variable {ι : Type u} {α : Type v} [Field α] [LinearOrder α] [IsStrictOrderedRing α]

def totalWeight (weight : ι → α) (items : List ι) : α := (items.map weight).sum

def weightedSum (weight value : ι → α) (items : List ι) : α :=
  (items.map fun item => weight item * value item).sum

def weightedAverage (weight value : ι → α) (items : List ι) : α :=
  weightedSum weight value items / totalWeight weight items

omit [LinearOrder α] [IsStrictOrderedRing α] in
@[simp] theorem totalWeight_nil (weight : ι → α) : totalWeight weight [] = 0 := rfl

omit [LinearOrder α] [IsStrictOrderedRing α] in
@[simp] theorem totalWeight_cons (weight : ι → α) (item : ι) (items : List ι) :
    totalWeight weight (item :: items) = weight item + totalWeight weight items := by
  simp [totalWeight]

omit [LinearOrder α] [IsStrictOrderedRing α] in
@[simp] theorem weightedSum_nil (weight value : ι → α) : weightedSum weight value [] = 0 := rfl

omit [LinearOrder α] [IsStrictOrderedRing α] in
@[simp] theorem weightedSum_cons (weight value : ι → α) (item : ι) (items : List ι) :
    weightedSum weight value (item :: items) =
      weight item * value item + weightedSum weight value items := by
  simp [weightedSum]

omit [LinearOrder α] [IsStrictOrderedRing α] in
theorem totalWeight_filter_add (weight : ι → α) (accept : ι → Bool) (items : List ι) :
    totalWeight weight (items.filter accept) +
      totalWeight weight (items.filter fun item => !accept item) =
        totalWeight weight items := by
  induction items with
  | nil => simp
  | cons item items ih =>
    cases accepted : accept item
    · simp [accepted, ← ih, add_left_comm]
    · simp [accepted, ← ih, add_assoc]

theorem totalWeight_nonneg {weight : ι → α} {items : List ι}
    (nonneg : ∀ item ∈ items, 0 ≤ weight item) : 0 ≤ totalWeight weight items := by
  apply List.sum_nonneg
  simpa using nonneg

theorem weightedSum_mono {weight low high : ι → α} {items : List ι}
    (nonneg : ∀ item ∈ items, 0 ≤ weight item)
    (raised : ∀ item ∈ items, low item ≤ high item) :
    weightedSum weight low items ≤ weightedSum weight high items := by
  apply List.sum_le_sum
  intro item member
  exact mul_le_mul_of_nonneg_left (raised item member) (nonneg item member)

omit [LinearOrder α] [IsStrictOrderedRing α] in
theorem weightedSum_const (weight : ι → α) (value : α) (items : List ι) :
    weightedSum weight (fun _ => value) items = totalWeight weight items * value := by
  simp [weightedSum, totalWeight, List.sum_map_mul_right]

theorem weightedAverage_mono {weight low high : ι → α} {items : List ι}
    (nonneg : ∀ item ∈ items, 0 ≤ weight item)
    (raised : ∀ item ∈ items, low item ≤ high item) :
    weightedAverage weight low items ≤ weightedAverage weight high items :=
  div_le_div_of_nonneg_right (weightedSum_mono nonneg raised) (totalWeight_nonneg nonneg)

section

variable {weight value : ι → α} {items : List ι} {bound : α}

/-- A weighted average of values that are at least `bound` is at least `bound`. -/
theorem le_weightedAverage (nonneg : ∀ item ∈ items, 0 ≤ weight item)
    (bounded : ∀ item ∈ items, bound ≤ value item) (weighted : totalWeight weight items ≠ 0) :
    bound ≤ weightedAverage weight value items := by
  have positive : 0 < totalWeight weight items :=
    lt_of_le_of_ne (totalWeight_nonneg nonneg) weighted.symm
  rw [weightedAverage, le_div_iff₀ positive, mul_comm, ← weightedSum_const]
  exact weightedSum_mono nonneg bounded

/-- A weighted average of values that are at most `bound` is at most `bound`. -/
theorem weightedAverage_le (nonneg : ∀ item ∈ items, 0 ≤ weight item)
    (bounded : ∀ item ∈ items, value item ≤ bound) (weighted : totalWeight weight items ≠ 0) :
    weightedAverage weight value items ≤ bound := by
  have positive : 0 < totalWeight weight items :=
    lt_of_le_of_ne (totalWeight_nonneg nonneg) weighted.symm
  rw [weightedAverage, div_le_iff₀ positive, mul_comm, ← weightedSum_const]
  exact weightedSum_mono nonneg bounded

end

end Onpremai.Library
