import Mathlib.Algebra.Order.BigOperators.Group.List
import Mathlib.Data.Rat.Floor
import Onpremai.Preprocessor.ResponseIsolation

/-!
# Weights of generated criteria

The weights of an answer are clamped one by one and scaled to the total of one.  A scaled weight
is rounded to three decimals, so that many small weights move the total, or vanish.
-/

namespace Onpremai.Preprocessor

open Onpremai.Library

/-- How far rounding moves a number: a half goes to the even neighbour. -/
def deviation (number : Rat) : Rat :=
  let rest := number - number.floor
  if rest < 1 / 2 then -rest
  else if 1 / 2 < rest then 1 - rest
  else if number.floor % 2 = 0 then -rest else 1 - rest

theorem roundThousandths_eq (value : Rat) :
    roundThousandths value = value + deviation (value * 1000) / 1000 := by
  dsimp only [roundThousandths, deviation]
  split_ifs <;> push_cast <;> ring

theorem rest_bounds (number : Rat) : 0 ≤ number - number.floor ∧ number - number.floor < 1 := by
  have floor : number.floor = ⌊number⌋ := rfl
  rw [floor]
  exact ⟨sub_nonneg.mpr (Int.floor_le number), sub_lt_iff_lt_add'.mpr (Int.lt_floor_add_one number)⟩

theorem abs_deviation_le (number : Rat) : |deviation number| ≤ 1 / 2 := by
  have bounds := rest_bounds number
  dsimp only [deviation]
  rw [abs_le]
  split_ifs <;> constructor <;> linarith

theorem roundThousandths_pos_iff {value : Rat} (positive : 0 < value) :
    0 < roundThousandths value ↔ 1 / 2000 < value := by
  have bounds := rest_bounds (value * 1000)
  have scaled : 0 < value * 1000 := by linarith
  have floorNonneg : 0 ≤ (value * 1000).floor := Int.floor_nonneg.mpr scaled.le
  dsimp only [roundThousandths]
  rw [div_pos_iff_of_pos_right (by norm_num), Int.cast_pos]
  by_cases large : 1 ≤ (value * 1000).floor
  · have least : (1 : Rat) ≤ (value * 1000).floor := by exact_mod_cast large
    apply iff_of_true
    · split_ifs <;> omega
    · linarith
  · have zero : (value * 1000).floor = 0 := by omega
    rw [zero, Int.cast_zero, sub_zero]
    split_ifs with less more even
    · exact iff_of_false (by simp) (by linarith)
    · exact iff_of_true (by simp) (by linarith)
    · exact iff_of_false (by simp) (by linarith)
    · exact absurd rfl even

/-- The weights are positive and add up to about one. -/
def Balanced (weights : List Rat) : Prop :=
  (∀ weight ∈ weights, 0 < weight) ∧ |weights.sum - 1| ≤ 5 / 100

/-- The total is about one already; or no scaled weight vanishes, and rounding moves the total by
no more than fifty thousandths. -/
def RoundsWell (weights : List Rat) : Prop := |weights.sum - 1| ≤ 5 / 100 ∨
    ((∀ weight ∈ weights, weights.sum / 2000 < weight) ∧
      |(weights.map fun weight => deviation (weight / weights.sum * 1000)).sum| ≤ 50)

def IsClamped (weight : Rat) : Prop := 5 / 100 ≤ weight ∧ weight ≤ 30 / 100

section

variable {criteria : List (GeneratedCriterion Document)} {weights : List Rat}

theorem sum_round (weights : List Rat) (total : Rat) :
    (weights.map fun weight => roundThousandths (weight / total)).sum = weights.sum / total +
        (weights.map fun weight => deviation (weight / total * 1000)).sum / 1000 := by
  induction weights with
  | nil => simp
  | cons weight rest ih =>
    rw [List.map_cons, List.sum_cons, ih, roundThousandths_eq, List.sum_cons, List.map_cons,
      List.sum_cons]
    ring

theorem sum_pos (clamped : ∀ weight ∈ weights, IsClamped weight) (some : weights ≠ []) :
    0 < weights.sum := by
  apply List.sum_pos _ _ some
  intro weight member
  have least := (clamped weight member).1
  linarith

theorem map_weight_normalizeWeights (isTotal : criteria.map (·.weight) = weights)
    (positive : 0 < weights.sum) :
    (normalizeWeights criteria).map (·.weight) =
      if |weights.sum - 1| ≤ 5 / 100 then weights
      else weights.map fun weight => roundThousandths (weight / weights.sum) := by
  have total : (criteria.map GeneratedCriterion.weight).foldl (· + ·) 0 = weights.sum := by
    rw [isTotal, List.sum_eq_foldl]
  have apart : (5 / 100 < weights.sum - 1 ∨ 5 / 100 < 1 - weights.sum) ↔
      ¬ |weights.sum - 1| ≤ 5 / 100 := by
    rw [not_le, lt_abs, neg_sub]
  simp only [normalizeWeights, total]
  rw [if_neg positive.not_ge]
  by_cases near : |weights.sum - 1| ≤ 5 / 100
  · rw [if_pos near, if_neg (by rwa [apart, not_not]), isTotal]
  · rw [if_neg near, if_pos (apart.mpr near), List.map_map, ← isTotal, List.map_map]
    rfl

theorem balanced_normalizeWeights_iff (clamped : ∀ weight ∈ weights, IsClamped weight)
    (some : weights ≠ []) (isTotal : criteria.map (·.weight) = weights) :
    Balanced ((normalizeWeights criteria).map (·.weight)) ↔ RoundsWell weights := by
  have positive := sum_pos clamped some
  have one : weights.sum / weights.sum = 1 := div_self positive.ne'
  rw [map_weight_normalizeWeights isTotal positive, RoundsWell]
  split
  · next near =>
    apply iff_of_true _ (Or.inl near)
    constructor
    · intro weight member
      have least := (clamped weight member).1
      linarith
    · exact near
  · next apart =>
    rw [or_iff_right apart, Balanced, List.forall_mem_map, sum_round, one]
    apply and_congr
    · apply forall₂_congr
      intro weight member
      have least := (clamped weight member).1
      rw [roundThousandths_pos_iff (div_pos (by linarith) positive), lt_div_iff₀ positive]
      ring_nf
    · rw [add_sub_cancel_left, abs_div, div_le_iff₀ (by norm_num)]
      norm_num

end

section

variable (decoders : Decoders)

/-- What a value of the answer counts for; what is no number counts for the default. -/
def weightOf (raw : Document) : Rat :=
  match decoders.floatOf raw with
  | .ok value => clampFloat value
  | .error _ => 2 / 10

/-- The criteria get weights from the values of an answer that are positive and add up to about
one. -/
def WeighsWell (raws : List Document) : Prop :=
  ∃ clamped, raws.mapM (clampWeight decoders) = .ok clamped ∧
    ∀ criteria : List (GeneratedCriterion Document), criteria.map (·.weight) = clamped →
      Balanced ((normalizeWeights criteria).map (·.weight))

variable {decoders}

theorem isClamped_weightOf (raw : Document) : IsClamped (weightOf decoders raw) := by
  rw [weightOf]
  split
  · next value _ =>
    cases value with
    | finite value =>
      exact ⟨le_max_left _ _, max_le (by norm_num) (min_le_left _ _)⟩
    | infinite positive => cases positive <;> norm_num [IsClamped, clampFloat]
    | nan => norm_num [IsClamped, clampFloat]
  · norm_num [IsClamped]

theorem clampWeight_eq {raw : Document} (inRange : decoders.floatOf raw ≠ .error .overflowError) :
    clampWeight decoders raw = .ok (weightOf decoders raw) := by
  obtain ⟨weight, clamps⟩ := returns_clampWeight.mpr inRange
  rw [weightOf]
  rw [clampWeight] at clamps ⊢
  cases converted : decoders.floatOf raw with
  | ok value => rfl
  | error exn =>
    rw [converted] at clamps
    cases exn with
    | typeError => rfl
    | valueError => rfl
    | _ => cases clamps

theorem exists_criteria (weights : List Rat) :
    ∃ criteria : List (GeneratedCriterion Document), criteria.map (·.weight) = weights := by
  induction weights with
  | nil => exact ⟨[], rfl⟩
  | cons weight rest ih =>
    obtain ⟨criteria, same⟩ := ih
    refine ⟨{ id := "", category := "", question := "", evidenceType := "", passCondition := ""
              failCondition := "", weight := weight } :: criteria, ?_⟩
    rw [List.map_cons, same]

theorem isClamped_map (raws : List Document) :
    ∀ weight ∈ raws.map (weightOf decoders), IsClamped weight := by
  rw [List.forall_mem_map]
  exact fun raw _ => isClamped_weightOf raw

theorem roundsWell_of_weighsWell {raws : List Document} (some : raws ≠ [])
    (weighs : WeighsWell decoders raws) :
    (∀ raw ∈ raws, decoders.floatOf raw ≠ .error .overflowError) ∧
      RoundsWell (raws.map (weightOf decoders)) := by
  obtain ⟨weights, ran, weighs⟩ := weighs
  have every : ∀ raw ∈ raws, decoders.floatOf raw ≠ .error .overflowError :=
    fun raw member => returns_clampWeight.mp (returns_mapM.mp ⟨weights, ran⟩ raw member)
  rw [mapM_of_ok fun raw member => clampWeight_eq (every raw member), Except.ok.injEq] at ran
  obtain ⟨criteria, same⟩ := exists_criteria weights
  refine ⟨every, ?_⟩
  rw [← balanced_normalizeWeights_iff (isClamped_map raws) (by simpa using some)
    (same.trans ran.symm)]
  exact weighs criteria same

end

theorem abs_sum_deviation_le (weights : List Rat) (total : Rat) :
    |(weights.map fun weight => deviation (weight / total * 1000)).sum| ≤ weights.length / 2 := by
  induction weights with
  | nil => simp
  | cons weight rest ih =>
    rw [List.map_cons, List.sum_cons, List.length_cons, Nat.cast_succ]
    have moved := abs_deviation_le (weight / total * 1000)
    have triangle := abs_add_le (deviation (weight / total * 1000))
      (rest.map fun weight => deviation (weight / total * 1000)).sum
    linarith

theorem roundsWell_of_length_le {weights : List Rat}
    (clamped : ∀ weight ∈ weights, IsClamped weight) (few : weights.length ≤ 100) :
    RoundsWell weights := by
  have count : (weights.length : Rat) ≤ 100 := by exact_mod_cast few
  have most : weights.sum ≤ weights.length * (30 / 100) := by
    have sum := List.sum_le_card_nsmul weights (30 / 100) fun weight member =>
      (clamped weight member).2
    rwa [nsmul_eq_mul] at sum
  right
  constructor
  · intro weight member
    have least := (clamped weight member).1
    linarith
  · have moved := abs_sum_deviation_le weights weights.sum
    linarith

theorem normalizeWeights_of_near {criteria : List (GeneratedCriterion Document)}
    (near : |(criteria.map (·.weight)).sum - 1| ≤ 5 / 100) :
    normalizeWeights criteria = criteria := by
  have bounds := abs_le.mp near
  have total : (criteria.map GeneratedCriterion.weight).foldl (· + ·) 0 =
      (criteria.map (·.weight)).sum :=
    List.sum_eq_foldl.symm
  simp only [normalizeWeights, total]
  rw [if_neg (by linarith), if_neg]
  intro apart
  cases apart with
  | inl high => linarith
  | inr low => linarith

def heavyCriterion : GeneratedCriterion Document where
  id := "CC6.1-1"
  category := "policy"
  question := "Is access reviewed?"
  evidenceType := "policy"
  passCondition := "Reviewed"
  failCondition := "Not reviewed"
  weight := 3 / 10

/-- A runtime that decodes no text. -/
def numberDecoders : Decoders where
  loads _ := .error .jsonDecodeError
  fromIsoFormat _ := .error .valueError
  intOfString _ := none
  floatOfString _ := none
  reprOf _ := ""

end Onpremai.Preprocessor
