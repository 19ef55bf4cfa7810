import Mathlib.Tactic.Linarith
import Onpremai.AgentEval.Layers

/-!
# What a score guarantees

The score lies in the unit interval, and a compliant status says something about
every weight, category and judgment behind it.  Improving one verdict moves
neither the score nor the status down.
-/

namespace Onpremai.AgentEval

open Onpremai.Library

theorem scoreValues_nonneg (result : CriterionResultEnum) : 0 ≤ scoreValues result := by
  cases result <;> simp [scoreValues]

theorem scoreValues_le_one (result : CriterionResultEnum) : scoreValues result ≤ 1 := by
  cases result <;> norm_num [scoreValues]

section

variable (allResults : Dict String CriterionResult) (criterion : Criterion)

theorem resultValue_nonneg : 0 ≤ resultValue allResults criterion := by
  rw [resultValue]
  split
  · exact le_rfl
  · exact scoreValues_nonneg _

theorem resultValue_le_one : resultValue allResults criterion ≤ 1 := by
  rw [resultValue]
  split
  · exact zero_le_one
  · exact scoreValues_le_one _

end

section Weights

variable (allResults : Dict String CriterionResult) (criteria : List Criterion)

/-- The criteria that the average counts. -/
def assessableCriteria : List Criterion := criteria.filter (isAssessable allResults)

def nonAssessableWeight : Rat := totalWeight Criterion.weight
    (criteria.filter fun criterion => !isAssessable allResults criterion)

def averageScore : Rat := weightedAverage Criterion.weight (resultValue allResults)
    (assessableCriteria allResults criteria)

def TooLittleEvidence : Prop := (0 < totalWeight Criterion.weight criteria ∧
      1 / 2 ≤ nonAssessableWeight allResults criteria /
        totalWeight Criterion.weight criteria) ∨
    totalWeight Criterion.weight (assessableCriteria allResults criteria) = 0

instance : Decidable (TooLittleEvidence allResults criteria) := inferInstanceAs (Decidable (_ ∨ _))

theorem calculateScore_eq (partialEvaluation : Bool) :
    calculateScore allResults criteria partialEvaluation =
      if TooLittleEvidence allResults criteria then (0, .insufficientEvidence)
      else
        let finalScore := capScore (checkPolicyFail allResults)
          (averageScore allResults criteria)
        if 1 / 4 < checkImplementationFailRatio allResults then
          (finalScore, .nonCompliant)
        else (finalScore, statusOfScore partialEvaluation finalScore) := by
  simp only [calculateScore, weighCriteria_eq, sumWeighted_eq, TooLittleEvidence,
    averageScore, weightedAverage, assessableCriteria, nonAssessableWeight]
  by_cases half : 0 < totalWeight Criterion.weight criteria ∧ 1 / 2 ≤ totalWeight Criterion.weight
        (criteria.filter fun criterion => !isAssessable allResults criterion) /
          totalWeight Criterion.weight criteria
  · simp only [half, and_self, if_true, true_or]
  · simp only [half, if_false, false_or]

end Weights

theorem capScore_le (policyFail : Bool) (score : Rat) : capScore policyFail score ≤ score := by
  rw [capScore]
  split
  · next above => exact above.2.le
  · exact le_rfl

theorem capScore_nonneg (policyFail : Bool) {score : Rat} (nonneg : 0 ≤ score) :
    0 ≤ capScore policyFail score := by
  rw [capScore]
  split
  · norm_num [policyFailCap]
  · exact nonneg

theorem capScore_of_compliant {policyFail : Bool} {score : Rat}
    (compliant : compliantThreshold ≤ capScore policyFail score) :
    policyFail = false ∧ capScore policyFail score = score := by
  cases policyFail with
  | false => simp [capScore]
  | true =>
    exfalso
    simp only [capScore, true_and] at compliant
    split at compliant
    · norm_num [compliantThreshold, policyFailCap] at compliant
    · next below =>
      have : score < compliantThreshold := by
        norm_num [compliantThreshold, policyFailCap] at below ⊢
        linarith
      linarith

theorem statusOfScore_eq_compliant {partialEvaluation : Bool} {score : Rat}
    (compliant : statusOfScore partialEvaluation score = .compliant) :
    partialEvaluation = false ∧ compliantThreshold ≤ score := by
  cases partialEvaluation with
  | true => simp [statusOfScore] at compliant
  | false =>
    simp only [statusOfScore] at compliant
    split at compliant
    · simp at *
    · split at compliant
      · next reached => exact ⟨rfl, reached⟩
      · split at compliant <;> cases compliant

section Bounds

variable {allResults : Dict String CriterionResult} {criteria : List Criterion}
variable (nonneg : ∀ criterion ∈ criteria, 0 ≤ criterion.weight)

include nonneg in
theorem averageScore_mem_unit (enough : ¬ TooLittleEvidence allResults criteria) :
    0 ≤ averageScore allResults criteria ∧ averageScore allResults criteria ≤ 1 := by
  have weighted : totalWeight Criterion.weight (assessableCriteria allResults criteria) ≠ 0 :=
    fun empty => enough (.inr empty)
  have assessableNonneg : ∀ criterion ∈ assessableCriteria allResults criteria,
      0 ≤ criterion.weight :=
    fun criterion member => nonneg criterion (List.mem_filter.mp member).1
  constructor
  · apply le_weightedAverage assessableNonneg
    · exact fun criterion _ => resultValue_nonneg allResults criterion
    · exact weighted
  · apply weightedAverage_le assessableNonneg
    · exact fun criterion _ => resultValue_le_one allResults criterion
    · exact weighted

include nonneg in
theorem calculateScore_mem_unit (partialEvaluation : Bool) :
    0 ≤ (calculateScore allResults criteria partialEvaluation).1 ∧
      (calculateScore allResults criteria partialEvaluation).1 ≤ 1 := by
  rw [calculateScore_eq]
  by_cases tooLittle : TooLittleEvidence allResults criteria
  · simp [tooLittle]
  · obtain ⟨lower, upper⟩ := averageScore_mem_unit nonneg tooLittle
    have capped : 0 ≤ capScore (checkPolicyFail allResults) (averageScore allResults criteria) ∧
        capScore (checkPolicyFail allResults) (averageScore allResults criteria) ≤ 1 :=
      ⟨capScore_nonneg _ lower, (capScore_le _ _).trans upper⟩
    simp only [tooLittle, if_false]
    split <;> exact capped

include nonneg in
theorem nonAssessableWeight_lt_half (enough : ¬ TooLittleEvidence allResults criteria) :
    2 * nonAssessableWeight allResults criteria < totalWeight Criterion.weight criteria := by
  have split : totalWeight Criterion.weight (assessableCriteria allResults criteria) +
      nonAssessableWeight allResults criteria = totalWeight Criterion.weight criteria :=
    totalWeight_filter_add Criterion.weight (isAssessable allResults) criteria
  have assessable : 0 < totalWeight Criterion.weight
      (assessableCriteria allResults criteria) := by
    apply lt_of_le_of_ne
    · exact totalWeight_nonneg fun criterion member =>
        nonneg criterion (List.mem_filter.mp member).1
    · exact fun empty => enough (.inr empty.symm)
  have skipped : 0 ≤ nonAssessableWeight allResults criteria :=
    totalWeight_nonneg fun criterion member => nonneg criterion (List.mem_filter.mp member).1
  have total : 0 < totalWeight Criterion.weight criteria := by linarith
  by_contra tooMuch
  apply enough
  refine .inl ⟨total, ?_⟩
  rw [le_div_iff₀ total]
  linarith

end Bounds

section Categories

variable (allResults : Dict String CriterionResult)

def recordedUnder (category : String) : List CriterionResult :=
  allResults.values.filter fun result => decide (result.category = category)

def failing (results : List CriterionResult) : List CriterionResult :=
  results.filter fun result => decide (result.result = .fail)

variable {allResults}

theorem checkPolicyFail_eq_false (clear : checkPolicyFail allResults = false) :
    ∀ record ∈ recordedUnder allResults "policy", record.result ≠ .fail := by
  intro record member fails
  obtain ⟨inside, category⟩ := List.mem_filter.mp member
  have := List.any_eq_false.mp clear record inside
  simp [fails, of_decide_eq_true category] at this

theorem checkImplementationFailRatio_le_iff : checkImplementationFailRatio allResults ≤ 1 / 4 ↔
      4 * (failing (recordedUnder allResults "implementation")).length ≤
        (recordedUnder allResults "implementation").length := by
  change (if (recordedUnder allResults "implementation").length = 0 then (0 : Rat)
    else ((failing (recordedUnder allResults "implementation")).length : Rat) /
      (recordedUnder allResults "implementation").length) ≤ 1 / 4 ↔ _
  have fewer : (failing (recordedUnder allResults "implementation")).length ≤
      (recordedUnder allResults "implementation").length := List.length_filter_le _ _
  split
  · next empty =>
    constructor
    · intro _
      omega
    · intro _
      norm_num
  · next occupied =>
    have positive : (0 : Rat) < (recordedUnder allResults "implementation").length := by
      exact_mod_cast Nat.pos_of_ne_zero occupied
    rw [div_le_iff₀ positive, ← @Nat.cast_le Rat]
    push_cast
    constructor <;> intro bound <;> linarith

end Categories

section Node

variable {state : EvalGraphState} {testingCriteria : TestingCriteria}

theorem scoringNode_eq (loaded : state.criteria? = some testingCriteria) (elapsedMs : Rat) :
    (scoringNode elapsedMs state).finalScore =
        some (calculateScore state.finalResults testingCriteria.criteria
          (state.partialEvaluation.getD false)).1 ∧
      (scoringNode elapsedMs state).finalStatus =
        some (calculateScore state.finalResults testingCriteria.criteria
          (state.partialEvaluation.getD false)).2 := by
  simp [scoringNode, loaded, EvalGraphState.finalResults]

theorem calculateScore_eq_compliant {allResults : Dict String CriterionResult}
    {criteria : List Criterion} {partialEvaluation : Bool}
    (compliant : (calculateScore allResults criteria partialEvaluation).2 = .compliant) :
    ¬ TooLittleEvidence allResults criteria ∧ checkPolicyFail allResults = false ∧
      checkImplementationFailRatio allResults ≤ 1 / 4 ∧
      compliantThreshold ≤ averageScore allResults criteria ∧
      partialEvaluation = false := by
  rw [calculateScore_eq] at compliant
  by_cases tooLittle : TooLittleEvidence allResults criteria
  · simp [tooLittle] at compliant
  · simp only [tooLittle, if_false] at compliant
    split at compliant
    · cases compliant
    · next ratio =>
      obtain ⟨complete, reached⟩ := statusOfScore_eq_compliant compliant
      obtain ⟨clear, uncapped⟩ := capScore_of_compliant reached
      rw [uncapped] at reached
      exact ⟨tooLittle, clear, not_lt.mp ratio, reached, complete⟩

theorem calculateScore_partial (allResults : Dict String CriterionResult)
    (criteria : List Criterion) :
    (calculateScore allResults criteria true).2 ≠ .compliant ∧
      (calculateScore allResults criteria true).2 ≠ .partiallyCompliant := by
  rw [calculateScore_eq]
  by_cases tooLittle : TooLittleEvidence allResults criteria
  · simp [tooLittle]
  · simp only [tooLittle, if_false]
    split <;> simp [statusOfScore]

end Node

private def passesOnly (id : String) : RuleHandlers := fun _ =>
  some fun criterion _ _ =>
    .ok { criterionId := criterion.id, category := criterion.category
          result := if criterion.id = id then .pass else .fail
          method := .ruleRowCount }

/-- Two criteria share an id; the second record replaces the first. -/
private def sharedId : TestingCriteria where
  controlId := "AC-2"
  framework := "NIST"
  criteria :=
    [{ id := "AC-2.1", category := "policy", weight := 10 / 100,
       checkType := some "row_count" },
     { id := "AC-2.1", category := "procedure", weight := 0,
       checkType := some "row_count" },
     { id := "AC-2.2", category := "policy", weight := 90 / 100,
       checkType := some "row_count" }]

private def sharedIdState : EvalGraphState where
  testingCriteria := some (some sharedId)

/-- A better verdict for the same criterion. -/
inductive Improves : CriterionResultEnum → CriterionResultEnum → Prop where
  | failToPartial : Improves .fail .partialPass
  | failToPass : Improves .fail .pass
  | partialToPass : Improves .partialPass .pass

def AtMost : ComplianceStatus → ComplianceStatus → Prop
  | .nonCompliant, .partiallyCompliant => True
  | .nonCompliant, .compliant => True
  | .partiallyCompliant, .compliant => True
  | low, high => low = high

@[simp] theorem AtMost.refl (status : ComplianceStatus) : AtMost status status := by
  cases status <;> simp [AtMost]

section

variable {low high : CriterionResultEnum}

theorem Improves.scoreValues_le
    (improves : Improves low high) : scoreValues low ≤ scoreValues high := by
  cases improves <;> norm_num [scoreValues]

theorem Improves.nonAssessable_eq
    (improves : Improves low high) : nonAssessable high = nonAssessable low := by
  cases improves <;> rfl

theorem Improves.ne_fail (improves : Improves low high) : high ≠ .fail := by
  cases improves <;> simp

end

theorem capScore_mono {lowFail highFail : Bool} {low high : Rat}
    (fewer : highFail = true → lowFail = true) (le : low ≤ high) :
    capScore lowFail low ≤ capScore highFail high := by
  cases highFail with
  | false =>
    calc capScore lowFail low ≤ low := capScore_le _ _
      _ ≤ high := le
      _ = capScore false high := by simp [capScore]
  | true =>
    simp only [capScore, fewer rfl, true_and]
    split
    · next lowOver =>
      rw [if_pos (lowOver.trans_le le)]
    · next lowBelow =>
      split
      · exact not_lt.mp lowBelow
      · exact le

theorem statusOfScore_mono {low high : Rat} (le : low ≤ high) :
    AtMost (statusOfScore false low) (statusOfScore false high) := by
  simp only [statusOfScore, if_false, Bool.false_eq_true]
  by_cases lowCompliant : compliantThreshold ≤ low
  · simp [lowCompliant, lowCompliant.trans le]
  · by_cases highCompliant : compliantThreshold ≤ high
    · simp only [lowCompliant, highCompliant, if_false, if_true]
      split <;> simp [AtMost]
    · simp only [lowCompliant, highCompliant, if_false]
      by_cases lowPartial : partialThreshold ≤ low
      · simp [lowPartial, lowPartial.trans le]
      · simp only [lowPartial, if_false]
        split <;> simp [AtMost]

theorem atMost_statusOfScore (score : Rat) :
    AtMost .nonCompliant (statusOfScore false score) := by
  simp only [statusOfScore, if_false, Bool.false_eq_true]
  split
  · simp [AtMost]
  · split <;> simp [AtMost]

section Improvement

variable {allResults : Dict String CriterionResult} {criteria : List Criterion}
variable {id : String} {record : CriterionResult} {better : CriterionResultEnum}

def withVerdict (allResults : Dict String CriterionResult) (id : String)
    (record : CriterionResult) (verdict : CriterionResultEnum) :
    Dict String CriterionResult :=
  allResults.set id { record with result := verdict }

variable (found : allResults.get? id = some record)
variable (improves : Improves record.result better)

include found improves

theorem isAssessable_withVerdict :
    isAssessable (withVerdict allResults id record better) = isAssessable allResults := by
  funext criterion
  rw [isAssessable, isAssessable, withVerdict, Dict.get?_set]
  by_cases same : id = criterion.id
  · rw [← same, found]
    simp [improves.nonAssessable_eq]
  · simp [same]

theorem resultValue_le_withVerdict (criterion : Criterion) : resultValue allResults criterion ≤
      resultValue (withVerdict allResults id record better) criterion := by
  rw [resultValue, resultValue, withVerdict, Dict.get?_set]
  by_cases same : id = criterion.id
  · rw [← same, found]
    simpa using improves.scoreValues_le
  · simp [same]

theorem tooLittleEvidence_withVerdict :
    TooLittleEvidence (withVerdict allResults id record better) criteria ↔
      TooLittleEvidence allResults criteria := by
  simp only [TooLittleEvidence, nonAssessableWeight, assessableCriteria,
    isAssessable_withVerdict found improves]

theorem averageScore_le_withVerdict
    (nonneg : ∀ criterion ∈ criteria, 0 ≤ criterion.weight) :
    averageScore allResults criteria ≤
      averageScore (withVerdict allResults id record better) criteria := by
  simp only [averageScore, assessableCriteria, isAssessable_withVerdict found improves]
  apply weightedAverage_mono
  · exact fun criterion member => nonneg criterion (List.mem_filter.mp member).1
  · exact fun criterion _ => resultValue_le_withVerdict found improves criterion

omit improves in
theorem countP_values_withVerdict_le {test : CriterionResult → Bool}
    (weaker : test { record with result := better } = true → test record = true) :
    (withVerdict allResults id record better).values.countP test ≤
      allResults.values.countP test := by
  rw [withVerdict, Dict.values_set_of_get? _ found, Dict.values, List.countP_map, List.countP_map]
  apply List.countP_mono_left
  rintro ⟨key, value⟩ member holds
  by_cases same : key = id
  · subst same
    have := (allResults.mem_entries_iff key value).mp member
    rw [found, Option.some_inj] at this
    subst this
    exact weaker (by simpa using holds)
  · simpa [same] using holds

omit improves in
theorem countP_values_withVerdict_eq {test : CriterionResult → Bool}
    (same : test { record with result := better } = test record) :
    (withVerdict allResults id record better).values.countP test =
      allResults.values.countP test := by
  rw [withVerdict, Dict.values_set_of_get? _ found, Dict.values, List.countP_map, List.countP_map]
  apply List.countP_congr
  rintro ⟨key, value⟩ member
  by_cases sameKey : key = id
  · subst sameKey
    have := (allResults.mem_entries_iff key value).mp member
    rw [found, Option.some_inj] at this
    subst this
    simp [same]
  · simp [sameKey]

theorem checkPolicyFail_withVerdict
    (fails : checkPolicyFail (withVerdict allResults id record better) = true) :
    checkPolicyFail allResults = true := by
  rw [checkPolicyFail, List.any_eq_true, ← List.countP_pos_iff] at fails ⊢
  refine fails.trans_le (countP_values_withVerdict_le found ?_)
  simp [improves.ne_fail]

theorem checkImplementationFailRatio_withVerdict_le :
    checkImplementationFailRatio (withVerdict allResults id record better) ≤
      checkImplementationFailRatio allResults := by
  simp only [checkImplementationFailRatio, List.filter_filter, ← List.countP_eq_length_filter]
  have sameCount := @countP_values_withVerdict_eq allResults id record better found
    (fun result => decide (result.category = "implementation")) rfl
  rw [sameCount]
  split
  · exact le_rfl
  · apply div_le_div_of_nonneg_right
    · rw [Nat.cast_le]
      apply countP_values_withVerdict_le found
      simp [improves.ne_fail]
    · exact Nat.cast_nonneg _

/-- Improving one verdict lowers neither the score nor the status. -/
theorem calculateScore_mono (nonneg : ∀ criterion ∈ criteria, 0 ≤ criterion.weight) :
    (calculateScore allResults criteria false).1 ≤
        (calculateScore (withVerdict allResults id record better) criteria false).1 ∧
      AtMost (calculateScore allResults criteria false).2
        (calculateScore (withVerdict allResults id record better) criteria false).2 := by
  simp only [calculateScore_eq, tooLittleEvidence_withVerdict found improves]
  by_cases tooLittle : TooLittleEvidence allResults criteria
  · simp [tooLittle]
  · simp only [tooLittle, if_false]
    have score : capScore (checkPolicyFail allResults) (averageScore allResults criteria) ≤
        capScore (checkPolicyFail (withVerdict allResults id record better))
          (averageScore (withVerdict allResults id record better) criteria) := by
      apply capScore_mono
      · exact checkPolicyFail_withVerdict found improves
      · exact averageScore_le_withVerdict found improves nonneg
    have ratio := checkImplementationFailRatio_withVerdict_le found improves
    by_cases floorAfter : 1 / 4 <
        checkImplementationFailRatio (withVerdict allResults id record better)
    · -- the floor rule applies before as well
      have floorBefore := floorAfter.trans_le ratio
      simp only [floorAfter, floorBefore, if_true]
      exact ⟨score, AtMost.refl _⟩
    · simp only [floorAfter, if_false]
      by_cases floorBefore : 1 / 4 < checkImplementationFailRatio allResults
      · simp only [floorBefore, if_true, score, true_and]
        exact atMost_statusOfScore _
      · simp only [floorBefore, if_false, score, true_and]
        exact statusOfScore_mono score

end Improvement

theorem calculateScore_mono_sharedId :
    let results := Dict.ofList
      [("AC-2.1", ({ criterionId := "AC-2.1", category := "policy", result := .fail } :
          CriterionResult)),
       ("AC-2.2", { criterionId := "AC-2.2", category := "policy", result := .pass })]
    let improved := withVerdict results "AC-2.1"
      { criterionId := "AC-2.1", category := "policy", result := .fail } .pass
    (calculateScore results sharedId.criteria false).1 ≤
        (calculateScore improved sharedId.criteria false).1 ∧
      AtMost (calculateScore results sharedId.criteria false).2
        (calculateScore improved sharedId.criteria false).2 := by
  intro results improved
  exact calculateScore_mono (by decide) .failToPass (by decide +kernel)

end Onpremai.AgentEval
