import Onpremai.AgentEval.Formatter
import Onpremai.AgentEval.ScoringGuarantees

/-!
# Stored evaluation records

The formatter finds out again which floor rules were applied, from the results and the score.
A record agrees with the scoring outcome exactly where that guess is right and the rounded
score is on the same side of the threshold as the score.
-/

namespace Onpremai.AgentEval

open Onpremai.Library

theorem le_floor_or {scaled : Rat} (bound : Int) : bound ≤ scaled.floor ∧ (bound : Rat) ≤ scaled ∨
      scaled.floor = bound - 1 ∧ (bound : Rat) - 1 ≤ scaled ∧ scaled < bound ∨
        scaled.floor ≤ bound - 2 ∧ scaled < (bound : Rat) - 1 := by
  by_cases reached : bound ≤ scaled.floor
  · exact .inl ⟨reached, Rat.le_floor_iff.mp reached⟩
  · have below : scaled < bound := by
      rw [← not_le]
      exact fun above => reached (Rat.le_floor_iff.mpr above)
    by_cases near : bound - 1 ≤ scaled.floor
    · have above := Rat.le_floor_iff.mp near
      push_cast at above
      exact .inr (.inl ⟨by omega, above, below⟩)
    · have far : scaled < ((bound - 1 : Int) : Rat) := by
        rw [← not_le]
        exact fun above => near (Rat.le_floor_iff.mpr above)
      push_cast at far
      exact .inr (.inr ⟨by omega, far⟩)

theorem le_round4_iff {value : Rat} {bound : Int} (even : bound % 2 = 0) :
    (bound : Rat) / 10000 ≤ round4 value ↔ (bound : Rat) - 1 / 2 ≤ value * 10000 := by
  have scale : ∀ digits : Int, (bound : Rat) / 10000 ≤ (digits : Rat) / 10000 ↔
      bound ≤ digits := by
    intro digits
    rw [div_le_div_iff_of_pos_right (by norm_num), Int.cast_le]
  have next : ∀ digits : Int, ((digits : Rat) + 1) = ((digits + 1 : Int) : Rat) := by
    intro digits
    push_cast
    rfl
  simp only [round4, next]
  rcases @le_floor_or (value * 10000) bound with
    ⟨reached, above⟩ | ⟨near, above, below⟩ | ⟨low, far⟩
  · have half : (bound : Rat) - 1 / 2 ≤ value * 10000 := by linarith
    rw [iff_true_right half]
    split_ifs
    all_goals
      rw [scale]
      omega
  · rw [near]
    push_cast
    split_ifs with lower upper tie
    · refine iff_of_false ?_ (by linarith)
      have := scale (bound - 1)
      push_cast at this
      rw [this]
      omega
    · refine iff_of_true ?_ (by linarith)
      exact le_of_eq (by ring)
    · omega
    · refine iff_of_true ?_ (by linarith)
      exact le_of_eq (by ring)
  · refine iff_of_false ?_ (by linarith)
    split_ifs
    all_goals
      rw [scale]
      omega

/-- The floor rules of the scorer. -/
inductive FloorRule where
  | tooLittleEvidence
  | policyFail
  | implementationFail
  deriving DecidableEq, Repr

def FloorRule.name? : FloorRule → Option String
  | .tooLittleEvidence => none
  | .policyFail => some "policy_fail_cap_0.84"
  | .implementationFail => some "implementation_fail_ratio_gt_25pct"

section Floors

variable (allResults : Dict String CriterionResult) (criteria : List Criterion)

def HalfNonAssessable : Prop := 0 < totalWeight Criterion.weight criteria ∧
    1 / 2 ≤ nonAssessableWeight allResults criteria / totalWeight Criterion.weight criteria

instance : Decidable (HalfNonAssessable allResults criteria) := inferInstanceAs (Decidable (_ ∧ _))

def NothingAssessable : Prop :=
  totalWeight Criterion.weight (assessableCriteria allResults criteria) = 0

instance : Decidable (NothingAssessable allResults criteria) := inferInstanceAs (Decidable (_ = _))

def outcomeWith (applied : FloorRule → Bool) (partialEvaluation : Bool) : Rat × ComplianceStatus :=
  if applied .tooLittleEvidence = true ∧ HalfNonAssessable allResults criteria then
    (0, .insufficientEvidence)
  else if NothingAssessable allResults criteria then (0, .insufficientEvidence)
  else
    let finalScore := capScore (applied .policyFail && checkPolicyFail allResults)
        (averageScore allResults criteria)
    if applied .implementationFail = true ∧ 1 / 4 < checkImplementationFailRatio allResults then
      (finalScore, .nonCompliant)
    else (finalScore, statusOfScore partialEvaluation finalScore)

theorem outcomeWith_all (partialEvaluation : Bool) :
    outcomeWith allResults criteria (fun _ => true) partialEvaluation =
      calculateScore allResults criteria partialEvaluation := by
  rw [calculateScore_eq, outcomeWith]
  by_cases half : HalfNonAssessable allResults criteria
  · have little : TooLittleEvidence allResults criteria := .inl half
    rw [if_pos ⟨rfl, half⟩, if_pos little]
  · rw [if_neg fun both => half both.2]
    by_cases nothing : NothingAssessable allResults criteria
    · have little : TooLittleEvidence allResults criteria := .inr nothing
      rw [if_pos nothing, if_pos little]
    · have enough : ¬ TooLittleEvidence allResults criteria := not_or.mpr ⟨half, nothing⟩
      rw [if_neg nothing, if_neg enough]
      simp only [Bool.true_and, true_and]

/-- The score or the status would be different without the rule. -/
def Decisive (partialEvaluation : Bool) (rule : FloorRule) : Prop :=
  outcomeWith allResults criteria (fun other => other ≠ rule) partialEvaluation ≠
    calculateScore allResults criteria partialEvaluation

variable {allResults criteria} {partialEvaluation : Bool}

theorem statusOfScore_ne_insufficientEvidence (score : Rat) :
    statusOfScore partialEvaluation score ≠ .insufficientEvidence := by
  rw [statusOfScore]
  split_ifs <;> simp

theorem statusOfScore_eq_nonCompliant_iff {score : Rat} :
    statusOfScore partialEvaluation score = .nonCompliant ↔
      partialEvaluation = false ∧ score < partialThreshold := by
  rw [statusOfScore]
  cases partialEvaluation with
  | true => simp
  | false =>
    simp only [Bool.false_eq_true, if_false, true_and]
    split_ifs with compliant reached
    · have : partialThreshold ≤ score :=
        le_trans (by norm_num [partialThreshold, compliantThreshold]) compliant
      simp [this]
    · simp [reached]
    · simpa using reached

theorem snd_outcomeWith_ne {applied : FloorRule → Bool}
    (skipped : ¬ (applied .tooLittleEvidence = true ∧ HalfNonAssessable allResults criteria))
    (some : ¬ NothingAssessable allResults criteria) :
    (outcomeWith allResults criteria applied partialEvaluation).2 ≠ .insufficientEvidence := by
  rw [outcomeWith, if_neg skipped, if_neg some]
  dsimp only
  split_ifs
  · simp
  · exact statusOfScore_ne_insufficientEvidence _

theorem decisive_tooLittleEvidence_iff :
    Decisive allResults criteria partialEvaluation .tooLittleEvidence ↔
      HalfNonAssessable allResults criteria ∧ ¬ NothingAssessable allResults criteria := by
  rw [Decisive, ← outcomeWith_all]
  by_cases nothing : NothingAssessable allResults criteria
  · simp [outcomeWith, nothing]
  · by_cases half : HalfNonAssessable allResults criteria
    · rw [iff_true_right ⟨half, nothing⟩]
      intro same
      have all : outcomeWith allResults criteria (fun _ => true) partialEvaluation =
          (0, .insufficientEvidence) := by rw [outcomeWith, if_pos ⟨rfl, half⟩]
      rw [all] at same
      exact snd_outcomeWith_ne (by simp) nothing (congrArg Prod.snd same)
    · simp [outcomeWith, nothing, half]

theorem not_decisive_of_tooLittle (rule : FloorRule) (other : rule ≠ .tooLittleEvidence)
    (little : TooLittleEvidence allResults criteria) :
    ¬ Decisive allResults criteria partialEvaluation rule := by
  rw [Decisive, ← outcomeWith_all, not_not, outcomeWith, outcomeWith]
  by_cases half : HalfNonAssessable allResults criteria
  · simp [half, other.symm]
  · have nothing : NothingAssessable allResults criteria := little.resolve_left half
    simp [half, nothing]

theorem decisive_policyFail_iff (enough : ¬ TooLittleEvidence allResults criteria) :
    Decisive allResults criteria partialEvaluation .policyFail ↔
      checkPolicyFail allResults = true ∧ policyFailCap < averageScore allResults criteria := by
  have half : ¬ HalfNonAssessable allResults criteria := fun half => enough (.inl half)
  have nothing : ¬ NothingAssessable allResults criteria := fun nothing => enough (.inr nothing)
  rw [Decisive, ← outcomeWith_all]
  by_cases capped : checkPolicyFail allResults = true ∧
      policyFailCap < averageScore allResults criteria
  · rw [iff_true_right capped]
    intro same
    have scores := congrArg Prod.fst same
    simp only [outcomeWith, half, nothing, and_false, if_false] at scores
    split_ifs at scores
    all_goals
      simp only [ne_eq, not_true, decide_false, Bool.false_and, capScore, capped, Bool.true_and,
        and_self, if_true, Bool.false_eq_true, false_and, if_false] at scores
      exact capped.2.ne' scores
  · rw [iff_false_right capped, not_not]
    have uncapped : ∀ flag : Bool, capScore (flag && checkPolicyFail allResults)
        (averageScore allResults criteria) = averageScore allResults criteria := by
      intro flag
      rw [capScore, if_neg]
      rintro ⟨fails, above⟩
      exact capped ⟨(Bool.and_eq_true_iff.mp fails).2, above⟩
    simp only [outcomeWith, uncapped, half, nothing, and_false, if_false]
    simp

theorem decisive_implementationFail_iff (enough : ¬ TooLittleEvidence allResults criteria) :
    Decisive allResults criteria partialEvaluation .implementationFail ↔
      1 / 4 < checkImplementationFailRatio allResults ∧ (partialEvaluation = true ∨
          partialThreshold ≤ capScore (checkPolicyFail allResults)
            (averageScore allResults criteria)) := by
  have half : ¬ HalfNonAssessable allResults criteria := fun half => enough (.inl half)
  have nothing : ¬ NothingAssessable allResults criteria := fun nothing => enough (.inr nothing)
  rw [Decisive, ← outcomeWith_all]
  simp only [outcomeWith, half, nothing, and_false, if_false]
  by_cases many : 1 / 4 < checkImplementationFailRatio allResults
  · simp only [many, ne_eq, not_true, decide_false, Bool.false_eq_true, false_and, if_false,
      and_self, if_true, reduceCtorEq, not_false_eq_true, decide_true, Bool.true_and, true_and,
      Prod.mk.injEq, statusOfScore_eq_nonCompliant_iff, not_and, not_lt]
    cases partialEvaluation with
    | true => simp
    | false => simp
  · simp only [many, and_false, if_false, false_and, iff_false, not_not, ne_eq, reduceCtorEq,
      not_false_eq_true, decide_true, Bool.true_and]

end Floors

/-! ## The record and the outcome -/

/-- A record agrees with the thresholds and names the floor rules that decided. -/
structure AgreesWithScoring (allResults : Dict String CriterionResult) (criteria : List Criterion)
    (record : EvalResult) (floorRulesApplied : List String) : Prop where
  compliant : record.status = .compliant → compliantThreshold ≤ record.score
  reached : compliantThreshold ≤ record.score →
    record.status = .compliant ∨ floorRulesApplied ≠ [] ∨ record.partialEvaluation = true
  listed : ∀ rule : FloorRule, (∃ name, rule.name? = some name ∧ name ∈ floorRulesApplied) ↔
      Decisive allResults criteria record.partialEvaluation rule
  named : ∀ name ∈ floorRulesApplied, ∃ rule : FloorRule, rule.name? = some name

def Retraceable (allResults : Dict String CriterionResult) (criteria : List Criterion)
    (partialEvaluation : Bool) : Prop :=
  if NothingAssessable allResults criteria then
    checkPolicyFail allResults = false ∧ checkImplementationFailRatio allResults ≤ 1 / 4
  else
    ¬ HalfNonAssessable allResults criteria ∧
      (checkPolicyFail allResults = true → policyFailCap < averageScore allResults criteria) ∧
      (1 / 4 < checkImplementationFailRatio allResults →
        partialEvaluation = true ∨ partialThreshold ≤ averageScore allResults criteria) ∧
      (checkPolicyFail allResults = false →
        checkImplementationFailRatio allResults ≤ 1 / 4 → partialEvaluation = false →
          averageScore allResults criteria < 84995 / 100000 ∨
            compliantThreshold ≤ averageScore allResults criteria)

instance (allResults : Dict String CriterionResult) (criteria : List Criterion)
    (partialEvaluation : Bool) : Decidable (Retraceable allResults criteria partialEvaluation) :=
  inferInstanceAs (Decidable (ite _ _ _))

theorem compliant_le_round4_iff {score : Rat} :
    compliantThreshold ≤ round4 score ↔ 84995 / 100000 ≤ score := by
  have digits : compliantThreshold = ((8500 : Int) : Rat) / 10000 := by
    norm_num [compliantThreshold]
  rw [digits, le_round4_iff (by decide)]
  constructor
  · intro reached
    push_cast at reached
    linarith
  · intro reached
    push_cast
    linarith

section Listed

variable {allResults : Dict String CriterionResult} {score : Rat}

theorem mem_floorRulesApplied_iff (rule : FloorRule) :
    (∃ name, rule.name? = some name ∧ name ∈ floorRulesApplied allResults score) ↔
      rule = .policyFail ∧ checkPolicyFail allResults = true ∧ score ≤ 84 / 100 ∨
        rule = .implementationFail ∧ 1 / 4 < checkImplementationFailRatio allResults := by
  have texts : ("policy_fail_cap_0.84" : String) ≠ "implementation_fail_ratio_gt_25pct" := by
    decide
  cases rule with
  | tooLittleEvidence => simp [FloorRule.name?]
  | policyFail =>
    simp only [FloorRule.name?, Option.some.injEq, exists_eq_left', floorRulesApplied,
      List.mem_append, List.mem_ite_nil_right, List.mem_singleton, texts, and_true, and_false,
      or_false, true_and, reduceCtorEq, false_and]
  | implementationFail =>
    simp only [FloorRule.name?, Option.some.injEq, exists_eq_left', floorRulesApplied,
      List.mem_append, List.mem_ite_nil_right, List.mem_singleton, texts.symm, and_true,
      and_false, false_or, true_and, reduceCtorEq, false_and]

theorem named_floorRulesApplied :
    ∀ name ∈ floorRulesApplied allResults score, ∃ rule : FloorRule, rule.name? = some name := by
  intro name member
  simp only [floorRulesApplied, List.mem_append, List.mem_ite_nil_right, List.mem_singleton]
    at member
  rcases member with ⟨-, rfl⟩ | ⟨-, rfl⟩
  · exact ⟨.policyFail, rfl⟩
  · exact ⟨.implementationFail, rfl⟩

end Listed

section Records

variable {allResults : Dict String CriterionResult} {criteria : List Criterion}
  {record : EvalResult}

theorem agrees_iff_of_nothing (nothing : NothingAssessable allResults criteria)
    (scored : record.score = 0) (status : record.status = .insufficientEvidence) :
    AgreesWithScoring allResults criteria record (floorRulesApplied allResults 0) ↔
      checkPolicyFail allResults = false ∧ checkImplementationFailRatio allResults ≤ 1 / 4 := by
  have undecided : ∀ rule,
      ¬ Decisive allResults criteria record.partialEvaluation rule := by
    intro rule
    by_cases first : rule = .tooLittleEvidence
    · rw [first, decisive_tooLittleEvidence_iff]
      exact fun decides => decides.2 nothing
    · exact not_decisive_of_tooLittle rule first (.inr nothing)
  constructor
  · intro agrees
    have policy := (agrees.listed .policyFail).trans (iff_false_intro (undecided _))
    have implementation := (agrees.listed .implementationFail).trans
      (iff_false_intro (undecided _))
    rw [mem_floorRulesApplied_iff, iff_false] at policy implementation
    constructor
    · cases fails : checkPolicyFail allResults with
      | false => rfl
      | true => exact absurd (.inl ⟨rfl, fails, by norm_num⟩) policy
    · exact not_lt.mp fun many => implementation (.inr ⟨rfl, many⟩)
  · intro clear
    refine ⟨?_, ?_, ?_, named_floorRulesApplied⟩
    · intro compliant
      rw [status] at compliant
      cases compliant
    · intro reached
      rw [scored] at reached
      norm_num [compliantThreshold] at reached
    · intro rule
      rw [mem_floorRulesApplied_iff, iff_false_right (undecided rule)]
      rintro (⟨-, fails, -⟩ | ⟨-, many⟩)
      · rw [clear.1] at fails
        cases fails
      · exact not_lt.mpr clear.2 many

theorem not_agrees_of_half (half : HalfNonAssessable allResults criteria)
    (some : ¬ NothingAssessable allResults criteria) (score : Rat) :
    ¬ AgreesWithScoring allResults criteria record (floorRulesApplied allResults score) := by
  intro agrees
  obtain ⟨name, unnamed, -⟩ := (agrees.listed .tooLittleEvidence).mpr
    (decisive_tooLittleEvidence_iff.mpr ⟨half, some⟩)
  cases unnamed

theorem capScore_true_le (score : Rat) : capScore true score ≤ policyFailCap := by
  rw [capScore]
  split_ifs with above
  · exact le_rfl
  · exact not_lt.mp fun beyond => above ⟨rfl, beyond⟩

theorem capScore_false (score : Rat) : capScore false score = score := by
  simp [capScore]

theorem floorRulesApplied_ne_nil_iff {score : Rat} : floorRulesApplied allResults score ≠ [] ↔
      checkPolicyFail allResults = true ∧ score ≤ 84 / 100 ∨
        1 / 4 < checkImplementationFailRatio allResults := by
  simp only [floorRulesApplied, ne_eq, List.append_eq_nil_iff, ite_eq_right_iff,
    List.cons_ne_nil, imp_false, not_and_or, not_or, not_not]

/-- What a record shows that is assembled after a score was given. -/
structure Scored (allResults : Dict String CriterionResult) (criteria : List Criterion)
    (record : EvalResult) : Prop where
  score : record.score =
    round4 (capScore (checkPolicyFail allResults) (averageScore allResults criteria))
  status : record.status = (calculateScore allResults criteria record.partialEvaluation).2

theorem listed_policyFail_iff (enough : ¬ TooLittleEvidence allResults criteria) :
    ((∃ name, FloorRule.policyFail.name? = some name ∧ name ∈ floorRulesApplied allResults
          (capScore (checkPolicyFail allResults) (averageScore allResults criteria))) ↔
      Decisive allResults criteria record.partialEvaluation .policyFail) ↔
      (checkPolicyFail allResults = true → policyFailCap < averageScore allResults criteria) := by
  rw [mem_floorRulesApplied_iff, decisive_policyFail_iff enough]
  cases fails : checkPolicyFail allResults with
  | false => simp
  | true =>
    have capped : capScore true (averageScore allResults criteria) ≤ 84 / 100 := capScore_true_le _
    simp [capped]

theorem listed_implementationFail_iff (enough : ¬ TooLittleEvidence allResults criteria) :
    ((∃ name, FloorRule.implementationFail.name? = some name ∧ name ∈ floorRulesApplied allResults
          (capScore (checkPolicyFail allResults) (averageScore allResults criteria))) ↔
      Decisive allResults criteria record.partialEvaluation .implementationFail) ↔
      (1 / 4 < checkImplementationFailRatio allResults → record.partialEvaluation = true ∨
          partialThreshold ≤ averageScore allResults criteria) := by
  have same : partialThreshold ≤ capScore (checkPolicyFail allResults)
      (averageScore allResults criteria) ↔
        partialThreshold ≤ averageScore allResults criteria := by
    rw [capScore]
    split_ifs with capped
    · have low : partialThreshold ≤ policyFailCap := by norm_num [partialThreshold, policyFailCap]
      exact iff_of_true low (low.trans capped.2.le)
    · exact Iff.rfl
  rw [mem_floorRulesApplied_iff, decisive_implementationFail_iff enough, same]
  simp only [reduceCtorEq, false_and, true_and, false_or]
  exact ⟨fun both many => (both.mp many).2, fun decides => ⟨fun many => ⟨many, decides many⟩,
    And.left⟩⟩

theorem reached_iff (enough : ¬ TooLittleEvidence allResults criteria)
    (scored : Scored allResults criteria record) :
    (compliantThreshold ≤ record.score → record.status = .compliant ∨
        floorRulesApplied allResults (capScore (checkPolicyFail allResults)
          (averageScore allResults criteria)) ≠ [] ∨ record.partialEvaluation = true) ↔
      (checkPolicyFail allResults = false →
        checkImplementationFailRatio allResults ≤ 1 / 4 → record.partialEvaluation = false →
          averageScore allResults criteria < 84995 / 100000 ∨
            compliantThreshold ≤ averageScore allResults criteria) := by
  rw [scored.score, compliant_le_round4_iff, scored.status, floorRulesApplied_ne_nil_iff,
    calculateScore_eq, if_neg enough]
  cases fails : checkPolicyFail allResults with
  | true =>
    have capped : capScore true (averageScore allResults criteria) ≤ 84 / 100 := capScore_true_le _
    simp [capped]
  | false =>
    simp only [capScore_false, Bool.false_eq_true, false_and, false_or, true_implies]
    by_cases many : 1 / 4 < checkImplementationFailRatio allResults
    · exact iff_of_true (fun _ => .inr (.inl many)) fun few => absurd many (not_lt.mpr few)
    · rw [if_neg many]
      cases complete : record.partialEvaluation with
      | true => simp
      | false =>
        simp only [many, not_lt.mp many, true_implies, or_false, Bool.false_eq_true]
        constructor
        · intro reached
          by_cases low : averageScore allResults criteria < 84995 / 100000
          · exact .inl low
          · exact .inr (statusOfScore_eq_compliant (reached (not_lt.mp low))).2
        · intro apart high
          have compliant := apart.resolve_left (not_lt.mpr high)
          rw [statusOfScore, if_neg Bool.false_ne_true, if_pos compliant]

theorem agrees_iff_of_enough (enough : ¬ TooLittleEvidence allResults criteria)
    (scored : Scored allResults criteria record) :
    AgreesWithScoring allResults criteria record (floorRulesApplied allResults
        (capScore (checkPolicyFail allResults) (averageScore allResults criteria))) ↔
      (checkPolicyFail allResults = true → policyFailCap < averageScore allResults criteria) ∧
      (1 / 4 < checkImplementationFailRatio allResults → record.partialEvaluation = true ∨
          partialThreshold ≤ averageScore allResults criteria) ∧
      (checkPolicyFail allResults = false →
        checkImplementationFailRatio allResults ≤ 1 / 4 → record.partialEvaluation = false →
          averageScore allResults criteria < 84995 / 100000 ∨
            compliantThreshold ≤ averageScore allResults criteria) := by
  constructor
  · intro agrees
    have above := (listed_policyFail_iff enough).mp (agrees.listed .policyFail)
    exact ⟨above, (listed_implementationFail_iff enough).mp
      (agrees.listed .implementationFail), (reached_iff enough scored).mp agrees.reached⟩
  · intro retraced
    obtain ⟨above, floor, apart⟩ := retraced
    refine ⟨?_, (reached_iff enough scored).mpr apart, ?_, named_floorRulesApplied⟩
    · intro compliant
      rw [scored.status] at compliant
      obtain ⟨-, clear, -, high, -⟩ := calculateScore_eq_compliant compliant
      rw [scored.score, compliant_le_round4_iff, clear, capScore_false]
      exact le_trans (by norm_num [compliantThreshold]) high
    · intro rule
      cases rule with
      | tooLittleEvidence =>
        rw [decisive_tooLittleEvidence_iff, mem_floorRulesApplied_iff]
        simp only [reduceCtorEq, false_and, or_self, false_iff]
        exact fun decides => enough (.inl decides.1)
      | policyFail => exact (listed_policyFail_iff enough).mpr above
      | implementationFail => exact (listed_implementationFail_iff enough).mpr floor

end Records

def formattedRecord (evaluationId : String) (elapsedMs : Rat) (state : EvalGraphState)
    (timing : TimingStats) (layerStats : LayerStats) : EvalResult where
  evaluationId := evaluationId
  controlId := state.controlId.getD ""
  framework := state.framework.getD ""
  tenantId := state.tenantId.getD ""
  score := round4 (state.finalScore.getD 0)
  status := state.finalStatus.getD .insufficientEvidence
  evidenceHash := state.evidenceHash.getD ""
  criteriaResults := orderedResults state.finalResults state.criteria?
  justification := some (justificationOf state state.finalResults)
  layerStats := layerStats
  timing := finalTiming timing elapsedMs
  partialEvaluation := state.partialEvaluation.getD false
  cached := false

section Stored

variable {state : EvalGraphState} {testingCriteria : TestingCriteria}

theorem formatterNode_stores (fresh : state.cachedResult.getD none = none)
    (quiet : truthy? (state.error.getD none) = none) {timing : TimingStats}
    (timed : state.timing.getD (some {}) = some timing) {layerStats : LayerStats}
    (counted : state.layerStats.getD (some {}) = some layerStats) (evaluationId : String)
    (elapsedMs : Rat) :
    formatterNode evaluationId elapsedMs state =
      .ok { evaluationResult :=
        some (some (formattedRecord evaluationId elapsedMs state timing layerStats)) } := by
  simp only [formatterNode, fresh, quiet, timed, counted]
  rfl

theorem merge_scoringNode (loaded : state.criteria? = some testingCriteria) (elapsedMs : Rat) :
    state.merge (scoringNode elapsedMs state) =
      { state with
        finalScore := some (calculateScore state.finalResults testingCriteria.criteria
          (state.partialEvaluation.getD false)).1
        finalStatus := some (calculateScore state.finalResults testingCriteria.criteria
          (state.partialEvaluation.getD false)).2
        timing := some (some (scoringTiming state.timing? elapsedMs)) } := by
  simp only [scoringNode, loaded]
  rfl

theorem agrees_iff_retraceable {allResults : Dict String CriterionResult}
    {criteria : List Criterion} {record : EvalResult}
    (scored : record.score = round4 (calculateScore allResults criteria record.partialEvaluation).1)
    (status : record.status = (calculateScore allResults criteria record.partialEvaluation).2) :
    AgreesWithScoring allResults criteria record (floorRulesApplied allResults
        (calculateScore allResults criteria record.partialEvaluation).1) ↔
      Retraceable allResults criteria record.partialEvaluation := by
  rw [Retraceable]
  by_cases nothing : NothingAssessable allResults criteria
  · have little : TooLittleEvidence allResults criteria := .inr nothing
    rw [calculateScore_eq, if_pos little] at scored status ⊢
    rw [if_pos nothing, agrees_iff_of_nothing nothing (scored.trans (by decide +kernel)) status]
  · rw [if_neg nothing]
    by_cases half : HalfNonAssessable allResults criteria
    · exact iff_of_false (not_agrees_of_half half nothing _) fun retraced => retraced.1 half
    · have enough : ¬ TooLittleEvidence allResults criteria := not_or.mpr ⟨half, nothing⟩
      have score : (calculateScore allResults criteria record.partialEvaluation).1 =
          capScore (checkPolicyFail allResults) (averageScore allResults criteria) := by
        rw [calculateScore_eq, if_neg enough]
        dsimp only
        split_ifs <;> rfl
      rw [score] at scored ⊢
      rw [agrees_iff_of_enough enough ⟨scored, status⟩, and_iff_right half]

private def nearThreshold : TestingCriteria where
  controlId := "AC-2"
  framework := "NIST"
  criteria := [{ id := "AC-2.1", category := "procedure", weight := 84996 / 100000 },
     { id := "AC-2.2", category := "procedure", weight := 15004 / 100000 }]

private def nearThresholdState : EvalGraphState where
  testingCriteria := some (some nearThreshold)
  ruleResults := some (Dict.ofList
    [("AC-2.1", { criterionId := "AC-2.1", category := "procedure", result := .pass }),
     ("AC-2.2", { criterionId := "AC-2.2", category := "procedure", result := .fail })])
  layerStats := some (some {})

end Stored

end Onpremai.AgentEval
