import Onpremai.AgentEval.Tribunal

/-!
# Layer 2: LLM judgment

The evaluation node judges the criteria that layer 1 left open, one after the
other.  An exhausted credit ends the loop and records the criteria that remain;
an unavailable LLM is recorded for one criterion; every other exception leaves
the node.
-/

namespace Onpremai.AgentEval

open Onpremai.Library

/-- The settings of the service that the nodes and the runner read. -/
structure EvalSettings where
  consensusWeightThreshold : Rat := 20 / 100
  tribunalConfidenceThreshold : Rat := 70 / 100
  tribunalMaxRetries : Nat := 1
  maxSandboxRetries : Nat := 2
  maxEvalTimeoutSec : Nat := 300

/-- The value of a result, as it is written in messages. -/
def CriterionResultEnum.text : CriterionResultEnum → String
  | .pass => "PASS"
  | .partialPass => "PARTIAL"
  | .fail => "FAIL"
  | .needsJudgment => "NEEDS_JUDGMENT"
  | .cannotAssess => "CANNOT_ASSESS"
  | .insufficientEvidence => "INSUFFICIENT_EVIDENCE"

/-- The result read from the text of a single call that does not decode. -/
def judgmentFromText (content : String) (criterion : Criterion) : CriterionResult where
  criterionId := criterion.id
  category := criterion.category
  result := verdictFromText content
  method := .llmJudgment
  reason := if content = "" then "Unable to parse LLM response"
    else Text.truncate 200 content

def parseJudgmentResponse (decoders : Decoders) (content : String)
    (criterion : Criterion) : Except PyError CriterionResult :=
  match decoders.loads (dropFenceLines (Text.strip content)) with
  | .error .jsonDecodeError => .ok (judgmentFromText content criterion)
  | .error error => .error error.exception
  | .ok data => do
    let result ← getField data "result" (.str "FAIL")
    let resultString ← upperOf result
    let reason ← getField data "reason" (.str "")
    match reason with
    | .str text =>
      .ok { criterionId := criterion.id, category := criterion.category
            result := verdictOf resultString, method := .llmJudgment
            reason := text }
    | _ => .error (.validationError "CriterionResult" "reason")

abbrev Judgment := CriterionResult × Option TribunalDoc

def judgmentOfTribunal (criterion : Criterion) (tribunal : TribunalResult) :
    Except PyError Judgment := do
  let result ← tribunal.toCriterionResult criterion.category
  return (result, some tribunal.toJustificationDoc)

def disagreement (criterion : Criterion) (first second : TribunalResult) :
    CriterionResult where
  criterionId := criterion.id
  category := criterion.category
  result := .cannotAssess
  method := .llmJudgment
  reason := "Two tribunals disagreed: " ++ first.verdict.text ++ " vs " ++
    second.verdict.text ++ ". Needs human review."
  confidence := some 0

/-- Full tribunal, repeated once when the judge is uncertain. -/
def judgeByTribunal (settings : EvalSettings) (decoders : Decoders) (llm : LlmAnswers)
    (criterion : Criterion) : Except PyError Judgment := do
  let first ← runTribunal decoders llm false criterion
  if first.confidence < settings.tribunalConfidenceThreshold ∧
      0 < settings.tribunalMaxRetries then
    let second ← runTribunal decoders llm true criterion
    if second.verdict = first.verdict then
      judgmentOfTribunal criterion
        { first with confidence := (first.confidence + second.confidence) / 2 }
    else if first.confidence < second.confidence then
      judgmentOfTribunal criterion second
    else
      return (disagreement criterion first second, none)
  else
    judgmentOfTribunal criterion first

def judgeSingleCriterion (settings : EvalSettings) (decoders : Decoders)
    (llm : LlmAnswers) (criterion : Criterion) : Except PyError Judgment :=
  if settings.consensusWeightThreshold ≤ criterion.weight then
    judgeByTribunal settings decoders llm criterion
  else if 1 / 10 ≤ criterion.weight then do
    let tribunal ← runSimplifiedTribunal decoders llm criterion
    judgmentOfTribunal criterion tribunal
  else do
    let content ← llm .single
    let result ← parseJudgmentResponse decoders content criterion
    return (result, none)

def creditExhaustedResult (criteriaMap : Dict String Criterion) (id : String) :
    CriterionResult where
  criterionId := id
  category := match criteriaMap.get? id with
    | some criterion => criterion.category
    | none => "unknown"
  result := .insufficientEvidence
  method := .degraded
  reason := "LLM budget exhausted - queued for full evaluation"

def unavailableResult (criterion : Criterion) : CriterionResult where
  criterionId := criterion.id
  category := criterion.category
  result := .cannotAssess
  method := .degraded
  reason := "LLM unavailable - cannot assess"

/-- Accumulators of the judgment loop. -/
structure JudgmentAcc where
  judgmentResults : Dict String CriterionResult := .empty
  justifications : Dict String TribunalDoc := .empty
  llmCalls : Nat := 0
  partialEvaluation : Bool := false

/-- Record a judgment that was delivered. -/
def JudgmentAcc.judged (acc : JudgmentAcc) (id : String) (judgment : Judgment) : JudgmentAcc :=
  { acc with
    judgmentResults := acc.judgmentResults.set id judgment.1
    justifications := match judgment.2 with
      | some doc => acc.justifications.set id doc
      | none => acc.justifications
    llmCalls := acc.llmCalls + 1 }

def JudgmentAcc.unavailable (acc : JudgmentAcc) (id : String) (criterion : Criterion) :
    JudgmentAcc :=
  { acc with judgmentResults := acc.judgmentResults.set id (unavailableResult criterion) }

/-- Mark every criterion without a judgment as insufficient evidence. -/
def markRemaining (criteriaMap : Dict String Criterion) (ids : List String)
    (results : Dict String CriterionResult) : Dict String CriterionResult :=
  ids.foldl (fun acc id =>
    if id ∈ acc.keys then acc else acc.set id (creditExhaustedResult criteriaMap id)) results

/-- Record that the credit is exhausted. -/
def JudgmentAcc.exhausted (acc : JudgmentAcc) (criteriaMap : Dict String Criterion)
    (ids : List String) : JudgmentAcc :=
  { acc with
    partialEvaluation := true
    judgmentResults := markRemaining criteriaMap ids acc.judgmentResults }

/-- The loop over the criteria that need judgment.  `ids` is the whole list, which
the branch for exhausted credit walks once more. -/
def judgeLoop (criteriaMap : Dict String Criterion)
    (judge : Criterion → Except PyError Judgment) (ids : List String) :
    List String → JudgmentAcc → Except PyError JudgmentAcc
  | [], acc => .ok acc
  | id :: rest, acc =>
    match criteriaMap.get? id with
    | none => judgeLoop criteriaMap judge ids rest acc
    | some criterion =>
      match judge criterion with
      | .ok judgment => judgeLoop criteriaMap judge ids rest (acc.judged id judgment)
      | .error (.llmCreditExhausted _) => .ok (acc.exhausted criteriaMap ids)
      | .error .llmUnavailable =>
        judgeLoop criteriaMap judge ids rest (acc.unavailable id criterion)
      | .error exn => .error exn

def evaluationTiming (existing : Option TimingStats) (elapsedMs : Rat) : TimingStats :=
  match existing with
  | none => { layer2Ms := elapsedMs }
  | some timing =>
    { discoveryMs := timing.discoveryMs, extractionMs := timing.extractionMs
      layer1Ms := timing.layer1Ms, layer2Ms := elapsedMs }

def evaluationStats (existing : Option LayerStats) (resolved llmCalls : Nat) : LayerStats :=
  match existing with
  | none => { layer2Resolved := resolved, llmCalls }
  | some stats =>
    { layer1Resolved := stats.layer1Resolved, totalCriteria := stats.totalCriteria
      layer2Resolved := resolved, llmCalls }

def buildResponse (state : EvalGraphState) (acc : JudgmentAcc) (elapsedMs : Rat) :
    EvalGraphState where
  judgmentResults := some acc.judgmentResults
  tribunalJustifications := some acc.justifications
  partialEvaluation := some acc.partialEvaluation
  timing := some (some (evaluationTiming state.timing? elapsedMs))
  layerStats := some (some
    (evaluationStats state.layerStats? acc.judgmentResults.size acc.llmCalls))

/-- `{c.id: c for c in criteria}`. -/
def criteriaMapOf (criteria : List Criterion) : Dict String Criterion :=
  Dict.ofList (criteria.map fun criterion => (criterion.id, criterion))

def evaluationNode (judge : Criterion → Except PyError Judgment) (elapsedMs : Rat)
    (state : EvalGraphState) : Except PyError EvalGraphState :=
  let needsJudgment := state.needsJudgment.getD []
  match state.criteria? with
  | none => .ok (buildResponse state {} elapsedMs)
  | some testingCriteria =>
    if needsJudgment = [] then .ok (buildResponse state {} elapsedMs)
    else do
      let acc ← judgeLoop (criteriaMapOf testingCriteria.criteria) judge
        needsJudgment needsJudgment {}
      return buildResponse state acc elapsedMs

theorem get?_criteriaMapOf {criteria : List Criterion}
    (distinct : (criteria.map Criterion.id).Nodup) {criterion : Criterion}
    (member : criterion ∈ criteria) :
    (criteriaMapOf criteria).get? criterion.id = some criterion := by
  apply Dict.get?_ofList_of_mem
  · simpa [Function.comp_def] using distinct
  · exact List.mem_map.mpr ⟨criterion, member, rfl⟩

def IsJudgment (result : CriterionResultEnum) : Prop :=
  IsVerdict result ∨ result = .cannotAssess ∨ result = .insufficientEvidence

/-- The results that an answering LLM leads to: a verdict, or a disagreement. -/
def IsDelivered (result : CriterionResultEnum) : Prop := IsVerdict result ∨ result = .cannotAssess

theorem IsDelivered.isJudgment {result : CriterionResultEnum} (delivered : IsDelivered result) :
    IsJudgment result := by
  rcases delivered with verdict | undecided
  · exact .inl verdict
  · exact .inr (.inl undecided)

theorem IsJudgment.ne_needsJudgment {result : CriterionResultEnum}
    (judgment : IsJudgment result) : result ≠ .needsJudgment := by
  rintro rfl
  simp [IsJudgment, IsVerdict] at judgment

private theorem judgmentOfTribunal_ok {criterion : Criterion} {tribunal : TribunalResult}
    {judgment : Judgment} (sameId : tribunal.criterionId = criterion.id)
    (verdict : IsVerdict tribunal.verdict)
    (converted : judgmentOfTribunal criterion tribunal = .ok judgment) :
    judgment.1.criterionId = criterion.id ∧ judgment.1.category = criterion.category ∧
      IsDelivered judgment.1.result := by
  simp only [judgmentOfTribunal, bind_eq_ok] at converted
  obtain ⟨result, read, built⟩ := converted
  rw [← Except.ok.inj built]
  obtain ⟨idEq, categoryEq, resultEq, -⟩ := TribunalResult.toCriterionResult_ok read
  exact ⟨idEq.trans sameId, categoryEq, .inl (resultEq ▸ verdict)⟩

private theorem judgeByTribunal_ok {settings : EvalSettings} {decoders : Decoders}
    {llm : LlmAnswers} {criterion : Criterion} {judgment : Judgment}
    (judged : judgeByTribunal settings decoders llm criterion = .ok judgment) :
    judgment.1.criterionId = criterion.id ∧ judgment.1.category = criterion.category ∧
      IsDelivered judgment.1.result := by
  simp only [judgeByTribunal, bind_eq_ok] at judged
  obtain ⟨first, firstRan, judged⟩ := judged
  obtain ⟨firstId, firstVerdict⟩ := runTribunal_ok firstRan
  split at judged
  · simp only [bind_eq_ok] at judged
    obtain ⟨second, secondRan, judged⟩ := judged
    obtain ⟨secondId, secondVerdict⟩ := runTribunal_ok secondRan
    split at judged
    · refine judgmentOfTribunal_ok ?_ ?_ judged
      · exact firstId
      · exact firstVerdict
    · split at judged
      · exact judgmentOfTribunal_ok secondId secondVerdict judged
      · rw [← Except.ok.inj judged]
        exact ⟨rfl, rfl, .inr rfl⟩
  · exact judgmentOfTribunal_ok firstId firstVerdict judged

private theorem parseJudgmentResponse_ok {decoders : Decoders} {content : String}
    {criterion : Criterion} {result : CriterionResult}
    (parsed : parseJudgmentResponse decoders content criterion = .ok result) :
    result.criterionId = criterion.id ∧ result.category = criterion.category ∧
      IsVerdict result.result := by
  unfold parseJudgmentResponse at parsed
  generalize decoders.loads (dropFenceLines (Text.strip content)) = decoded at parsed
  cases decoded with
  | error error =>
    cases error with
    | jsonDecodeError =>
      rw [← Except.ok.inj parsed]
      simp only [judgmentFromText, true_and]
      exact isVerdict_verdictFromText content
    | valueError => cases parsed
    | recursionError => cases parsed
  | ok data =>
    simp only [bind_eq_ok] at parsed
    obtain ⟨_, _, text, _, reason, _, built⟩ := parsed
    split at built
    · rw [← Except.ok.inj built]
      exact ⟨rfl, rfl, isVerdict_verdictOf text⟩
    · cases built

theorem judgeSingleCriterion_ok {settings : EvalSettings} {decoders : Decoders}
    {llm : LlmAnswers} {criterion : Criterion} {judgment : Judgment}
    (judged : judgeSingleCriterion settings decoders llm criterion = .ok judgment) :
    judgment.1.criterionId = criterion.id ∧ judgment.1.category = criterion.category ∧
      IsDelivered judgment.1.result := by
  unfold judgeSingleCriterion at judged
  split at judged
  · exact judgeByTribunal_ok judged
  · split at judged
    · simp only [bind_eq_ok] at judged
      obtain ⟨tribunal, ran, converted⟩ := judged
      obtain ⟨sameId, verdict⟩ := runSimplifiedTribunal_ok ran
      exact judgmentOfTribunal_ok sameId verdict converted
    · simp only [bind_eq_ok] at judged
      obtain ⟨content, _, result, parsed, built⟩ := judged
      rw [← Except.ok.inj built]
      obtain ⟨sameId, sameCategory, verdict⟩ := parseJudgmentResponse_ok parsed
      exact ⟨sameId, sameCategory, .inl verdict⟩

end Onpremai.AgentEval
