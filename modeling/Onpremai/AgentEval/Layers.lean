import Onpremai.AgentEval.RulesEngine
import Onpremai.AgentEval.Evaluation
import Onpremai.AgentEval.Scoring

/-!
# The two result layers together

Layer 1 and layer 2 split the criteria between them.  The judgment loop is
compared with a table written down directly: the criteria before the first
exhausted credit keep the record of their own outcome, and the criteria from
there on are recorded as insufficient evidence.
-/

namespace Onpremai.AgentEval

open Onpremai.Library

section JudgmentTable

variable (criteriaMap : Dict String Criterion)
variable (judge : Criterion → Except PyError Judgment)

def exhaustsCredit (id : String) : Bool :=
  match criteriaMap.get? id with
  | none => false
  | some criterion =>
    match judge criterion with
    | .error (.llmCreditExhausted _) => true
    | _ => false

def ownRecord (criterion : Criterion) : CriterionResult :=
  match judge criterion with
  | .ok judgment => judgment.1
  | .error _ => unavailableResult criterion

def ownRecordOf (id : String) : CriterionResult :=
  match criteriaMap.get? id with
  | none => creditExhaustedResult criteriaMap id
  | some criterion => ownRecord judge criterion

def judgedIds (ids : List String) : List String :=
  ids.takeWhile fun id => !exhaustsCredit criteriaMap judge id

def skippedIds (ids : List String) : List String :=
  ids.dropWhile fun id => !exhaustsCredit criteriaMap judge id

def judgmentTable (ids : List String) : List (String × CriterionResult) :=
  (judgedIds criteriaMap judge ids).map (fun id => (id, ownRecordOf criteriaMap judge id)) ++
    (skippedIds criteriaMap judge ids).map
      (fun id => (id, creditExhaustedResult criteriaMap id))

theorem map_fst_judgmentTable (ids : List String) :
    (judgmentTable criteriaMap judge ids).map Prod.fst = ids := by
  simp [judgmentTable, judgedIds, skippedIds, Function.comp_def, List.takeWhile_append_dropWhile]

section Lookup

variable {criteriaMap judge}

theorem exhaustsCredit_of_found {criterion : Criterion} {id : String}
    (found : criteriaMap.get? id = some criterion) :
    exhaustsCredit criteriaMap judge id = true ↔
      ∃ level, judge criterion = .error (.llmCreditExhausted level) := by
  rw [exhaustsCredit, found]
  dsimp only
  split
  · next level outcome => exact ⟨fun _ => ⟨level, outcome⟩, fun _ => rfl⟩
  · next other =>
    constructor
    · rintro ⟨⟩
    · rintro ⟨level, outcome⟩
      exact absurd outcome (other level)

theorem judgmentTable_append {before after : List String} {id : String}
    (paid : ∀ earlier ∈ before, exhaustsCredit criteriaMap judge earlier = false)
    (exhausted : exhaustsCredit criteriaMap judge id = true) :
    judgmentTable criteriaMap judge (before ++ id :: after) =
      before.map (fun earlier => (earlier, ownRecordOf criteriaMap judge earlier)) ++
        (id :: after).map (fun later => (later, creditExhaustedResult criteriaMap later)) := by
  have continues : ∀ earlier ∈ before,
      (!exhaustsCredit criteriaMap judge earlier) = true := by
    intro earlier member
    simp [paid earlier member]
  rw [judgmentTable, judgedIds, skippedIds, List.takeWhile_append_of_pos continues,
    List.dropWhile_append_of_pos continues]
  simp [exhausted]

theorem judgmentTable_ne_needsJudgment
    (closed : ∀ criterion judgment, judge criterion = .ok judgment →
      judgment.1.result ≠ .needsJudgment)
    {ids : List String} {entry : String × CriterionResult}
    (member : entry ∈ judgmentTable criteriaMap judge ids) :
    entry.2.result ≠ .needsJudgment := by
  rcases List.mem_append.mp member with own | skipped
  · obtain ⟨id, -, rfl⟩ := List.mem_map.mp own
    dsimp only [ownRecordOf, ownRecord]
    split
    · simp [creditExhaustedResult]
    · next criterion _ =>
      split
      · next judgment judged => exact closed criterion judgment judged
      · simp [unavailableResult]
  · obtain ⟨id, -, rfl⟩ := List.mem_map.mp skipped
    simp [creditExhaustedResult]

end Lookup

end JudgmentTable

def PyError.isCreditExhausted : PyError → Bool
  | .llmCreditExhausted _ => true
  | _ => false

def HandledOutcome (outcome : Except PyError Judgment) : Prop :=
  (∃ judgment, outcome = .ok judgment) ∨ (∃ level, outcome = .error (.llmCreditExhausted level)) ∨
    outcome = .error .llmUnavailable

instance : DecidablePred HandledOutcome := fun outcome =>
  match outcome with
  | .ok judgment => .isTrue (.inl ⟨judgment, rfl⟩)
  | .error exn =>
    decidable_of_iff (exn.isCreditExhausted = true ∨ exn = .llmUnavailable) (by
      cases exn <;> simp [HandledOutcome, PyError.isCreditExhausted])

private theorem markRemaining_of_mem (criteriaMap : Dict String Criterion)
    {ids : List String} {results : Dict String CriterionResult}
    (recorded : ∀ id ∈ ids, id ∈ results.keys) :
    markRemaining criteriaMap ids results = results := by
  induction ids with
  | nil => rfl
  | cons id rest ih =>
    simp only [List.mem_cons, forall_eq_or_imp] at recorded
    simp only [markRemaining, List.foldl_cons, recorded.1, if_true]
    exact ih recorded.2

private theorem markRemaining_of_fresh (criteriaMap : Dict String Criterion)
    {ids : List String} {results : Dict String CriterionResult} (nodup : ids.Nodup)
    (fresh : ∀ id ∈ ids, id ∉ results.keys) :
    markRemaining criteriaMap ids results =
      results.setAll (ids.map fun id => (id, creditExhaustedResult criteriaMap id)) := by
  induction ids generalizing results with
  | nil => rfl
  | cons id rest ih =>
    simp only [List.mem_cons, forall_eq_or_imp] at fresh
    obtain ⟨notInRest, restNodup⟩ := List.nodup_cons.mp nodup
    have restFresh : ∀ other ∈ rest,
        other ∉ (results.set id (creditExhaustedResult criteriaMap id)).keys := by
      intro other member inside
      rw [Dict.keys_set_of_notMem _ fresh.1, List.mem_append, List.mem_singleton] at inside
      rcases inside with old | rfl
      · exact fresh.2 other member old
      · exact notInRest member
    have step := ih restNodup restFresh
    simp only [markRemaining, List.foldl_cons, fresh.1, if_false] at step ⊢
    simpa [Dict.setAll] using step

section

variable {criteriaMap : Dict String Criterion} {judge : Criterion → Except PyError Judgment}

/-- The judgment loop, started after the ids `done`, writes the records of the
table for the ids that remain. -/
theorem judgeLoop_eq {done rest : List String} {acc : JudgmentAcc} (nodup : (done ++ rest).Nodup)
    (doneKeys : acc.judgmentResults.keys = done)
    (handled : ∀ id ∈ rest, ∃ criterion, criteriaMap.get? id = some criterion ∧
      HandledOutcome (judge criterion)) :
    ∃ final, judgeLoop criteriaMap judge (done ++ rest) rest acc = .ok final ∧
      final.judgmentResults = acc.judgmentResults.setAll (judgmentTable criteriaMap judge rest) ∧
      final.partialEvaluation =
        (acc.partialEvaluation || rest.any (exhaustsCredit criteriaMap judge)) := by
  induction rest generalizing done acc with
  | nil => exact ⟨acc, rfl, rfl, by simp⟩
  | cons id rest ih =>
    simp only [List.mem_cons, forall_eq_or_imp] at handled
    obtain ⟨⟨criterion, found, outcome⟩, restHandled⟩ := handled
    have split : done ++ id :: rest = (done ++ [id]) ++ rest := by simp
    have idFresh : id ∉ acc.judgmentResults.keys := by
      rw [doneKeys]
      intro member
      have := (List.nodup_append.mp nodup).2.2 id member id (by simp)
      exact this rfl
    -- a recorded outcome leaves the loop after one more id
    have continued : ∀ (record : CriterionResult) (next : JudgmentAcc),
        exhaustsCredit criteriaMap judge id = false →
        ownRecordOf criteriaMap judge id = record →
        next.judgmentResults = acc.judgmentResults.set id record →
        next.partialEvaluation = acc.partialEvaluation →
        ∃ final, judgeLoop criteriaMap judge (done ++ id :: rest) rest next = .ok final ∧
          final.judgmentResults =
            acc.judgmentResults.setAll (judgmentTable criteriaMap judge (id :: rest)) ∧
          final.partialEvaluation = (acc.partialEvaluation ||
            (id :: rest).any (exhaustsCredit criteriaMap judge)) := by
      intro record next credit own written flag
      have nextKeys : next.judgmentResults.keys = done ++ [id] := by
        rw [written, Dict.keys_set_of_notMem _ idFresh, doneKeys]
      obtain ⟨final, ran, results, final_flag⟩ := ih (split ▸ nodup) nextKeys restHandled
      refine ⟨final, split ▸ ran, ?_, ?_⟩
      · simp [results, written, judgmentTable, judgedIds, skippedIds, credit, own, Dict.setAll]
      · simp [final_flag, flag, credit]
    rcases outcome with ⟨judgment, answered⟩ | ⟨level, exhausted⟩ | unavailable
    · simp only [judgeLoop, found, answered]
      apply continued judgment.1
      · simp [exhaustsCredit, found, answered]
      · simp [ownRecordOf, ownRecord, found, answered]
      · rfl
      · rfl
    · have credit : exhaustsCredit criteriaMap judge id = true := by
        simp [exhaustsCredit, found, exhausted]
      have doneMarked : markRemaining criteriaMap (done ++ id :: rest) acc.judgmentResults =
          markRemaining criteriaMap (id :: rest) acc.judgmentResults := by
        rw [markRemaining, List.foldl_append]
        exact congrArg (markRemaining criteriaMap (id :: rest))
          (markRemaining_of_mem criteriaMap fun other member => doneKeys ▸ member)
      refine ⟨acc.exhausted criteriaMap (done ++ id :: rest), ?_, ?_, ?_⟩
      · simp only [judgeLoop, found, exhausted]
      · simp only [JudgmentAcc.exhausted, doneMarked]
        rw [markRemaining_of_fresh criteriaMap (List.nodup_append.mp nodup).2.1]
        · simp [judgmentTable, judgedIds, skippedIds, credit]
        · intro other member inside
          rw [doneKeys] at inside
          exact (List.nodup_append.mp nodup).2.2 other inside other member rfl
      · simp [JudgmentAcc.exhausted, credit]
    · simp only [judgeLoop, found, unavailable]
      apply continued (unavailableResult criterion)
      · simp [exhaustsCredit, found, unavailable]
      · simp [ownRecordOf, ownRecord, found, unavailable]
      · rfl
      · rfl

theorem judgeLoop_paid {ids rest : List String} {acc final : JudgmentAcc}
    (ran : judgeLoop criteriaMap judge ids rest acc = .ok final)
    (complete : final.partialEvaluation = false) :
    ∀ id ∈ rest, exhaustsCredit criteriaMap judge id = false := by
  induction rest generalizing acc with
  | nil => simp
  | cons id rest ih =>
    rw [judgeLoop] at ran
    rw [List.forall_mem_cons]
    split at ran
    · next missing => exact ⟨by simp [exhaustsCredit, missing], ih ran⟩
    · next criterion found =>
      split at ran
      · next answered => exact ⟨by simp [exhaustsCredit, found, answered], ih ran⟩
      · cases ran
        simp [JudgmentAcc.exhausted] at complete
      · next unavailable =>
        exact ⟨by simp [exhaustsCredit, found, unavailable], ih ran⟩
      · cases ran

end

theorem evaluationNode_eq_buildResponse {judge : Criterion → Except PyError Judgment}
    {layer2Ms : Rat} {state update : EvalGraphState}
    (ran : evaluationNode judge layer2Ms state = .ok update) :
    ∃ acc, update = buildResponse state acc layer2Ms ∧
      ∀ testingCriteria, state.criteria? = some testingCriteria →
        judgeLoop (criteriaMapOf testingCriteria.criteria) judge
          (state.needsJudgment.getD []) (state.needsJudgment.getD []) {} = .ok acc := by
  rw [evaluationNode] at ran
  split at ran
  · next missing =>
    refine ⟨{}, (Except.ok.inj ran).symm, ?_⟩
    intro testingCriteria loaded
    cases missing.symm.trans loaded
  · next known loaded =>
    have same : ∀ testingCriteria, state.criteria? = some testingCriteria →
        testingCriteria = known :=
      fun testingCriteria also => Option.some.inj (also.symm.trans loaded)
    split at ran
    · next empty =>
      refine ⟨{}, (Except.ok.inj ran).symm, fun testingCriteria _ => ?_⟩
      rw [empty]
      rfl
    · obtain ⟨acc, looped, returned⟩ := bind_eq_ok.mp ran
      refine ⟨acc, (Except.ok.inj returned).symm, fun testingCriteria also => ?_⟩
      rw [same testingCriteria also]
      exact looped

def runLayers (handlers : RuleHandlers) (judge : Criterion → Except PyError Judgment)
    (layer1Ms layer2Ms : Rat) (state : EvalGraphState) : Except PyError EvalGraphState := do
  let afterRules := state.merge (rulesEngineNode handlers layer1Ms state)
  let update ← evaluationNode judge layer2Ms afterRules
  return afterRules.merge update

def EvalGraphState.finalResults (state : EvalGraphState) : Dict String CriterionResult :=
  mergeResults (state.ruleResults.getD .empty) (state.judgmentResults.getD .empty)

def layer1Result (handlers : RuleHandlers) (state : EvalGraphState)
    (criterion : Criterion) : CriterionResult :=
  evaluateCriterionWithRules handlers criterion
    (state.evidenceMetadata.getD []) (state.evidenceFiles.getD [])

def judgedCriteria (handlers : RuleHandlers) (state : EvalGraphState)
    (criteria : List Criterion) : List Criterion :=
  criteria.filter (LeftToLayer2 (layer1Result handlers state))

section Run

variable {handlers : RuleHandlers} {judge : Criterion → Except PyError Judgment}
variable {layer1Ms layer2Ms : Rat} {state : EvalGraphState}
variable {testingCriteria : TestingCriteria}

private theorem rulesEngineNode_eq (loaded : state.criteria? = some testingCriteria) :
    rulesEngineNode handlers layer1Ms state =
      { ruleResults := some (Dict.ofList (testingCriteria.criteria.map fun criterion =>
          (criterion.id, layer1Result handlers state criterion)))
        needsJudgment := some
          ((judgedCriteria handlers state testingCriteria.criteria).map Criterion.id)
        timing := some (some (rulesTiming state.timing? layer1Ms))
        layerStats := some (some
          { layer1Resolved := (testingCriteria.criteria.filter fun criterion =>
              !LeftToLayer2 (layer1Result handlers state) criterion).length
            totalCriteria := testingCriteria.criteria.length }) } := by
  unfold rulesEngineNode
  simp only [loaded]
  rw [applyRules_eq]
  rfl

private theorem evaluationNode_ok {ids : List String} {criteriaMap : Dict String Criterion}
    {previous : LayerStats} (loaded : state.criteria? = some testingCriteria)
    (mapEq : criteriaMap = criteriaMapOf testingCriteria.criteria)
    (needed : state.needsJudgment = some ids) (nodup : ids.Nodup)
    (counted : state.layerStats = some (some previous))
    (handled : ∀ id ∈ ids, ∃ criterion, criteriaMap.get? id = some criterion ∧
      HandledOutcome (judge criterion)) :
    ∃ update stats, evaluationNode judge layer2Ms state = .ok update ∧ update.ruleResults = none ∧
      update.judgmentResults = some (Dict.empty.setAll (judgmentTable criteriaMap judge ids)) ∧
      update.partialEvaluation = some (ids.any (exhaustsCredit criteriaMap judge)) ∧
      update.layerStats = some (some stats) ∧
      stats.layer1Resolved = previous.layer1Resolved ∧
      stats.layer2Resolved = ids.length := by
  subst mapEq
  obtain ⟨acc, ran, results, flag⟩ := @judgeLoop_eq
    (criteriaMapOf testingCriteria.criteria) judge [] ids {} (by simpa using nodup) rfl handled
  have size : acc.judgmentResults.size = ids.length := by
    rw [results, Dict.size_eq_length_keys, Dict.keys_setAll_of_fresh, map_fst_judgmentTable]
    · simp
    · rwa [map_fst_judgmentTable]
    · simp
  have resolved : (evaluationStats state.layerStats? acc.judgmentResults.size
      acc.llmCalls).layer1Resolved = previous.layer1Resolved := by
    simp [EvalGraphState.layerStats?, counted, evaluationStats]
  refine ⟨buildResponse state acc layer2Ms, _, ?_, rfl, congrArg some results, ?_, rfl,
    resolved, ?_⟩
  · by_cases empty : ids = []
    · subst empty
      cases ran
      simp [evaluationNode, loaded, needed]
    · simp only [List.nil_append] at ran
      simp [evaluationNode, loaded, needed, empty, ran, bind, Except.bind, pure, Except.pure]
  · simpa [buildResponse] using flag
  · simp only [EvalGraphState.layerStats?, counted, Option.getD_some, evaluationStats, size]

private theorem judgedCriteria_sublist (handlers : RuleHandlers) (state : EvalGraphState)
    (criteria : List Criterion) :
    ((judgedCriteria handlers state criteria).map Criterion.id).Sublist
      (criteria.map Criterion.id) :=
  List.filter_sublist.map Criterion.id

private theorem runLayers_ok (loaded : state.criteria? = some testingCriteria)
    (distinct : (testingCriteria.criteria.map Criterion.id).Nodup)
    (handled : ∀ criterion ∈ judgedCriteria handlers state testingCriteria.criteria,
      HandledOutcome (judge criterion)) :
    ∃ final stats, runLayers handlers judge layer1Ms layer2Ms state = .ok final ∧
      final.ruleResults = some (Dict.ofList (testingCriteria.criteria.map fun criterion =>
        (criterion.id, layer1Result handlers state criterion))) ∧
      final.judgmentResults = some (Dict.empty.setAll
        (judgmentTable (criteriaMapOf testingCriteria.criteria) judge
          ((judgedCriteria handlers state testingCriteria.criteria).map Criterion.id))) ∧
      final.partialEvaluation =
        some (((judgedCriteria handlers state testingCriteria.criteria).map Criterion.id).any
          (exhaustsCredit (criteriaMapOf testingCriteria.criteria) judge)) ∧
      final.layerStats = some (some stats) ∧
      stats.layer1Resolved + stats.layer2Resolved = testingCriteria.criteria.length := by
  set judged := judgedCriteria handlers state testingCriteria.criteria with judgedEq
  set afterRules := state.merge (rulesEngineNode handlers layer1Ms state) with afterEq
  have rules := @rulesEngineNode_eq handlers layer1Ms state testingCriteria loaded
  have nodup : (judged.map Criterion.id).Nodup :=
    distinct.sublist (judgedCriteria_sublist handlers state testingCriteria.criteria)
  have mapped : ∀ id ∈ judged.map Criterion.id, ∃ criterion,
      (criteriaMapOf testingCriteria.criteria).get? id = some criterion ∧
        HandledOutcome (judge criterion) := by
    intro id member
    obtain ⟨criterion, inside, rfl⟩ := List.mem_map.mp member
    have listed : criterion ∈ testingCriteria.criteria := (List.mem_filter.mp inside).1
    exact ⟨criterion, get?_criteriaMapOf distinct listed, handled criterion inside⟩
  obtain ⟨update, stats, ran, noRules, results, flag, counted, first, second⟩ :=
    @evaluationNode_ok judge layer2Ms afterRules testingCriteria _ _ _
      (by simpa [afterEq, rules, EvalGraphState.merge, EvalGraphState.criteria?] using loaded)
      rfl (by simp [afterEq, rules, EvalGraphState.merge, judgedEq]) nodup
      (by rw [afterEq, rules]; rfl) mapped
  refine ⟨afterRules.merge update, stats, ?_, ?_, ?_, ?_, ?_, ?_⟩
  · simp [runLayers, ← afterEq, ran, bind, Except.bind, pure, Except.pure]
  · simp [EvalGraphState.merge, noRules, afterEq, rules]
  · simp [EvalGraphState.merge, results]
  · simp [EvalGraphState.merge, flag]
  · simp [EvalGraphState.merge, counted]
  · have split := @List.length_eq_length_filter_add _ testingCriteria.criteria
      (LeftToLayer2 (layer1Result handlers state))
    rw [second, List.length_map, judgedEq, judgedCriteria, split, add_comm]
    exact congrArg _ first

private theorem keys_mergeResults {ruleResults : Dict String CriterionResult}
    {judgments : List (String × CriterionResult)}
    (known : ∀ id ∈ judgments.map Prod.fst, id ∈ ruleResults.keys)
    (nodup : (judgments.map Prod.fst).Nodup) :
    (mergeResults ruleResults (Dict.empty.setAll judgments)).keys = ruleResults.keys := by
  have copied : (Dict.empty.update ruleResults).keys = ruleResults.keys := by
    rw [Dict.update, Dict.keys_setAll_of_fresh _ ruleResults.nodupKeys]
    · rfl
    · simp
  rw [mergeResults, Dict.update, Dict.keys_setAll_of_mem, copied]
  intro id member
  rw [copied]
  apply known
  have keys : (Dict.empty.setAll judgments).keys = judgments.map Prod.fst := by
    rw [Dict.keys_setAll_of_fresh _ nodup] <;> simp
  rw [← keys]
  exact member

/-! ## What the two nodes recorded -/

/-- What layer 2 records, in order. -/
def layer2Table (handlers : RuleHandlers) (judge : Criterion → Except PyError Judgment)
    (state : EvalGraphState) (criteria : List Criterion) : List (String × CriterionResult) :=
  judgmentTable (criteriaMapOf criteria) judge
    ((judgedCriteria handlers state criteria).map Criterion.id)

def bothTables (handlers : RuleHandlers) (judge : Criterion → Except PyError Judgment)
    (state : EvalGraphState) (criteria : List Criterion) : Dict String CriterionResult :=
  mergeResults
    (Dict.ofList (criteria.map fun criterion =>
      (criterion.id, layer1Result handlers state criterion)))
    (Dict.empty.setAll (layer2Table handlers judge state criteria))

section

variable {criteria : List Criterion}

theorem map_fst_layer2Table : (layer2Table handlers judge state criteria).map Prod.fst =
      (judgedCriteria handlers state criteria).map Criterion.id :=
  map_fst_judgmentTable (criteriaMapOf criteria) judge _

theorem nodup_layer2Table (distinct : (criteria.map Criterion.id).Nodup) :
    ((layer2Table handlers judge state criteria).map Prod.fst).Nodup := by
  rw [map_fst_layer2Table]
  exact distinct.sublist (judgedCriteria_sublist handlers state criteria)

theorem keys_bothTables (distinct : (criteria.map Criterion.id).Nodup) :
    (bothTables handlers judge state criteria).keys = criteria.map Criterion.id := by
  have ruleKeys : (Dict.ofList (criteria.map fun criterion =>
      (criterion.id, layer1Result handlers state criterion))).keys =
        criteria.map Criterion.id := by
    rw [Dict.keys_ofList]
    · simp [Function.comp_def]
    · simpa [Function.comp_def] using distinct
  rw [bothTables, keys_mergeResults, ruleKeys]
  · intro id member
    rw [map_fst_layer2Table] at member
    rw [ruleKeys]
    exact (judgedCriteria_sublist handlers state criteria).subset member
  · exact nodup_layer2Table distinct

theorem get?_bothTables_judged (distinct : (criteria.map Criterion.id).Nodup) {id : String}
    {record : CriterionResult} (member : (id, record) ∈ layer2Table handlers judge state criteria) :
    (bothTables handlers judge state criteria).get? id = some record := by
  rw [bothTables, get?_mergeResults, Dict.get?_setAll_of_mem _ (nodup_layer2Table distinct) member]
  rfl

theorem get?_bothTables_resolved (distinct : (criteria.map Criterion.id).Nodup)
    {criterion : Criterion} (member : criterion ∈ criteria)
    (resolved : criterion ∉ judgedCriteria handlers state criteria) :
    (bothTables handlers judge state criteria).get? criterion.id =
      some (layer1Result handlers state criterion) := by
  have absent : criterion.id ∉ (layer2Table handlers judge state criteria).map Prod.fst := by
    rw [map_fst_layer2Table]
    intro inside
    obtain ⟨other, otherJudged, sameId⟩ := List.mem_map.mp inside
    have same := List.inj_on_of_nodup_map distinct (List.mem_filter.mp otherJudged).1 member sameId
    exact resolved (same ▸ otherJudged)
  rw [bothTables, get?_mergeResults, Dict.get?_setAll_of_notMem _ absent, Dict.get?_empty]
  apply Dict.get?_ofList_of_mem
  · simpa [Function.comp_def] using distinct
  · exact List.mem_map.mpr ⟨criterion, member, rfl⟩

theorem bothTables_ne_needsJudgment (distinct : (criteria.map Criterion.id).Nodup)
    (decided : ∀ criterion judgment, judge criterion = .ok judgment →
      judgment.1.result ≠ .needsJudgment)
    {criterion : Criterion} (member : criterion ∈ criteria) :
    ∃ record, (bothTables handlers judge state criteria).get? criterion.id = some record ∧
      record.result ≠ .needsJudgment := by
  by_cases left : criterion ∈ judgedCriteria handlers state criteria
  · -- layer 2 recorded the criterion
    have inTable : criterion.id ∈ (layer2Table handlers judge state criteria).map Prod.fst := by
      rw [map_fst_layer2Table]
      exact List.mem_map.mpr ⟨criterion, left, rfl⟩
    obtain ⟨entry, inside, sameId⟩ := List.mem_map.mp inTable
    exact ⟨entry.2, get?_bothTables_judged distinct (sameId ▸ inside),
      judgmentTable_ne_needsJudgment decided inside⟩
  · -- layer 1 resolved the criterion
    refine ⟨layer1Result handlers state criterion,
      get?_bothTables_resolved distinct member left, ?_⟩
    intro unresolved
    exact left (List.mem_filter.mpr ⟨member, by simp [LeftToLayer2, unresolved]⟩)

theorem layer2Table_exhausted (distinct : (criteria.map Criterion.id).Nodup)
    {before after : List Criterion} {criterion : Criterion} {level : Nat}
    (split : judgedCriteria handlers state criteria = before ++ criterion :: after)
    (paid : ∀ earlier ∈ before, ∀ level, judge earlier ≠ .error (.llmCreditExhausted level))
    (exhausted : judge criterion = .error (.llmCreditExhausted level)) :
    exhaustsCredit (criteriaMapOf criteria) judge criterion.id = true ∧
      layer2Table handlers judge state criteria =
        (before.map fun earlier => (earlier.id, ownRecord judge earlier)) ++
          ((criterion :: after).map fun later =>
            (later.id, creditExhaustedResult (criteriaMapOf criteria) later.id)) := by
  have found : ∀ other ∈ before ++ criterion :: after,
      (criteriaMapOf criteria).get? other.id = some other := by
    intro other member
    rw [← split] at member
    exact get?_criteriaMapOf distinct (List.mem_filter.mp member).1
  have beforePaid : ∀ id ∈ before.map Criterion.id,
      exhaustsCredit (criteriaMapOf criteria) judge id = false := by
    intro id member
    obtain ⟨earlier, inside, rfl⟩ := List.mem_map.mp member
    by_contra spent
    obtain ⟨spentLevel, outcome⟩ := (exhaustsCredit_of_found
      (found earlier (List.mem_append_left _ inside))).mp (by simpa using spent)
    exact paid earlier inside spentLevel outcome
  have spent : exhaustsCredit (criteriaMapOf criteria) judge criterion.id = true :=
    (exhaustsCredit_of_found (found criterion (by simp))).mpr ⟨level, exhausted⟩
  have own : ∀ earlier ∈ before,
      ownRecordOf (criteriaMapOf criteria) judge earlier.id = ownRecord judge earlier := by
    intro earlier member
    rw [ownRecordOf, found earlier (List.mem_append_left _ member)]
  constructor
  · exact spent
  · rw [layer2Table, split, List.map_append, List.map_cons, judgmentTable_append beforePaid spent,
      ← List.map_cons, List.map_map, List.map_map]
    congr 1
    apply List.map_congr_left
    intro earlier member
    exact congrArg (Prod.mk earlier.id) (own earlier member)

end

def judgeWith (settings : EvalSettings) (decoders : Decoders) (llm : String → LlmAnswers)
    (criterion : Criterion) : Except PyError Judgment :=
  judgeSingleCriterion settings decoders (llm criterion.id) criterion

/-- After both layers every criterion has one result and none is left open.  An
exhausted credit keeps the judgments made before it, records every later
criterion as insufficient evidence and flags the evaluation; the two counts add
up to the number of criteria. -/
theorem layers_resolve_every_criterion (settings : EvalSettings) (decoders : Decoders)
    (llm : String → LlmAnswers) (loaded : state.criteria? = some testingCriteria)
    (distinct : (testingCriteria.criteria.map Criterion.id).Nodup)
    (handled : ∀ criterion ∈ judgedCriteria handlers state testingCriteria.criteria,
      HandledOutcome (judgeWith settings decoders llm criterion)) :
    ∃ final stats, runLayers handlers (judgeWith settings decoders llm) layer1Ms layer2Ms state =
        .ok final ∧
      final.layerStats = some (some stats) ∧
      final.finalResults.keys = testingCriteria.criteria.map Criterion.id ∧
      (∀ criterion ∈ testingCriteria.criteria, ∃ record,
        final.finalResults.get? criterion.id = some record ∧ record.result ≠ .needsJudgment) ∧
      (∀ before criterion after level, judgedCriteria handlers state testingCriteria.criteria =
          before ++ criterion :: after →
        (∀ earlier ∈ before, ∀ level,
          judgeWith settings decoders llm earlier ≠ .error (.llmCreditExhausted level)) →
        judgeWith settings decoders llm criterion = .error (.llmCreditExhausted level) →
        (∀ earlier ∈ before, final.finalResults.get? earlier.id =
          some (ownRecord (judgeWith settings decoders llm) earlier)) ∧
        (∀ later ∈ criterion :: after, ∃ record, final.finalResults.get? later.id = some record ∧
            record.result = .insufficientEvidence ∧ record.method = .degraded) ∧
        final.partialEvaluation = some true) ∧
      stats.layer1Resolved + stats.layer2Resolved = testingCriteria.criteria.length := by
  obtain ⟨final, stats, ran, rules, judgments, flag, counted, total⟩ :=
    @runLayers_ok handlers (judgeWith settings decoders llm) layer1Ms layer2Ms state
      testingCriteria loaded distinct handled
  have results : final.finalResults =
      bothTables handlers (judgeWith settings decoders llm) state testingCriteria.criteria := by
    rw [EvalGraphState.finalResults, rules, judgments]
    rfl
  refine ⟨final, stats, ran, counted, ?_, ?_, ?_, total⟩
  · rw [results, keys_bothTables distinct]
  · intro criterion member
    rw [results]
    apply bothTables_ne_needsJudgment distinct _ member
    intro other judgment answered
    exact (judgeSingleCriterion_ok answered).2.2.isJudgment.ne_needsJudgment
  · intro before criterion after level split paid exhausted
    have table := layer2Table_exhausted distinct split paid exhausted
    have recorded := fun id record => @get?_bothTables_judged handlers
      (judgeWith settings decoders llm) state testingCriteria.criteria distinct id record
    rw [table.2] at recorded
    rw [results]
    refine ⟨?_, ?_, ?_⟩
    · intro earlier member
      apply recorded
      exact List.mem_append_left _ (List.mem_map.mpr ⟨earlier, member, rfl⟩)
    · intro later member
      refine ⟨_, recorded _ _ (List.mem_append_right _ (List.mem_map.mpr ⟨later, member, rfl⟩)),
        rfl, rfl⟩
    · rw [flag, Option.some_inj]
      refine List.any_eq_true.mpr ⟨criterion.id, ?_, table.1⟩
      rw [split]
      simp

end Run

private def rowCountPasses : RuleHandlers := fun checkType =>
  if checkType = "row_count" then
    some fun criterion _ _ =>
      .ok { criterionId := criterion.id, category := criterion.category
            result := .pass, method := .ruleRowCount }
  else none

private def plainDecoders : Decoders where
  loads := fun _ => .error .jsonDecodeError
  floatOfString := fun _ => none

private def secondOutOfCredit : String → LlmAnswers := fun id _ =>
  if id = "AC-2.3" then .error (.llmCreditExhausted 3) else .ok "The evidence passes"

private def threeCriteria : TestingCriteria where
  controlId := "AC-2"
  framework := "NIST"
  criteria := [{ id := "AC-2.1", category := "policy", checkType := some "row_count" },
     { id := "AC-2.2", category := "procedure", weight := 5 / 100 },
     { id := "AC-2.3", category := "implementation", weight := 5 / 100 }]

theorem layers_resolve_three_criteria : ∃ final stats,
      runLayers rowCountPasses (judgeWith {} plainDecoders secondOutOfCredit) 1 2
        { testingCriteria := some (some threeCriteria) } = .ok final ∧
      final.layerStats = some (some stats) ∧
      final.finalResults.keys = ["AC-2.1", "AC-2.2", "AC-2.3"] ∧
      stats.layer1Resolved + stats.layer2Resolved = 3 := by
  obtain ⟨final, stats, ran, counted, keys, -, -, total⟩ :=
    @layers_resolve_every_criterion rowCountPasses 1 2
      { testingCriteria := some (some threeCriteria) } threeCriteria {} plainDecoders
      secondOutOfCredit rfl (by decide) (by decide +kernel)
  exact ⟨final, stats, ran, counted, keys, total⟩

end Onpremai.AgentEval
