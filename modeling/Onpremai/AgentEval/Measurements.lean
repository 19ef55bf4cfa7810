import Onpremai.AgentEval.GraphRuns
import Onpremai.AgentEval.StoredRecords
import Onpremai.Library.Handlers
import Onpremai.Library.Lines

/-!
# What a result tells about its run

The time and the statistics of a result, against what its run has done.  The requests to the
LLM are counted first, then each node's measurements are followed to the result.

## The requests to the LLM

Every call of the LLM client is one completion request, whether it is answered or not.  The
judging of layer 2 is written once more with a counter of its calls; it judges as before, with
one request for a light criterion and with more for a criterion that goes to a tribunal.
-/

namespace Onpremai.AgentEval

open Onpremai.Library
open Counting (call plain AtLeast Makes)

namespace Counted

section Judging

variable (settings : EvalSettings) (decoders : Decoders) (llm : LlmAnswers)

def runJudge (retry : Bool) (criterion : Criterion) (prosecutionArgs defenseArgs : Json) :
    Counting PyError TribunalResult := do
  plain (iterate prosecutionArgs)
  plain (iterate defenseArgs)
  let content ← call (llm (.judge retry))
  plain (parseJudgeResponse decoders content criterion.id prosecutionArgs defenseArgs)

def runTribunal (retry : Bool) (criterion : Criterion) : Counting PyError TribunalResult := do
  let prosecution ← call (llm (.prosecute retry))
  let prosecutionArgs ← plain (parseArguments decoders prosecution)
  let defense ← call (llm (.defend retry))
  let defenseArgs ← plain (parseArguments decoders defense)
  runJudge decoders llm retry criterion prosecutionArgs defenseArgs

def runSimplifiedTribunal (criterion : Criterion) : Counting PyError TribunalResult := do
  let prosecution ← call (llm (.prosecute false))
  let prosecutionArgs ← plain (parseArguments decoders prosecution)
  runJudge decoders llm false criterion prosecutionArgs
    (Json.strings ["(Defense not called — Judge considers both sides)"])

def judgeByTribunal (criterion : Criterion) : Counting PyError Judgment := do
  let first ← runTribunal decoders llm false criterion
  if first.confidence < settings.tribunalConfidenceThreshold ∧
      0 < settings.tribunalMaxRetries then
    let second ← runTribunal decoders llm true criterion
    plain
      (if second.verdict = first.verdict then
        judgmentOfTribunal criterion
          { first with confidence := (first.confidence + second.confidence) / 2 }
      else if first.confidence < second.confidence then
        judgmentOfTribunal criterion second
      else .ok (disagreement criterion first second, none))
  else
    plain (judgmentOfTribunal criterion first)

def judgeSingleCriterion (criterion : Criterion) : Counting PyError Judgment :=
  if settings.consensusWeightThreshold ≤ criterion.weight then
    judgeByTribunal settings decoders llm criterion
  else if 1 / 10 ≤ criterion.weight then do
    let tribunal ← runSimplifiedTribunal decoders llm criterion
    plain (judgmentOfTribunal criterion tribunal)
  else do
    let content ← call (llm .single)
    plain (do
      let result ← parseJudgmentResponse decoders content criterion
      return (result, none))

end Judging

variable {settings : EvalSettings} {decoders : Decoders} {llm : LlmAnswers}

theorem atLeast_runJudge (retry : Bool) (criterion : Criterion)
    (prosecutionArgs defenseArgs : Json) :
    AtLeast (runJudge decoders llm retry criterion prosecutionArgs defenseArgs)
      (AgentEval.runJudge decoders llm retry criterion prosecutionArgs defenseArgs) 0 1 := by
  rw [runJudge, AgentEval.runJudge]
  apply (Counting.atLeast_plain (iterate prosecutionArgs)).bind 1
  intro _
  apply (Counting.atLeast_plain (iterate defenseArgs)).bind 1
  intro _
  apply (Counting.atLeast_call (llm (.judge retry))).bind 0
  intro content
  exact Counting.atLeast_plain _

theorem atLeast_runTribunal (retry : Bool) (criterion : Criterion) :
    AtLeast (runTribunal decoders llm retry criterion)
      (AgentEval.runTribunal decoders llm retry criterion) 1 3 := by
  rw [runTribunal, AgentEval.runTribunal]
  apply (Counting.atLeast_call (llm (.prosecute retry))).bind 2
  intro prosecution
  apply (Counting.atLeast_plain (parseArguments decoders prosecution)).bind 2
  intro prosecutionArgs
  apply (Counting.atLeast_call (llm (.defend retry))).bind 1
  intro defense
  apply (Counting.atLeast_plain (parseArguments decoders defense)).bind 1
  intro defenseArgs
  exact atLeast_runJudge retry criterion prosecutionArgs defenseArgs

theorem atLeast_runSimplifiedTribunal (criterion : Criterion) :
    AtLeast (runSimplifiedTribunal decoders llm criterion)
      (AgentEval.runSimplifiedTribunal decoders llm criterion) 1 2 := by
  rw [runSimplifiedTribunal, AgentEval.runSimplifiedTribunal]
  apply (Counting.atLeast_call (llm (.prosecute false))).bind 1
  intro prosecution
  apply (Counting.atLeast_plain (parseArguments decoders prosecution)).bind 1
  intro prosecutionArgs
  exact atLeast_runJudge false criterion prosecutionArgs _

theorem atLeast_judgeByTribunal (criterion : Criterion) :
    AtLeast (judgeByTribunal settings decoders llm criterion)
      (AgentEval.judgeByTribunal settings decoders llm criterion) 1 3 := by
  rw [judgeByTribunal, AgentEval.judgeByTribunal]
  apply (atLeast_runTribunal false criterion).bind 0
  intro first
  split
  · apply ((atLeast_runTribunal true criterion).weaken (Nat.zero_le 1) (Nat.zero_le 3)).bind 0
    intro second
    split
    · exact Counting.atLeast_plain _
    · split
      · exact Counting.atLeast_plain _
      · exact Counting.atLeast_plain _
  · exact Counting.atLeast_plain _

end Counted

/-- A criterion that is judged by a single call. -/
def IsLight (settings : EvalSettings) (criterion : Criterion) : Prop :=
  criterion.weight < settings.consensusWeightThreshold ∧ criterion.weight < 1 / 10

instance (settings : EvalSettings) (criterion : Criterion) :
    Decidable (IsLight settings criterion) := inferInstanceAs (Decidable (_ ∧ _))

section Judging

variable {settings : EvalSettings} {decoders : Decoders} {llm : LlmAnswers}
  {criterion : Criterion}

theorem makes_of_light (light : IsLight settings criterion) :
    Makes (Counted.judgeSingleCriterion settings decoders llm criterion)
      (judgeSingleCriterion settings decoders llm criterion) 1 := by
  rw [Counted.judgeSingleCriterion, judgeSingleCriterion, if_neg (not_le.mpr light.1),
    if_neg (not_le.mpr light.1), if_neg (not_le.mpr light.2), if_neg (not_le.mpr light.2)]
  exact (Counting.makes_call (llm .single)).bind_plain _

theorem atLeast_of_heavy (heavy : ¬ IsLight settings criterion) :
    AtLeast (Counted.judgeSingleCriterion settings decoders llm criterion)
      (judgeSingleCriterion settings decoders llm criterion) 1 2 := by
  rw [Counted.judgeSingleCriterion, judgeSingleCriterion]
  by_cases full : settings.consensusWeightThreshold ≤ criterion.weight
  · rw [if_pos full, if_pos full]
    exact (Counted.atLeast_judgeByTribunal criterion).weaken (Nat.le_refl 1) (by decide)
  · have medium : 1 / 10 ≤ criterion.weight := not_lt.mp fun low => heavy ⟨not_le.mp full, low⟩
    rw [if_neg full, if_neg full, if_pos medium, if_pos medium]
    apply (Counted.atLeast_runSimplifiedTribunal criterion).bind 0
    intro tribunal
    exact Counting.atLeast_plain _

def judgingRequests (settings : EvalSettings) (decoders : Decoders) (llm : LlmAnswers)
    (criterion : Criterion) : Nat :=
  Counting.calls (Counted.judgeSingleCriterion settings decoders llm criterion)

theorem judgingRequests_pos : 1 ≤ judgingRequests settings decoders llm criterion := by
  rw [judgingRequests]
  by_cases light : IsLight settings criterion
  · rw [(makes_of_light light).calls_eq]
  · obtain ⟨calls, makes, bound, -⟩ := @atLeast_of_heavy settings decoders llm criterion light
    rw [makes.calls_eq]
    exact bound

theorem judged_by_one_iff : Returns (judgeSingleCriterion settings decoders llm criterion) ∧
        judgingRequests settings decoders llm criterion = 1 ↔
      IsLight settings criterion ∧
        Returns (judgeSingleCriterion settings decoders llm criterion) := by
  rw [judgingRequests]
  by_cases light : IsLight settings criterion
  · rw [(makes_of_light light).calls_eq, and_iff_left rfl, and_iff_right light]
  · obtain ⟨calls, makes, -, returning⟩ := @atLeast_of_heavy settings decoders llm criterion light
    rw [makes.calls_eq]
    refine iff_of_false ?_ fun both => light both.1
    rintro ⟨returned, one⟩
    have two := returning returned
    omega

end Judging

def loopRequests (criteriaMap : Dict String Criterion)
    (judge : Criterion → Except PyError Judgment) (requests : Criterion → Nat) :
    List String → Nat
  | [] => 0
  | id :: rest =>
    match criteriaMap.get? id with
    | none => loopRequests criteriaMap judge requests rest
    | some criterion =>
      requests criterion +
        match judge criterion with
        | .ok _ => loopRequests criteriaMap judge requests rest
        | .error .llmUnavailable => loopRequests criteriaMap judge requests rest
        | .error _ => 0

theorem llmCalls_judgeLoop {criteriaMap : Dict String Criterion}
    {judge : Criterion → Except PyError Judgment} {requests : Criterion → Nat}
    (asks : ∀ criterion, 1 ≤ requests criterion) {ids rest : List String}
    {before after : JudgmentAcc}
    (looped : judgeLoop criteriaMap judge ids rest before = .ok after) :
    after.llmCalls ≤ before.llmCalls + loopRequests criteriaMap judge requests rest ∧
      (after.llmCalls = before.llmCalls + loopRequests criteriaMap judge requests rest ↔
        ∀ id ∈ rest, ∀ criterion, criteriaMap.get? id = some criterion →
          Returns (judge criterion) ∧ requests criterion = 1) := by
  induction rest generalizing before with
  | nil =>
    cases looped
    simp [loopRequests]
  | cons id rest ih =>
    rw [judgeLoop] at looped
    rw [loopRequests, List.forall_mem_cons]
    cases found : criteriaMap.get? id with
    | none =>
      rw [found] at looped
      simpa using ih looped
    | some criterion =>
      have asked := asks criterion
      simp only [found] at looped ⊢
      simp only [Option.some.injEq, forall_eq']
      cases outcome : judge criterion with
      | ok judgment =>
        simp only [outcome] at looped ⊢
        obtain ⟨bound, exact_iff⟩ := ih looped
        have counted : (before.judged id judgment).llmCalls = before.llmCalls + 1 := rfl
        rw [counted] at bound exact_iff
        refine ⟨by omega, ?_⟩
        rw [← exact_iff]
        simp only [returns_ok, true_and]
        omega
      | error exn =>
        have unanswered : ¬ Returns (.error exn : Except PyError Judgment) := not_returns_error exn
        simp only [outcome] at looped ⊢
        rw [iff_false_right fun all => unanswered all.1.1]
        cases exn with
        | llmCreditExhausted level =>
          have same : after.llmCalls = before.llmCalls := by
            rw [← Except.ok.inj looped]
            rfl
          dsimp only
          omega
        | llmUnavailable =>
          obtain ⟨bound, -⟩ := ih looped
          have counted : (before.unavailable id criterion).llmCalls = before.llmCalls := rfl
          rw [counted] at bound
          dsimp only
          omega
        | _ => cases looped

variable (services : GraphServices)

/-- The requests that a node makes.  The router asks only where no intent is set, and a run
starts with one. -/
def nodeRequests (node : Node) (state : EvalGraphState) : Nat :=
  match node with
  | .sandbox => if describeFiles (state.evidenceMetadata.getD []) = "" then 0 else 1
  | .codeFixer =>
    if services.settings.maxSandboxRetries ≤ state.sandboxRetries.getD 0 then 0 else 1
  | .evaluation =>
    match state.criteria? with
    | none => 0
    | some testingCriteria =>
      loopRequests (criteriaMapOf testingCriteria.criteria)
        (judgeWith services.settings services.decoders services.llm)
        (fun criterion => judgingRequests services.settings services.decoders
          (services.llm criterion.id) criterion)
        (state.needsJudgment.getD [])
  | _ => 0

def AsksOnce (state : EvalGraphState) : Prop :=
  ∀ testingCriteria, state.criteria? = some testingCriteria →
    ∀ id ∈ state.needsJudgment.getD [], ∀ criterion,
      (criteriaMapOf testingCriteria.criteria).get? id = some criterion →
        IsLight services.settings criterion ∧
          Returns (judgeWith services.settings services.decoders services.llm criterion)

theorem llmCalls_evaluationNode {services} {elapsedMs : Rat} {state update : EvalGraphState}
    (ran : evaluationNode (judgeWith services.settings services.decoders services.llm) elapsedMs
      state = .ok update) :
    ∃ stats, update.layerStats = some (some stats) ∧
      stats.llmCalls ≤ nodeRequests services .evaluation state ∧
      (stats.llmCalls = nodeRequests services .evaluation state ↔ AsksOnce services state) := by
  have calls : ∀ resolved counted,
      (evaluationStats state.layerStats? resolved counted).llmCalls = counted := by
    intro resolved counted
    cases state.layerStats? with
    | none => rfl
    | some stats => rfl
  rw [evaluationNode] at ran
  rw [nodeRequests]
  cases loaded : state.criteria? with
  | none =>
    rw [loaded] at ran
    cases ran
    refine ⟨_, rfl, ?_, ?_⟩
    · rw [calls]
    · rw [calls]
      refine iff_of_true rfl ?_
      intro testingCriteria other
      rw [loaded] at other
      cases other
  | some testingCriteria =>
    rw [loaded] at ran
    dsimp only at ran ⊢
    have once : AsksOnce services state ↔ ∀ id ∈ state.needsJudgment.getD [], ∀ criterion,
          (criteriaMapOf testingCriteria.criteria).get? id = some criterion →
            Returns (judgeWith services.settings services.decoders services.llm criterion) ∧
              judgingRequests services.settings services.decoders
                (services.llm criterion.id) criterion = 1 := by
      simp only [AsksOnce, loaded, Option.some.injEq, forall_eq', judgeWith, judged_by_one_iff]
    split at ran
    · next nothing =>
      cases ran
      refine ⟨_, rfl, ?_, ?_⟩
      · rw [calls]
        exact Nat.zero_le _
      · rw [calls, once, nothing]
        simp [loopRequests]
    · obtain ⟨acc, looped, returned⟩ := bind_eq_ok.mp ran
      rw [← Except.ok.inj returned]
      obtain ⟨bound, exact_iff⟩ := llmCalls_judgeLoop
        (fun criterion => @judgingRequests_pos services.settings services.decoders
          (services.llm criterion.id) criterion) looped
      refine ⟨_, rfl, ?_, ?_⟩
      · rw [calls]
        exact bound.trans (Nat.le_of_eq (Nat.zero_add _))
      · rw [calls, once, ← exact_iff]
        exact (Nat.zero_add _).symm ▸ Iff.rfl

end Onpremai.AgentEval

/-!
## Times and statistics

Every node writes the whole timing and all statistics anew, from the fields of the earlier ones
that it names.  The evaluation names neither the time nor the calls of the sandbox, so both are
lost in a run that visits it, and its count of LLM calls is one for each judgment.
-/

namespace Onpremai.AgentEval

open Onpremai.Library

def Node.times : Node → List (TimingStats → Rat)
  | .discovery => [TimingStats.discoveryMs]
  | .extractor => [TimingStats.extractionMs]
  | .rulesEngine => [TimingStats.layer1Ms]
  | .sandbox => [TimingStats.sandboxMs]
  | .evaluation => [TimingStats.layer2Ms]
  | .scoring => [TimingStats.layer3Ms]
  | _ => []

def Node.counts : Node → List (LayerStats → Nat)
  | .rulesEngine => [LayerStats.layer1Resolved, LayerStats.totalCriteria]
  | .sandbox => [LayerStats.sandboxCalls]
  | .evaluation => [LayerStats.layer2Resolved]
  | _ => []

section Runs

variable (services : GraphServices)

def Reaches (result : EvalResult) (visit : Node × EvalGraphState) : Prop :=
  ∀ update, nodeUpdate services visit.1 visit.2 = .ok update →
    (∀ timing, update.timing = some (some timing) →
      ∀ time ∈ visit.1.times, time result.timing = time timing) ∧
    ∀ stats, update.layerStats = some (some stats) →
      ∀ count ∈ visit.1.counts, count result.layerStats = count stats

def totalRequests (visits : List (Node × EvalGraphState)) : Nat :=
  (visits.map fun visit => nodeRequests services visit.1 visit.2).sum

def Tells (result : EvalResult) (visits : List (Node × EvalGraphState)) : Prop :=
  (∀ visit ∈ visits, Reaches services result visit) ∧
    result.layerStats.llmCalls = totalRequests services visits

def Harmless (visit : Node × EvalGraphState) : Prop := visit.1 ≠ .sandbox ∧
    (visit.1 = .evaluation → AsksOnce services visit.2) ∧
    (visit.1 = .formatter → ∀ cached, visit.2.cachedResult.getD none = some cached →
      cached.timing.discoveryMs = services.clock.discoveryMs ∧ cached.layerStats.llmCalls = 0)

def EndsWith (limit : Nat) (node : Node) (state : EvalGraphState) (result : EvalResult) : Prop :=
  ∃ final, (evalGraph services).exec .runtimeError limit node state = .ok final ∧
    final.evaluationResult = some (some result)

variable {services} {result : EvalResult}

section

variable {visit : Node × EvalGraphState} {visits : List (Node × EvalGraphState)}

theorem tells_cons (reaches : Reaches services result visit)
    (silent : nodeRequests services visit.1 visit.2 = 0) :
    Tells services result (visit :: visits) ↔ Tells services result visits := by
  rw [Tells, Tells, totalRequests, totalRequests, List.map_cons, List.sum_cons, silent,
    Nat.zero_add, List.forall_mem_cons, and_iff_right reaches]

theorem tells_of_cons (silent : nodeRequests services visit.1 visit.2 = 0)
    (tells : Tells services result (visit :: visits)) : Tells services result visits := by
  rw [Tells, totalRequests, List.map_cons, List.sum_cons, silent, Nat.zero_add,
    List.forall_mem_cons] at tells
  exact ⟨tells.1.2, tells.2⟩

end

theorem harmless_other {node : Node} {state : EvalGraphState} (noSandbox : node ≠ .sandbox)
    (noEvaluation : node ≠ .evaluation) (noFormatter : node ≠ .formatter) :
    Harmless services (node, state) :=
  ⟨noSandbox, fun same => absurd same noEvaluation, fun same => absurd same noFormatter⟩

theorem EndsWith.step {limit : Nat} {node following : Node} {state update : EvalGraphState}
    (ends : EndsWith services limit node state result)
    (updated : nodeUpdate services node state = .ok update)
    (routed : route services.settings node (state.merge update) = some following) :
    ∃ rest, EndsWith services rest following (state.merge update) result ∧
      (evalGraph services).visits limit node state =
        (node, state) :: (evalGraph services).visits rest following (state.merge update) := by
  obtain ⟨final, ran, written⟩ := ends
  obtain ⟨rest, next, nodeRan, goesOn⟩ := Workflow.exec_ok ran
  have same : next = state.merge update := by
    obtain ⟨other, otherUpdated, merged⟩ := runNode_ok nodeRan
    rw [updated] at otherUpdated
    cases otherUpdated
    exact merged
  subst same
  rcases goesOn with ⟨none, -⟩ | ⟨other, otherRouted, later, visits⟩
  · exact absurd (none.symm.trans routed) (by simp)
  · have same : some other = some following := otherRouted.symm.trans routed
    cases same
    exact ⟨rest, ⟨final, later, written⟩, visits⟩

theorem EndsWith.updated {limit : Nat} {node : Node} {state : EvalGraphState}
    (ends : EndsWith services limit node state result) :
    ∃ update, nodeUpdate services node state = .ok update := by
  obtain ⟨final, ran, -⟩ := ends
  obtain ⟨rest, next, nodeRan, -⟩ := Workflow.exec_ok ran
  obtain ⟨update, updated, -⟩ := runNode_ok nodeRan
  exact ⟨update, updated⟩

theorem formatterNode_eq {evaluationId : String} {elapsedMs : Rat}
    {state update : EvalGraphState}
    (ran : formatterNode evaluationId elapsedMs state = .ok update) :
    ∃ result, update = { evaluationResult := some (some result) } := by
  rw [formatterNode] at ran
  dsimp only at ran
  split at ran
  · exact ⟨_, (Except.ok.inj ran).symm⟩
  · split at ran
    · obtain ⟨result, -, returned⟩ := bind_eq_ok.mp ran
      exact ⟨result, (Except.ok.inj returned).symm⟩
    · split at ran
      · cases ran
      · obtain ⟨result, -, returned⟩ := bind_eq_ok.mp ran
        exact ⟨result, (Except.ok.inj returned).symm⟩

theorem EndsWith.formatter {limit : Nat} {state : EvalGraphState}
    (ends : EndsWith services limit .formatter state result) :
    formatterNode services.evaluationId services.clock.formatMs state =
        .ok { evaluationResult := some (some result) } ∧
      (evalGraph services).visits limit .formatter state = [(.formatter, state)] := by
  obtain ⟨final, ran, written⟩ := ends
  obtain ⟨rest, next, nodeRan, last⟩ := Workflow.exec_ok ran
  obtain ⟨update, updated, rfl⟩ := runNode_ok nodeRan
  obtain ⟨other, rfl⟩ := formatterNode_eq updated
  rcases last with ⟨-, rfl, visits⟩ | ⟨following, routed, -⟩
  · have same : other = result := by
      simpa [EvalGraphState.merge] using written
    rw [← same]
    exact ⟨updated, visits⟩
  · cases routed

/-! ## From the formatter back -/

/-- A run after the rules: criteria, no cached result, and both records of measurements. -/
structure Underway (state : EvalGraphState) (timing : TimingStats) (stats : LayerStats) :
    Prop where
  criteria : ∃ testingCriteria, state.criteria? = some testingCriteria
  uncached : state.cachedResult.getD none = none
  timing : state.timing = some (some timing)
  stats : state.layerStats = some (some stats)

/-- The times that are told apart. -/
def SameTimes (first second : TimingStats) : Prop :=
  first.discoveryMs = second.discoveryMs ∧ first.extractionMs = second.extractionMs ∧
    first.layer1Ms = second.layer1Ms ∧ first.layer2Ms = second.layer2Ms ∧
    first.layer3Ms = second.layer3Ms ∧ first.sandboxMs = second.sandboxMs

variable {limit : Nat} {state : EvalGraphState} {timing : TimingStats} {stats : LayerStats}

theorem EndsWith.of_formatter (ends : EndsWith services limit .formatter state result)
    (underway : Underway state timing stats) :
    SameTimes result.timing timing ∧ result.layerStats = stats := by
  have written := ends.formatter.1
  simp only [formatterNode, underway.uncached, underway.timing, underway.stats,
    Option.getD_some] at written
  split at written
  · cases written
    exact ⟨⟨rfl, rfl, rfl, rfl, rfl, rfl⟩, rfl⟩
  · cases written
    exact ⟨⟨rfl, rfl, rfl, rfl, rfl, rfl⟩, rfl⟩

theorem Underway.tells_formatter (ends : EndsWith services limit .formatter state result)
    (underway : Underway state timing stats) :
    ((evalGraph services).visits limit .formatter state = [(.formatter, state)]) ∧
      Harmless services (.formatter, state) := by
  refine ⟨ends.formatter.2, (by decide : Node.formatter ≠ .sandbox),
    fun same => absurd same (by decide : Node.formatter ≠ .evaluation), ?_⟩
  intro _ cached held
  exact absurd (underway.uncached.symm.trans held) (by simp)

theorem EndsWith.of_scoring (ends : EndsWith services limit .scoring state result)
    (underway : Underway state timing stats) :
    SameTimes result.timing (scoringTiming (some timing) services.clock.layer3Ms) ∧
      result.layerStats = stats ∧
      (∀ visit ∈ (evalGraph services).visits limit .scoring state,
        Reaches services result visit ∧ nodeRequests services visit.1 visit.2 = 0 ∧
          Harmless services visit) := by
  obtain ⟨testingCriteria, loaded⟩ := underway.criteria
  have merged := merge_scoringNode loaded services.clock.layer3Ms
  obtain ⟨rest, later, visits⟩ := ends.step rfl rfl
  have next : Underway (state.merge (scoringNode services.clock.layer3Ms state))
      (scoringTiming (some timing) services.clock.layer3Ms) stats := by
    rw [merged]
    refine ⟨⟨testingCriteria, loaded⟩, underway.uncached, ?_, underway.stats⟩
    rw [EvalGraphState.timing?, underway.timing]
    rfl
  obtain ⟨times, counts⟩ := later.of_formatter next
  refine ⟨times, counts, ?_⟩
  rw [visits, List.forall_mem_cons, (next.tells_formatter later).1, List.forall_mem_singleton]
  refine ⟨⟨?_, rfl, harmless_other (by decide) (by decide) (by decide)⟩, ?_, rfl,
    (next.tells_formatter later).2⟩
  · intro update updated
    have same : scoringNode services.clock.layer3Ms state = update := Except.ok.inj updated
    refine ⟨?_, ?_⟩
    · intro own wrote time member
      rw [List.mem_singleton.mp member]
      rw [← same] at wrote
      simp only [scoringNode, loaded, Option.some.injEq] at wrote
      rw [times.2.2.2.2.1, ← wrote]
      cases state.timing? with
      | none => rfl
      | some _ => rfl
    · intro own _ count member
      cases member
  · intro update _
    exact ⟨fun _ _ _ member => absurd member List.not_mem_nil,
      fun _ _ _ member => absurd member List.not_mem_nil⟩

/-- Visits that measure nothing that could be lost and ask nothing add nothing. -/
theorem tells_of_calm {visits : List (Node × EvalGraphState)}
    (calm : ∀ visit ∈ visits, Reaches services result visit ∧
      nodeRequests services visit.1 visit.2 = 0 ∧ Harmless services visit) :
    (∀ visit ∈ visits, Reaches services result visit) ∧ totalRequests services visits = 0 ∧
      ∀ visit ∈ visits, Harmless services visit := by
  refine ⟨fun visit member => (calm visit member).1, ?_,
    fun visit member => (calm visit member).2.2⟩
  rw [totalRequests, List.sum_eq_zero]
  intro count member
  obtain ⟨visit, inside, rfl⟩ := List.mem_map.mp member
  exact (calm visit inside).2.1

theorem EndsWith.of_evaluation (ends : EndsWith services limit .evaluation state result)
    (underway : Underway state timing stats) :
    result.timing.discoveryMs = timing.discoveryMs ∧
      result.timing.extractionMs = timing.extractionMs ∧
      result.timing.layer1Ms = timing.layer1Ms ∧
      result.layerStats.layer1Resolved = stats.layer1Resolved ∧
      result.layerStats.totalCriteria = stats.totalCriteria ∧
      result.layerStats.sandboxCalls = 0 ∧
      (Tells services result ((evalGraph services).visits limit .evaluation state) ↔
        ∀ visit ∈ (evalGraph services).visits limit .evaluation state,
          Harmless services visit) := by
  obtain ⟨update, updated⟩ := ends.updated
  obtain ⟨acc, built, -⟩ := evaluationNode_eq_buildResponse updated
  obtain ⟨rest, later, visits⟩ := ends.step updated rfl
  obtain ⟨own, wrote, -, once⟩ := llmCalls_evaluationNode updated
  have statsKey : state.layerStats? = some stats := by
    rw [EvalGraphState.layerStats?, underway.stats]
    rfl
  have timingKey : state.timing? = some timing := by
    rw [EvalGraphState.timing?, underway.timing]
    rfl
  have next : Underway (state.merge update)
      (evaluationTiming (some timing) services.clock.layer2Ms) own := by
    refine ⟨?_, ?_, ?_, ?_⟩
    · obtain ⟨testingCriteria, loaded⟩ := underway.criteria
      rw [built]
      exact ⟨testingCriteria, loaded⟩
    · rw [built]
      exact underway.uncached
    · rw [built]
      simp [EvalGraphState.merge, buildResponse, timingKey]
    · simp [EvalGraphState.merge, wrote]
  obtain ⟨times, counts, calm⟩ := later.of_scoring next
  obtain ⟨reached, silent, harmless⟩ := tells_of_calm calm
  have ownStats : own = evaluationStats (some stats) acc.judgmentResults.size acc.llmCalls := by
    rw [built] at wrote
    simp only [buildResponse, statsKey, Option.some.injEq] at wrote
    exact wrote.symm
  refine ⟨times.1, times.2.1, times.2.2.1, ?_, ?_, ?_, ?_⟩
  · rw [counts, ownStats]
    rfl
  · rw [counts, ownStats]
    rfl
  · rw [counts, ownStats]
    rfl
  · rw [visits, List.forall_mem_cons, and_iff_left harmless, Tells, totalRequests, List.map_cons,
      List.sum_cons, List.forall_mem_cons, and_iff_left reached]
    rw [totalRequests] at silent
    rw [silent, Nat.add_zero, counts, once]
    constructor
    · intro tells
      exact ⟨(by decide : Node.evaluation ≠ .sandbox), fun _ => tells.2,
        fun same => absurd same (by decide : Node.evaluation ≠ .formatter)⟩
    · intro kept
      refine ⟨?_, kept.2.1 rfl⟩
      intro other again
      have same : other = update := Except.ok.inj (again.symm.trans updated)
      subst same
      refine ⟨?_, ?_⟩
      · intro measured written time member
        rw [List.mem_singleton.mp member]
        rw [built] at written
        simp only [buildResponse, timingKey, Option.some.injEq] at written
        rw [← written]
        exact times.2.2.2.1
      · intro counted written count member
        rw [wrote] at written
        cases written
        rw [List.mem_singleton.mp member, counts]

theorem Underway.codeFixer {update : EvalGraphState} (underway : Underway state timing stats)
    (ran : codeFixerNode services.sandbox services.settings state = .ok update) :
    Underway (state.merge update) timing stats := by
  have kept : update.testingCriteria = none ∧ update.cachedResult = none ∧ update.timing = none ∧
      update.layerStats = none := by
    rw [codeFixerNode] at ran
    dsimp only at ran
    split at ran
    · rw [← Except.ok.inj ran]
      exact ⟨rfl, rfl, rfl, rfl⟩
    · simp only [bind_eq_ok] at ran
      obtain ⟨content, -, executed, -, returned⟩ := ran
      rw [← Except.ok.inj returned]
      exact ⟨rfl, rfl, rfl, rfl⟩
  obtain ⟨criteria, cached, times, counts⟩ := kept
  obtain ⟨testingCriteria, loaded⟩ := underway.criteria
  refine ⟨⟨testingCriteria, ?_⟩, ?_, ?_, ?_⟩
  · simpa [EvalGraphState.criteria?, EvalGraphState.merge, criteria] using loaded
  · simpa [EvalGraphState.merge, cached] using underway.uncached
  · simp [EvalGraphState.merge, times, underway.timing]
  · simp [EvalGraphState.merge, counts, underway.stats]

theorem joinLines_map_ne_empty {Item : Type} {line : Item → String} {items : List Item}
    {item : Item} (member : item ∈ items) (visible : line item ≠ "") :
    Text.joinLines (items.map line) ≠ "" := by
  intro nothing
  have mapped : line item ∈ items.map line := List.mem_map.mpr ⟨item, member, rfl⟩
  have inside := Text.infix_joinLines mapped
  rw [nothing] at inside
  exact visible (String.toList_inj.mp (List.eq_nil_of_infix_nil inside))

theorem describeFiles_ne_empty {evidenceMetadata : List EvidenceMetadata}
    (structured : (evidenceMetadata.any fun file => isStructured file.fileType) = true) :
    describeFiles evidenceMetadata ≠ "" := by
  obtain ⟨file, member, kind⟩ := List.any_eq_true.mp structured
  rw [describeFiles]
  apply joinLines_map_ne_empty (List.mem_filter.mpr ⟨member, kind⟩)
  intro blank
  have letters := congrArg String.toList blank
  simp at letters

theorem structured_of_needsSandbox (needed : needsSandbox state = true) :
    ((state.evidenceMetadata.getD []).any fun file => isStructured file.fileType) = true := by
  rw [needsSandbox] at needed
  split at needed
  · cases needed
  · obtain ⟨id, -, asked⟩ := List.any_eq_true.mp needed
    split at asked
    · cases asked
    · exact (Bool.and_eq_true_iff.mp asked).2

theorem EndsWith.of_sandbox (ends : EndsWith services limit .sandbox state result)
    (underway : Underway state timing stats)
    (structured : describeFiles (state.evidenceMetadata.getD []) ≠ "") :
    ¬ Tells services result ((evalGraph services).visits limit .sandbox state) ∧
      ¬ ∀ visit ∈ (evalGraph services).visits limit .sandbox state,
        Harmless services visit := by
  obtain ⟨update, updated⟩ := ends.updated
  have ran := updated
  rw [nodeUpdate, sandboxNode] at ran
  dsimp only at ran
  rw [if_neg structured] at ran
  simp only [bind_eq_ok] at ran
  obtain ⟨content, -, executed, -, returned⟩ := ran
  have built := Except.ok.inj returned
  have wrote : update.layerStats = some (some (sandboxStats state.layerStats?)) := by
    rw [← built]
  have next : Underway (state.merge update)
      (sandboxTiming state.timing? services.clock.sandboxMs) (sandboxStats state.layerStats?) := by
    rw [← built]
    exact ⟨underway.criteria, underway.uncached, rfl, rfl⟩
  -- whether the fixer is asked or not, the evaluation follows
  have lost : result.layerStats.sandboxCalls = 0 := by
    obtain ⟨rest, later, -⟩ := ends.step updated rfl
    rw [routeAfterSandbox] at later
    split at later
    · obtain ⟨fixed, fixedUpdate⟩ := later.updated
      obtain ⟨others, judged, -⟩ := later.step fixedUpdate rfl
      exact (judged.of_evaluation (next.codeFixer fixedUpdate)).2.2.2.2.2.1
    · exact (later.of_evaluation next).2.2.2.2.2.1
  obtain ⟨rest, -, visits⟩ := ends.step updated rfl
  rw [visits]
  constructor
  · intro tells
    have reached := (tells.1 _ List.mem_cons_self update updated).2 _ wrote
      LayerStats.sandboxCalls (List.mem_singleton.mpr rfl)
    rw [lost] at reached
    cases called : state.layerStats? with
    | none => simp [called, sandboxStats] at reached
    | some earlier => simp [called, sandboxStats] at reached
  · intro harmless
    exact (harmless _ List.mem_cons_self).1 rfl

theorem EndsWith.of_rulesEngine (ends : EndsWith services limit .rulesEngine state result)
    {testingCriteria : TestingCriteria} (loaded : state.criteria? = some testingCriteria)
    (uncached : state.cachedResult.getD none = none) (timed : state.timing? = some timing) :
    (Tells services result ((evalGraph services).visits limit .rulesEngine state) ↔
        ∀ visit ∈ (evalGraph services).visits limit .rulesEngine state, Harmless services visit) ∧
      (Tells services result ((evalGraph services).visits limit .rulesEngine state) →
        result.timing.discoveryMs = timing.discoveryMs ∧
          result.timing.extractionMs = timing.extractionMs) := by
  obtain ⟨update, updated⟩ := ends.updated
  have built : rulesEngineNode services.handlers services.clock.layer1Ms state = update :=
    Except.ok.inj updated
  obtain ⟨rest, later, visits⟩ := ends.step updated rfl
  obtain ⟨stats, wrote, calls⟩ : ∃ stats, update.layerStats = some (some stats) ∧
      stats.llmCalls = 0 := by
    rw [← built, rulesEngineNode, loaded]
    exact ⟨_, rfl, rfl⟩
  have stamped : update.timing =
      some (some (rulesTiming (some timing) services.clock.layer1Ms)) := by
    rw [← built, rulesEngineNode, loaded, timed]
  have next : Underway (state.merge update)
      (rulesTiming (some timing) services.clock.layer1Ms) stats := by
    refine ⟨⟨testingCriteria, ?_⟩, ?_, ?_, ?_⟩
    · rw [← built, rulesEngineNode, loaded]
      exact loaded
    · rw [← built, rulesEngineNode, loaded]
      exact uncached
    · simp [EvalGraphState.merge, stamped]
    · simp [EvalGraphState.merge, wrote]
  have own : Harmless services (.rulesEngine, state) :=
    harmless_other (by decide) (by decide) (by decide)
  have reaches : result.timing.layer1Ms = services.clock.layer1Ms →
      result.layerStats.layer1Resolved = stats.layer1Resolved →
      result.layerStats.totalCriteria = stats.totalCriteria →
      Reaches services result (.rulesEngine, state) := by
    intro first resolved total other again
    have same : other = update := Except.ok.inj (again.symm.trans updated)
    subst same
    refine ⟨?_, ?_⟩
    · intro measured written time member
      rw [List.mem_singleton.mp member]
      rw [stamped] at written
      cases written
      exact first
    · intro counted written count member
      rw [wrote] at written
      cases written
      rcases List.mem_cons.mp member with rfl | member
      · exact resolved
      · rw [List.mem_singleton.mp member]
        exact total
  rw [visits, List.forall_mem_cons, and_iff_right own]
  rw [routeAfterRules] at later ⊢
  split at later
  · next nothing =>
    rw [if_pos nothing]
    obtain ⟨times, counts, calm⟩ := later.of_scoring next
    obtain ⟨reached, silent, harmless⟩ := tells_of_calm calm
    have tells : Tells services result ((evalGraph services).visits rest .scoring
        (state.merge update)) := ⟨reached, by rw [silent, counts, calls]⟩
    rw [tells_cons (reaches times.2.2.1 (by rw [counts]) (by rw [counts])) rfl]
    exact ⟨iff_of_true tells harmless, fun _ => ⟨times.1, times.2.1⟩⟩
  · next judged =>
    rw [if_neg judged]
    split at later
    · next needed =>
      rw [if_pos needed]
      obtain ⟨lost, harmful⟩ :=
        later.of_sandbox next (describeFiles_ne_empty (structured_of_needsSandbox needed))
      exact ⟨iff_of_false (fun tells => lost (tells_of_cons rfl tells)) harmful,
        fun tells => absurd (tells_of_cons rfl tells) lost⟩
    · next skipped =>
      rw [if_neg skipped]
      obtain ⟨discovery, extraction, first, resolved, total, -, tells⟩ :=
        later.of_evaluation next
      rw [tells_cons (reaches first resolved total) rfl]
      exact ⟨tells, fun _ => ⟨discovery, extraction⟩⟩

theorem EndsWith.of_loadCriteria (ends : EndsWith services limit .loadCriteria state result)
    (uncached : state.cachedResult.getD none = none) (timed : state.timing? = some timing) :
    (Tells services result ((evalGraph services).visits limit .loadCriteria state) ↔
        ∀ visit ∈ (evalGraph services).visits limit .loadCriteria state, Harmless services visit) ∧
      (Tells services result ((evalGraph services).visits limit .loadCriteria state) →
        result.timing.discoveryMs = timing.discoveryMs ∧
          result.timing.extractionMs = timing.extractionMs) := by
  obtain ⟨rest, later, visits⟩ := ends.step rfl rfl
  obtain ⟨tells, kept⟩ := later.of_rulesEngine rfl uncached timed
  have own : Harmless services (.loadCriteria, state) :=
    harmless_other (by decide) (by decide) (by decide)
  have reaches : Reaches services result (.loadCriteria, state) := fun update _ =>
    ⟨fun _ _ _ member => absurd member List.not_mem_nil,
      fun _ _ _ member => absurd member List.not_mem_nil⟩
  rw [visits, List.forall_mem_cons, and_iff_right own, tells_cons reaches rfl]
  exact ⟨tells, kept⟩

theorem EndsWith.of_extractor (ends : EndsWith services limit .extractor state result)
    (found : state.evidenceFiles.getD [] ≠ [])
    (uncached : state.cachedResult.getD none = none) (timed : state.timing? = some timing) :
    (Tells services result ((evalGraph services).visits limit .extractor state) ↔
        ∀ visit ∈ (evalGraph services).visits limit .extractor state, Harmless services visit) ∧
      (Tells services result ((evalGraph services).visits limit .extractor state) →
        result.timing.discoveryMs = timing.discoveryMs) := by
  obtain ⟨update, updated⟩ := ends.updated
  have ran := updated
  rw [nodeUpdate, extractorNode, if_neg found] at ran
  obtain ⟨metadata, -, returned⟩ := bind_eq_ok.mp ran
  have built := Except.ok.inj returned
  obtain ⟨rest, later, visits⟩ := ends.step updated rfl
  have next : (state.merge update).timing? =
      some (extractionTiming (some timing) services.clock.extractionMs) := by
    rw [← built, timed]
    rfl
  have still : (state.merge update).cachedResult.getD none = none := by
    rw [← built]
    exact uncached
  obtain ⟨tells, kept⟩ := later.of_loadCriteria still next
  have own : Harmless services (.extractor, state) :=
    harmless_other (by decide) (by decide) (by decide)
  have reaches : result.timing.extractionMs = services.clock.extractionMs →
      Reaches services result (.extractor, state) := by
    intro extraction other again
    have same : other = update := Except.ok.inj (again.symm.trans updated)
    subst same
    refine ⟨?_, fun _ _ _ member => absurd member List.not_mem_nil⟩
    intro measured written time member
    rw [List.mem_singleton.mp member]
    rw [← built, timed] at written
    cases written
    exact extraction
  rw [visits, List.forall_mem_cons, and_iff_right own]
  refine ⟨?_, fun all => (kept (tells_of_cons rfl all)).1⟩
  rw [← tells]
  constructor
  · exact tells_of_cons rfl
  · intro told
    exact (tells_cons (reaches (kept told).2) rfl).mpr told

theorem EndsWith.of_cached (ends : EndsWith services limit .formatter state result)
    {cached : EvalResult} (held : state.cachedResult.getD none = some cached) :
    result = cached := by
  have written := ends.formatter.1
  rw [formatterNode] at written
  simp only [held] at written
  cases written
  rfl

theorem EndsWith.of_discovery (ends : EndsWith services limit .discovery state result)
    (uncached : state.cachedResult.getD none = none)
    (found : discoverFiles services.discovery (state.tenantId.getD "")
      (state.framework.getD "") (state.controlId.getD "") ≠ .ok []) :
    Tells services result ((evalGraph services).visits limit .discovery state) ↔
      ∀ visit ∈ (evalGraph services).visits limit .discovery state,
        Harmless services visit := by
  obtain ⟨update, updated⟩ := ends.updated
  have ran := updated
  rw [nodeUpdate, discoveryNode] at ran
  obtain ⟨files, listed, branch⟩ := bind_eq_ok.mp ran
  have nonempty : files ≠ [] := fun empty => found (empty ▸ listed)
  rw [if_neg nonempty] at branch
  obtain ⟨cached, -, returned⟩ := bind_eq_ok.mp branch
  have built := Except.ok.inj returned
  have stamped : update.timing = some (some { discoveryMs := services.clock.discoveryMs }) := by
    rw [← built]
  have listing : (state.merge update).evidenceFiles.getD [] = files := by
    rw [← built]
    rfl
  obtain ⟨rest, later, visits⟩ := ends.step updated rfl
  have own : Harmless services (.discovery, state) :=
    harmless_other (by decide) (by decide) (by decide)
  have reaches_iff : Reaches services result (.discovery, state) ↔
      result.timing.discoveryMs = services.clock.discoveryMs := by
    constructor
    · intro reached
      exact (reached update updated).1 _ stamped _ (List.mem_singleton.mpr rfl)
    · intro kept other again
      have same : other = update := Except.ok.inj (again.symm.trans updated)
      subst same
      refine ⟨?_, fun _ _ _ member => absurd member List.not_mem_nil⟩
      intro measured written time member
      rw [List.mem_singleton.mp member]
      rw [stamped] at written
      cases written
      exact kept
  rw [visits, List.forall_mem_cons, and_iff_right own]
  cases cached with
  | some stored =>
    have held : (state.merge update).cachedResult.getD none = some stored := by
      rw [← built]
      rfl
    have routed : routeAfterDiscovery (state.merge update) = .formatter := by
      rw [routeAfterDiscovery, held]
      rfl
    rw [routed] at later ⊢
    have same := later.of_cached held
    subst same
    rw [later.formatter.2, List.forall_mem_singleton]
    have reachesLast : Reaches services result (.formatter, state.merge update) :=
      fun _ _ => ⟨fun _ _ _ member => absurd member List.not_mem_nil,
        fun _ _ _ member => absurd member List.not_mem_nil⟩
    have last : Harmless services (.formatter, state.merge update) ↔
        result.timing.discoveryMs = services.clock.discoveryMs ∧
          result.layerStats.llmCalls = 0 := by
      constructor
      · intro harmless
        exact harmless.2.2 rfl result held
      · intro kept
        refine ⟨(by decide : Node.formatter ≠ .sandbox),
          fun same => absurd same (by decide : Node.formatter ≠ .evaluation), ?_⟩
        intro _ other again
        have same : result = other := Option.some.inj (held.symm.trans again)
        rw [← same]
        exact kept
    rw [last, Tells, List.forall_mem_cons, List.forall_mem_singleton, reaches_iff,
      and_iff_left reachesLast]
    exact Iff.rfl
  | none =>
    have still : (state.merge update).cachedResult.getD none = none := by
      rw [← built]
      exact uncached
    have timed : (state.merge update).timing? =
        some { discoveryMs := services.clock.discoveryMs } := by
      rw [← built]
      rfl
    have routed : routeAfterDiscovery (state.merge update) = .extractor := by
      rw [routeAfterDiscovery, still, listing]
      simp [nonempty]
    rw [routed] at later ⊢
    obtain ⟨tells, kept⟩ := later.of_extractor (by rw [listing]; exact nonempty) still timed
    rw [← tells]
    constructor
    · exact tells_of_cons rfl
    · intro told
      exact (tells_cons (reaches_iff.mpr (kept told)) rfl).mpr told

end Runs

/-- Surroundings with one stored file, judged by the given criteria or the default ones. -/
def storageOf (filename : String) (criteria : Option TestingCriteria) : GraphServices :=
  { emptyStorage with
    llm := fun _ _ => .ok "PASS"
    discovery :=
      { emptyStorage.discovery with
        listObjects := fun _ => .ok ["tenant-a/evidence/NIST/AC-2/" ++ filename] }
    retriever :=
      { emptyStorage.retriever with
        skillRecall := .ok (.arr [.obj []]), validateCriteria := fun _ => criteria }
    sandbox :=
      { emptyStorage.sandbox with
        generateCode := fun _ _ => .ok "print(42)"
        execute := fun _ _ => .ok { success := true, stdout := "42" } }
    clock :=
      { discoveryMs := 3, extractionMs := 5, layer1Ms := 1, layer2Ms := 900, sandboxMs := 1200 } }

def lightCriteria : TestingCriteria where
  controlId := "AC-2"
  framework := "NIST"
  criteria :=
    [{ id := "TC-AC-2-01", category := "policy", evidenceType := "document", weight := 5 / 100 }]

def accessRequest : EvalRequest where
  controlId := "AC-2"
  framework := "NIST"
  tenantId := "tenant-a"

def resultOf (services : GraphServices) (request : EvalRequest) : Option EvalResult :=
  match runGraph services request with
  | .ok final => final.evaluationResult.getD none
  | .error _ => none

theorem ends_of_resultOf {services : GraphServices} {request : EvalRequest}
    (ended : (resultOf services request).isSome) :
    ∃ final result, runGraph services request = .ok final ∧
      final.evaluationResult = some (some result) := by
  rw [resultOf] at ended
  cases ran : runGraph services request with
  | error exn => simp [ran] at ended
  | ok final =>
    cases written : final.evaluationResult with
    | none => simp [ran, written] at ended
    | some stored =>
      cases stored with
      | none => simp [ran, written] at ended
      | some result => exact ⟨final, result, rfl, written⟩

example : (resultOf (storageOf "policy.pdf" (some lightCriteria)) accessRequest).map
    (fun result => (result.layerStats.llmCalls, result.timing.layer2Ms)) = some (1, 900) := by
  decide +kernel

end Onpremai.AgentEval
