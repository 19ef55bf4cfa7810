import Onpremai.AgentEval.Graph

/-!
# Which runs of the evaluation graph end with a result

The routes descend in a rank, so a run visits each node at most once.  On the way
to the formatter every route but one fills the layer statistics; the route that
skips the rules for lack of evidence leaves them at `None`.
-/

namespace Onpremai.AgentEval

open Onpremai.Library

/-- Position of a node on the longest route, counted from its end. -/
def Node.rank : Node → Nat
  | .router => 9
  | .discovery => 8
  | .extractor => 7
  | .loadCriteria => 6
  | .rulesEngine => 5
  | .sandbox => 4
  | .codeFixer => 3
  | .evaluation => 2
  | .scoring => 1
  | .formatter => 0

section

variable (state : EvalGraphState)

theorem routeAfterRouter_rank : (routeAfterRouter state).rank < Node.router.rank := by
  rw [routeAfterRouter]
  split <;> decide

theorem routeAfterDiscovery_rank : (routeAfterDiscovery state).rank < Node.discovery.rank := by
  rw [routeAfterDiscovery]
  split
  · decide
  · split <;> decide

theorem routeAfterRules_rank : (routeAfterRules state).rank < Node.rulesEngine.rank := by
  rw [routeAfterRules]
  split
  · decide
  · split <;> decide

end

theorem routeAfterSandbox_rank (settings : EvalSettings) (state : EvalGraphState) :
    (routeAfterSandbox settings state).rank < Node.sandbox.rank := by
  rw [routeAfterSandbox]
  split <;> decide

def evalGraph_ranked (services : GraphServices) : (evalGraph services).Ranked where
  rank := Node.rank
  rank_lt := by
    intro node state following routed
    cases node with
    | router =>
      rw [← Option.some.inj routed]
      exact routeAfterRouter_rank state
    | discovery =>
      rw [← Option.some.inj routed]
      exact routeAfterDiscovery_rank state
    | rulesEngine =>
      rw [← Option.some.inj routed]
      exact routeAfterRules_rank state
    | sandbox =>
      rw [← Option.some.inj routed]
      exact routeAfterSandbox_rank services.settings state
    | extractor => rw [← Option.some.inj routed]; decide
    | loadCriteria => rw [← Option.some.inj routed]; decide
    | codeFixer => rw [← Option.some.inj routed]; decide
    | evaluation => rw [← Option.some.inj routed]; decide
    | scoring => rw [← Option.some.inj routed]; decide
    | formatter => cases routed

section Updates

variable {services : GraphServices} {state update : EvalGraphState}

def Measured (state : EvalGraphState) : Prop := (∃ timing, state.timing = some (some timing)) ∧
    ∃ stats, state.layerStats = some (some stats)

/-- An update that writes no `None` into the two keys. -/
def WritesValues (update : EvalGraphState) : Prop :=
  update.timing ≠ some none ∧ update.layerStats ≠ some none

theorem Measured.merge (measured : Measured state) (values : WritesValues update) :
    Measured (state.merge update) := by
  obtain ⟨⟨timing, timingEq⟩, stats, statsEq⟩ := measured
  constructor
  · cases written : update.timing with
    | none => exact ⟨timing, by simp [EvalGraphState.merge, written, timingEq]⟩
    | some value =>
      cases value with
      | none => exact absurd written values.1
      | some value => exact ⟨value, by simp [EvalGraphState.merge, written]⟩
  · cases written : update.layerStats with
    | none => exact ⟨stats, by simp [EvalGraphState.merge, written, statsEq]⟩
    | some value =>
      cases value with
      | none => exact absurd written values.2
      | some value => exact ⟨value, by simp [EvalGraphState.merge, written]⟩

theorem scoringNode_writesValues (elapsedMs : Rat) (state : EvalGraphState) :
    WritesValues (scoringNode elapsedMs state) := by
  rw [scoringNode]
  split <;> simp [WritesValues]

theorem evaluationNode_writesValues {judge : Criterion → Except PyError Judgment}
    {elapsedMs : Rat} (ran : evaluationNode judge elapsedMs state = .ok update) :
    WritesValues update := by
  obtain ⟨acc, rfl, -⟩ := evaluationNode_eq_buildResponse ran
  simp [WritesValues, buildResponse]

theorem sandboxNode_writesValues {sandbox : SandboxServices} {elapsedMs : Rat}
    (ran : sandboxNode sandbox elapsedMs state = .ok update) : WritesValues update := by
  rw [sandboxNode] at ran
  dsimp only at ran
  split at ran
  · rw [← Except.ok.inj ran]
    simp [WritesValues]
  · simp only [bind_eq_ok] at ran
    obtain ⟨content, -, result, -, returned⟩ := ran
    rw [← Except.ok.inj returned]
    simp [WritesValues]

theorem codeFixerNode_writesValues {sandbox : SandboxServices} {settings : EvalSettings}
    (ran : codeFixerNode sandbox settings state = .ok update) : WritesValues update := by
  rw [codeFixerNode] at ran
  dsimp only at ran
  split at ran
  · rw [← Except.ok.inj ran]
    simp [WritesValues]
  · simp only [bind_eq_ok] at ran
    obtain ⟨content, -, result, -, returned⟩ := ran
    rw [← Except.ok.inj returned]
    simp [WritesValues]

theorem rulesEngineNode_measured {handlers : RuleHandlers} {elapsedMs : Rat}
    {testingCriteria : TestingCriteria} (loaded : state.criteria? = some testingCriteria) :
    Measured (state.merge (rulesEngineNode handlers elapsedMs state)) := by
  simp [Measured, rulesEngineNode, loaded, EvalGraphState.merge]

section

variable {evaluationId : String} {elapsedMs : Rat}

theorem returns_formatterNode (ready : (state.cachedResult.getD none).isSome ∨ Measured state) :
    Returns (formatterNode evaluationId elapsedMs state) := by
  rw [formatterNode]
  dsimp only
  split
  · exact returns_ok _
  · next noCache =>
    rcases ready with cached | ⟨⟨timing, timingEq⟩, stats, statsEq⟩
    · simp [noCache] at cached
    · simp only [timingEq, statsEq, Option.getD_some]
      split
      · exact ⟨_, rfl⟩
      · exact ⟨_, rfl⟩

theorem formatterNode_ok (ran : formatterNode evaluationId elapsedMs state = .ok update) :
    ∃ result, update.evaluationResult = some (some result) := by
  rw [formatterNode] at ran
  dsimp only at ran
  split at ran
  · rw [← Except.ok.inj ran]
    exact ⟨_, rfl⟩
  · split at ran
    · obtain ⟨result, -, returned⟩ := bind_eq_ok.mp ran
      rw [← Except.ok.inj returned]
      exact ⟨result, rfl⟩
    · split at ran
      · cases ran
      · obtain ⟨result, -, returned⟩ := bind_eq_ok.mp ran
        rw [← Except.ok.inj returned]
        exact ⟨result, rfl⟩

end

theorem discoveryNode_found {discovery : DiscoveryServices} {elapsedMs : Rat}
    {files : List EvidenceFile}
    (found : discoverFiles discovery (state.tenantId.getD "") (state.framework.getD "")
      (state.controlId.getD "") = .ok files) (nonempty : files ≠ [])
    (ran : discoveryNode discovery elapsedMs state = .ok update) :
    update.evidenceFiles = some files := by
  obtain ⟨other, alsoFound, branch⟩ := bind_eq_ok.mp ran
  rw [found] at alsoFound
  cases alsoFound
  rw [if_neg nonempty] at branch
  obtain ⟨cached, -, returned⟩ := bind_eq_ok.mp branch
  rw [← Except.ok.inj returned]

end Updates

/-! ## Runs -/

section Runs

variable (services : GraphServices) (request : EvalRequest)

def discoveryState : EvalGraphState := (initialState request).merge { intent := some "evaluate" }

/-- What a run that finds evidence has written when it reaches a node. -/
def Prepared : Node → EvalGraphState → Prop
  | .router, state => state = initialState request
  | .discovery, state => state = discoveryState request
  | .extractor, _ => True
  | .loadCriteria, _ => True
  | .rulesEngine, state => ∃ testingCriteria, state.criteria? = some testingCriteria
  | .sandbox, state => Measured state
  | .codeFixer, state => Measured state
  | .evaluation, state => Measured state
  | .scoring, state => Measured state
  | .formatter, state => (state.cachedResult.getD none).isSome ∨ Measured state

variable {services request}

theorem runNode_ok {node : Node} {state next : EvalGraphState}
    (ran : runNode services node state = .ok next) :
    ∃ update, nodeUpdate services node state = .ok update ∧ next = state.merge update := by
  obtain ⟨update, updated, returned⟩ := bind_eq_ok.mp ran
  exact ⟨update, updated, (Except.ok.inj returned).symm⟩

private theorem prepared_afterDiscovery (evidence : FindsEvidence services request)
    {update : EvalGraphState}
    (ran : discoveryNode services.discovery services.clock.discoveryMs
      (discoveryState request) = .ok update) :
    Prepared request (routeAfterDiscovery ((discoveryState request).merge update))
      ((discoveryState request).merge update) := by
  obtain ⟨files, found, nonempty⟩ := evidence
  have written := @discoveryNode_found (discoveryState request) update
    services.discovery services.clock.discoveryMs files found nonempty ran
  have kept : ((discoveryState request).merge update).evidenceFiles.getD [] ≠ [] := by
    simpa [EvalGraphState.merge, written] using nonempty
  generalize (discoveryState request).merge update = next at kept ⊢
  rw [routeAfterDiscovery]
  by_cases cached : (next.cachedResult.getD none).isSome
  · rw [if_pos cached]
    exact .inl cached
  · rw [if_neg cached, if_neg fun skipped => kept skipped.1]
    trivial

theorem prepared_kept (evidence : FindsEvidence services request) (node : Node)
    (state next : EvalGraphState) (following : Node)
    (prepared : Prepared request node state)
    (ran : (evalGraph services).run node state = .ok next)
    (routed : (evalGraph services).route node next = some following) :
    Prepared request following next := by
  obtain ⟨update, updated, rfl⟩ := runNode_ok ran
  cases node with
  | router =>
    cases prepared
    cases updated
    cases routed
    rfl
  | discovery =>
    cases prepared
    cases routed
    exact prepared_afterDiscovery evidence updated
  | extractor =>
    cases routed
    trivial
  | loadCriteria =>
    cases routed
    cases updated
    exact ⟨_, rfl⟩
  | rulesEngine =>
    obtain ⟨testingCriteria, loaded⟩ := prepared
    cases updated
    cases routed
    have measured := @rulesEngineNode_measured state services.handlers
      services.clock.layer1Ms testingCriteria loaded
    rw [routeAfterRules]
    split
    · exact measured
    · split <;> exact measured
  | sandbox =>
    cases routed
    have measured := prepared.merge (sandboxNode_writesValues updated)
    rw [routeAfterSandbox]
    split <;> exact measured
  | codeFixer =>
    cases routed
    exact prepared.merge (codeFixerNode_writesValues updated)
  | evaluation =>
    cases routed
    exact prepared.merge (evaluationNode_writesValues updated)
  | scoring =>
    cases routed
    cases updated
    exact .inr (prepared.merge (scoringNode_writesValues _ _))
  | formatter => cases routed

/-- What discovery writes when it finds nothing. -/
def noEvidenceUpdate (services : GraphServices) : EvalGraphState where
  evidenceFiles := some []
  evidenceHash := some ""
  error := some (some "No evidence files found for this control")
  timing := some (some { discoveryMs := services.clock.discoveryMs })

theorem runGraph_without_evidence
    (found : discoverFiles services.discovery request.tenantId request.framework
      request.controlId = .ok []) :
    runGraph services request = .error (.validationError "EvalResult" "layer_stats") := by
  have routed : (evalGraph services).run .router (initialState request) =
      .ok (discoveryState request) := rfl
  have discovered : (evalGraph services).run .discovery (discoveryState request) =
      .ok ((discoveryState request).merge (noEvidenceUpdate services)) := by
    have nothing : discoveryNode services.discovery services.clock.discoveryMs
        (discoveryState request) = .ok (noEvidenceUpdate services) := by
      rw [discoveryNode]
      exact bind_eq_ok.mpr ⟨[], found, rfl⟩
    exact bind_eq_ok.mpr ⟨_, nothing, rfl⟩
  have formatted : (evalGraph services).run .formatter
      ((discoveryState request).merge (noEvidenceUpdate services)) =
        .error (.validationError "EvalResult" "layer_stats") := by
    simp [evalGraph, runNode, nodeUpdate, formatterNode, discoveryState, initialState,
      noEvidenceUpdate, EvalGraphState.merge, truthy?, EvalResult.create, bind, Except.bind]
  have toDiscovery : (evalGraph services).route .router (discoveryState request) =
      some .discovery := rfl
  have toFormatter : (evalGraph services).route .discovery
      ((discoveryState request).merge (noEvidenceUpdate services)) = some .formatter := rfl
  change (evalGraph services).exec .runtimeError (22 + 1 + 1 + 1) .router _ = _
  rw [Workflow.exec_of_route routed toDiscovery,
    Workflow.exec_of_route discovered toFormatter, Workflow.exec_of_raise formatted]

/-- A run ends with a result exactly when discovery finds evidence and no node
before the formatter raises. -/
theorem endsWithResult_iff : EndsWithResult services request ↔ FindsEvidence services request ∧
        ∀ visit ∈ (evalGraph services).visits recursionLimit .router (initialState request),
          visit.1 ≠ .formatter → Returns (runNode services visit.1 visit.2) := by
  have enough : (evalGraph_ranked services).rank Node.router < recursionLimit :=
    (by decide : 9 < 25)
  have returns_iff : Returns (runGraph services request) ↔ _ :=
    Workflow.returns_exec_iff (evalGraph_ranked services) enough
  constructor
  · rintro ⟨final, result, ran, -⟩
    have returned := returns_iff.mp ⟨final, ran⟩
    refine ⟨?_, fun visit member _ => returned visit member⟩
    have discoveryVisit : (.discovery, discoveryState request) ∈
        (evalGraph services).visits recursionLimit .router (initialState request) :=
      List.mem_cons_of_mem _ List.mem_cons_self
    obtain ⟨next, nodeRan⟩ := returned _ discoveryVisit
    obtain ⟨update, discovered, -⟩ := runNode_ok nodeRan
    obtain ⟨files, found, -⟩ := bind_eq_ok.mp discovered
    refine ⟨files, found, ?_⟩
    rintro rfl
    rw [runGraph_without_evidence found] at ran
    cases ran
  · rintro ⟨evidence, quiet⟩
    have prepared := @Workflow.visits_invariant _ _ _ (evalGraph services)
      (Prepared request) (prepared_kept evidence) recursionLimit .router
      (initialState request) rfl
    have returned : Returns (runGraph services request) := by
      refine returns_iff.mpr fun visit member => ?_
      obtain ⟨node, state⟩ := visit
      by_cases last : node = .formatter
      · subst last
        obtain ⟨update, updated⟩ := @returns_formatterNode state services.evaluationId
          services.clock.formatMs (prepared _ member)
        exact ⟨_, bind_eq_ok.mpr ⟨update, updated, rfl⟩⟩
      · exact quiet _ member last
    obtain ⟨final, ran⟩ := returned
    obtain ⟨⟨node, state⟩, -, nodeRan, noRoute⟩ := Workflow.exists_visit_of_exec_ok ran
    obtain ⟨update, updated, rfl⟩ := runNode_ok nodeRan
    cases node with
    | formatter =>
      obtain ⟨result, written⟩ := formatterNode_ok updated
      exact ⟨_, result, ran, by simp [EvalGraphState.merge, written],
        fun nothing => absurd evidence nothing⟩
    | _ => cases noRoute

end Runs

/-- Surroundings in which the tenant has stored nothing. -/
def emptyStorage : GraphServices where
  settings := {}
  decoders := { loads := fun _ => .error .jsonDecodeError, floatOfString := fun _ => none }
  handlers := fun _ => none
  llm := fun _ _ => .error .llmUnavailable
  discovery :=
    { listObjects := fun _ => .ok []
      setOrder := { list := List.dedup, mem_list := fun _ _ => List.mem_dedup
                    nodup_list := List.nodup_dedup }
      now := fun _ => 0
      isoformat := fun _ => ""
      sha256Hex := fun text => text
      evalRecall := .ok []
      validateResult := fun _ => none }
  extractor :=
    { getJson := fun _ => .error .storageError, process := fun _ => .unreachable, now := 0 }
  retriever :=
    { skillRecall := .ok (.arr []), ragIndex := { loaded := false, criteriaIndex := .empty }
      validateCriteria := fun _ => none }
  sandbox :=
    { generateCode := fun _ _ => .error .llmUnavailable
      fixCode := fun _ _ => .error .llmUnavailable
      execute := fun _ _ => .ok { success := false } }
  classifyMessage := fun _ => "chat"
  evaluationId := "evaluation-1"
  clock := {}

/-- A request for a control without evidence fails instead of reporting that. -/
theorem empty_storage_request_raises :
    let request : EvalRequest :=
      { controlId := "AC-2", framework := "NIST", tenantId := "tenant-a" }
    ¬ EndsWithResult emptyStorage request ∧ executeEvaluation emptyStorage request false =
        .error (.validationError "EvalResult" "layer_stats") := by
  intro request
  have raised : runGraph emptyStorage request =
      .error (.validationError "EvalResult" "layer_stats") := runGraph_without_evidence rfl
  constructor
  · rintro ⟨final, result, ran, -⟩
    cases raised.symm.trans ran
  · rw [executeEvaluation, if_neg Bool.false_ne_true, raised]
    rfl

end Onpremai.AgentEval
