import Onpremai.AgentEval.Measurements
import Onpremai.AgentEval.Responses
import Onpremai.AgentEval.RuleSupport

/-!
# The analysis of structured data in a run

A run executes a program in the sandbox node and, where that node's output reads as a failure,
once more in the fixer.  The evaluation follows the fixer in all cases, and what it shows to the
LLM is taken from the metadata of the evidence.
-/

namespace Onpremai.AgentEval

open Onpremai.Library

section Evidence

variable (dumps : Json → String)

/-- What a structured file tells of itself. -/
def fileInformation (file : EvidenceMetadata) : List String :=
  (if file.columns = [] then [] else ["Columns: " ++ joinWithCommas file.columns]) ++
    (if file.rowCount = 0 then [] else ["Row count: " ++ toString file.rowCount]) ++
    (if isTruthy file.schemaInfo then ["Schema: " ++ dumps file.schemaInfo] else [])

def structuredEntry (file : EvidenceMetadata) : Option String :=
  if fileInformation dumps file = [] then none
  else some ("[" ++ file.storageKey ++ "]\n" ++ Text.joinLines (fileInformation dumps file))

def textEntry (limit : Nat) (file : EvidenceMetadata) : Option String :=
  if file.textContent = "" then none
  else some ("[" ++ file.storageKey ++ "]\n" ++ Text.truncate limit file.textContent)

def relevantPart (criterion : Criterion) (file : EvidenceMetadata) : Option String :=
  if criterion.evidenceType = "document" ∧ file.fileType ∈ ["pdf", "document", "text"] then
    textEntry 3000 file
  else if criterion.evidenceType = "structured_data" ∧ isStructured file.fileType = true then
    structuredEntry dumps file
  else if criterion.evidenceType = "unstructured" then textEntry 2000 file
  else none

def extractRelevantEvidence (criterion : Criterion) (evidenceMetadata : List EvidenceMetadata) :
    String :=
  Text.joinParagraphs ((evidenceMetadata.filterMap (relevantPart dumps criterion)).take 5)

/-- A text, or the note that there is none. -/
def orNoEvidence (text : String) : String :=
  if text = "" then "No relevant evidence text available." else text

def evidenceText (criterion : Criterion) (evidenceMetadata : List EvidenceMetadata) : String :=
  orNoEvidence (extractRelevantEvidence dumps criterion evidenceMetadata)

/-- What the first five structured files that have something to tell say of themselves. -/
def structuredListing (evidenceMetadata : List EvidenceMetadata) : String :=
  orNoEvidence (Text.joinParagraphs
    (((evidenceMetadata.filter fun file => isStructured file.fileType).filterMap
      (structuredEntry dumps)).take 5))

variable {dumps}

theorem evidenceText_eq_structuredListing {criterion : Criterion}
    (structured : criterion.evidenceType = "structured_data")
    (evidenceMetadata : List EvidenceMetadata) :
    evidenceText dumps criterion evidenceMetadata = structuredListing dumps evidenceMetadata := by
  have part : relevantPart dumps criterion = fun file =>
      if isStructured file.fileType = true then structuredEntry dumps file else none := by
    funext file
    rw [relevantPart, structured, if_neg (by simp)]
    by_cases kind : isStructured file.fileType = true
    · rw [if_pos ⟨rfl, kind⟩, if_pos kind]
    · rw [if_neg fun both => kind both.2, if_neg (by decide), if_neg kind]
  rw [evidenceText, structuredListing, extractRelevantEvidence, part, List.filterMap_filter]

end Evidence

def ExecutionResult.output (result : ExecutionResult) : String :=
  if result.success then result.stdout else result.stderr

/-- An execution of a program in the sandbox. -/
structure Execution where
  code : String
  result : ExecutionResult

/-- The state of a run, with the executions it has made so far. -/
structure Analysed where
  state : EvalGraphState
  executed : List Execution

section Runs

variable (services : GraphServices) (outcomes : Nat → ExecutionResult)

/-- The surroundings for the next execution. -/
def servicesAt (count : Nat) : GraphServices :=
  { services with
    sandbox := { services.sandbox with execute := fun _ _ => .ok (outcomes count) } }

def executes (node : Node) (state : EvalGraphState) : Bool :=
  match node with
  | .sandbox => decide (describeFiles (state.evidenceMetadata.getD []) ≠ "")
  | .codeFixer => decide (state.sandboxRetries.getD 0 < services.settings.maxSandboxRetries)
  | _ => false

def runAnalysed (node : Node) (analysed : Analysed) : Except PyError Analysed := do
  let count := analysed.executed.length
  let next ← runNode (servicesAt services outcomes count) node analysed.state
  let own : List Execution :=
    if executes services node analysed.state then [⟨next.sandboxCode.getD "", outcomes count⟩]
    else []
  return { state := next, executed := analysed.executed ++ own }

def analysisGraph : Workflow Node Analysed PyError where
  run := runAnalysed services outcomes
  route := fun node analysed => route services.settings node analysed.state

def analysisVisits (request : EvalRequest) : List (Node × Analysed) :=
  (analysisGraph services outcomes).visits recursionLimit .router
    { state := initialState request, executed := [] }

theorem map_analysisVisits (same : ∀ count, servicesAt services outcomes count = services)
    (request : EvalRequest) :
    (analysisVisits services outcomes request).map (fun visit => (visit.1, visit.2.state)) =
      (evalGraph services).visits recursionLimit .router (initialState request) := by
  apply Workflow.map_visits
  · intro node analysed
    change (runAnalysed services outcomes node analysed).map Analysed.state = _
    rw [runAnalysed, same]
    change _ = runNode services node analysed.state
    cases runNode services node analysed.state with
    | error exn => rfl
    | ok next => rfl
  · intro node analysed
    rfl

end Runs

section Law

variable (services : GraphServices) (dumps : Json → String)

/-- One execution follows another: the program is what the fixer makes of one that failed. -/
def Repairs (failed next : Execution) : Prop := failed.result.success = false ∧
    ∃ content, services.sandbox.fixCode failed.code (Text.truncate 2000 failed.result.stderr) =
      .ok content ∧ next.code = extractCode content

def ToldToLayer2 (state : EvalGraphState) (text : String) : Prop :=
  ∀ criterion ∈ neededCriteria state, criterion.evidenceType = "structured_data" →
    Text.contains text (evidenceText dumps criterion (state.evidenceMetadata.getD [])) = true

/-- Failing programs, and only these, are repaired up to the limit, and layer 2 is told what a
successful one has printed. -/
structure SoundAnalysis (analysed : Analysed) : Prop where
  repaired : analysed.executed.IsChain (Repairs services)
  persistent : ∀ last, analysed.executed.getLast? = some last → last.result.success = true ∨
    services.settings.maxSandboxRetries ≤ analysed.executed.length - 1
  told : ∀ execution ∈ analysed.executed, execution.result.success = true →
    ToldToLayer2 dumps analysed.state execution.result.stdout

def ReadsAsFailure (output : String) : Prop :=
  output = "" ∨ Text.contains "error" (Text.lower output) = true

/-- The outcomes and the evidence files are such that nothing goes wrong: a success does not read
as a failure, a failure does and is repaired at once or at the limit, and what a success prints is
what the files say of themselves. -/
def Favourable (limit : Nat) (outcomes : Nat → ExecutionResult) (listing : String) : Prop :=
  if (outcomes 0).success then
    (limit = 0 ∨ ¬ ReadsAsFailure (outcomes 0).stdout) ∧
      Text.contains (outcomes 0).stdout listing = true
  else
    limit = 0 ∨ ReadsAsFailure (outcomes 0).stderr ∧
      if (outcomes 1).success then Text.contains (outcomes 1).stdout listing = true
      else limit = 1

end Law

/-! ## What a run has executed -/

section Runs

variable {services : GraphServices} {outcomes : Nat → ExecutionResult} {request : EvalRequest}

def LeavesQuestion (update : EvalGraphState) : Prop :=
  update.testingCriteria = none ∧ update.needsJudgment = none ∧ update.evidenceMetadata = none

theorem LeavesQuestion.needsSandbox_merge {state update : EvalGraphState}
    (leaves : LeavesQuestion update) :
    needsSandbox (state.merge update) = needsSandbox state := by
  obtain ⟨criteria, needed, evidence⟩ := leaves
  simp [needsSandbox, EvalGraphState.criteria?, EvalGraphState.merge, criteria, needed, evidence]

theorem sandboxNode_executes {count : Nat} {elapsedMs : Rat} {state update : EvalGraphState}
    (described : describeFiles (state.evidenceMetadata.getD []) ≠ "")
    (ran : sandboxNode (servicesAt services outcomes count).sandbox elapsedMs state = .ok update) :
    LeavesQuestion update ∧ update.sandboxOutput = some (outcomes count).output ∧
      update.sandboxRetries = some (state.sandboxRetries.getD 0) := by
  rw [sandboxNode] at ran
  dsimp only at ran
  rw [if_neg described] at ran
  simp only [bind_eq_ok] at ran
  obtain ⟨content, -, result, executed, returned⟩ := ran
  cases executed
  rw [← Except.ok.inj returned]
  exact ⟨⟨rfl, rfl, rfl⟩, rfl, rfl⟩

theorem codeFixerNode_executes {count : Nat} {state update : EvalGraphState}
    (ran : codeFixerNode (servicesAt services outcomes count).sandbox services.settings state =
      .ok update) :
    LeavesQuestion update ∧ (state.sandboxRetries.getD 0 < services.settings.maxSandboxRetries →
        ∃ content, services.sandbox.fixCode (state.sandboxCode.getD "")
            (Text.truncate 2000 (state.sandboxOutput.getD "")) = .ok content ∧
          update.sandboxCode = some (extractCode content)) := by
  rw [codeFixerNode] at ran
  dsimp only at ran
  split at ran
  · next limit =>
    rw [← Except.ok.inj ran]
    exact ⟨⟨rfl, rfl, rfl⟩, fun below => absurd below (Nat.not_lt.mpr limit)⟩
  · simp only [bind_eq_ok] at ran
    obtain ⟨content, fixed, result, -, returned⟩ := ran
    rw [← Except.ok.inj returned]
    exact ⟨⟨rfl, rfl, rfl⟩, fun _ => ⟨content, fixed, rfl⟩⟩

/-- Nothing is executed or repaired yet. -/
def Untouched (analysed : Analysed) : Prop :=
  analysed.executed = [] ∧ analysed.state.sandboxRetries.getD 0 = 0

variable (services outcomes) in
/-- One program is executed, and its output has led to the fixer. -/
structure SentToFixer (analysed : Analysed) : Prop where
  needed : needsSandbox analysed.state = true
  executed : analysed.executed = [⟨analysed.state.sandboxCode.getD "", outcomes 0⟩]
  output : analysed.state.sandboxOutput.getD "" = (outcomes 0).output
  unrepaired : analysed.state.sandboxRetries.getD 0 = 0
  failing : 0 < services.settings.maxSandboxRetries → ReadsAsFailure (outcomes 0).output

variable (services outcomes) in
/-- What has been executed before the evaluation: nothing, one program, or one and its repair. -/
inductive Concluded (analysed : Analysed) : Prop where
  | skipped (idle : needsSandbox analysed.state = false) (executed : analysed.executed = [])
  | once (needed : needsSandbox analysed.state = true) (code : String)
      (executed : analysed.executed = [⟨code, outcomes 0⟩])
      (accepted : services.settings.maxSandboxRetries = 0 ∨ ¬ ReadsAsFailure (outcomes 0).output)
  | repaired (needed : needsSandbox analysed.state = true) (code content : String)
      (fixed : services.sandbox.fixCode code (Text.truncate 2000 (outcomes 0).output) = .ok content)
      (executed : analysed.executed = [⟨code, outcomes 0⟩, ⟨extractCode content, outcomes 1⟩])
      (below : 0 < services.settings.maxSandboxRetries)
      (failing : ReadsAsFailure (outcomes 0).output)

variable (services outcomes request) in
def Stage : Node → Analysed → Prop
  | .router, analysed => analysed = { state := initialState request, executed := [] }
  | .discovery, analysed => Untouched analysed
  | .extractor, analysed => Untouched analysed
  | .loadCriteria, analysed => Untouched analysed
  | .rulesEngine, analysed => Untouched analysed
  | .sandbox, analysed => Untouched analysed ∧ needsSandbox analysed.state = true
  | .codeFixer, analysed => SentToFixer services outcomes analysed
  | .evaluation, analysed => Concluded services outcomes analysed
  | .scoring, _ => True
  | .formatter, _ => True

section

variable {node : Node} {analysed next : Analysed}

theorem runAnalysed_ok (ran : (analysisGraph services outcomes).run node analysed = .ok next) :
    ∃ update, nodeUpdate (servicesAt services outcomes analysed.executed.length) node
        analysed.state = .ok update ∧ next.state = analysed.state.merge update ∧
      next.executed = analysed.executed ++ if executes services node analysed.state then
          [⟨(analysed.state.merge update).sandboxCode.getD "", outcomes analysed.executed.length⟩]
        else [] := by
  obtain ⟨state, nodeRan, returned⟩ := bind_eq_ok.mp ran
  obtain ⟨update, updated, rfl⟩ := runNode_ok nodeRan
  rw [← Except.ok.inj returned]
  exact ⟨update, updated, rfl, rfl⟩

theorem Untouched.kept {update : EvalGraphState}
    (untouched : Untouched analysed) (idle : executes services node analysed.state = false)
    (silent : update.sandboxRetries = none) (merged : next.state = analysed.state.merge update)
    (executed : next.executed = analysed.executed ++ if executes services node analysed.state then
        [⟨(analysed.state.merge update).sandboxCode.getD "", outcomes analysed.executed.length⟩]
      else []) : Untouched next := by
  refine ⟨?_, ?_⟩
  · rw [executed, untouched.1, idle]
    rfl
  · rw [merged]
    simpa [EvalGraphState.merge, silent] using untouched.2

end

theorem sandboxRetries_discoveryNode {discovery : DiscoveryServices} {elapsedMs : Rat}
    {state update : EvalGraphState} (ran : discoveryNode discovery elapsedMs state = .ok update) :
    update.sandboxRetries = none := by
  obtain ⟨files, -, branch⟩ := bind_eq_ok.mp ran
  split at branch
  · rw [← Except.ok.inj branch]
  · obtain ⟨cached, -, returned⟩ := bind_eq_ok.mp branch
    rw [← Except.ok.inj returned]

theorem sandboxRetries_extractorNode {extractor : ExtractorServices} {elapsedMs : Rat}
    {state update : EvalGraphState} (ran : extractorNode extractor elapsedMs state = .ok update) :
    update.sandboxRetries = none := by
  rw [extractorNode] at ran
  split at ran
  · rw [← Except.ok.inj ran]
  · obtain ⟨metadata, -, returned⟩ := bind_eq_ok.mp ran
    rw [← Except.ok.inj returned]

theorem sandboxRetries_rulesEngineNode {handlers : RuleHandlers} {elapsedMs : Rat}
    {state : EvalGraphState} :
    (rulesEngineNode handlers elapsedMs state).sandboxRetries = none := by
  rw [rulesEngineNode]
  split <;> rfl

theorem Untouched.routeAfterRules {analysed : Analysed} (untouched : Untouched analysed) :
    Stage services outcomes request (routeAfterRules analysed.state) analysed := by
  rw [AgentEval.routeAfterRules]
  split
  · trivial
  · split
    · next needed => exact ⟨untouched, needed⟩
    · next idle => exact .skipped (Bool.eq_false_iff.mpr idle) untouched.1

theorem stage_afterSandbox {analysed next : Analysed} (untouched : Untouched analysed)
    (needed : needsSandbox analysed.state = true)
    (ran : (analysisGraph services outcomes).run .sandbox analysed = .ok next) :
    Stage services outcomes request (routeAfterSandbox services.settings next.state) next := by
  obtain ⟨update, updated, merged, executed⟩ := runAnalysed_ok ran
  have described := describeFiles_ne_empty (structured_of_needsSandbox needed)
  obtain ⟨leaves, output, retries⟩ := sandboxNode_executes described updated
  have still : needsSandbox next.state = true := by
    rw [merged, leaves.needsSandbox_merge, needed]
  have one : next.executed = [⟨next.state.sandboxCode.getD "", outcomes 0⟩] := by
    rw [executed, merged, untouched.1, executes, if_pos (decide_eq_true described)]
    rfl
  have kept : next.state.sandboxOutput.getD "" = (outcomes 0).output := by
    rw [merged]
    rw [untouched.1] at output
    simp [EvalGraphState.merge, output]
  have unrepaired : next.state.sandboxRetries.getD 0 = 0 := by
    rw [merged]
    simp [EvalGraphState.merge, retries, untouched.2]
  rw [routeAfterSandbox, kept, unrepaired]
  split
  · next failing =>
    refine ⟨still, one, kept, unrepaired, fun _ => ?_⟩
    rcases failing with empty | ⟨error, -⟩
    · exact .inl empty
    · exact .inr error
  · next passing =>
    refine .once still _ one ?_
    rw [or_iff_not_imp_left]
    rintro positive (empty | error)
    · exact passing (.inl empty)
    · exact passing (.inr ⟨error, Nat.pos_of_ne_zero positive⟩)

theorem SentToFixer.concluded {analysed next : Analysed}
    (sent : SentToFixer services outcomes analysed)
    (ran : (analysisGraph services outcomes).run .codeFixer analysed = .ok next) :
    Concluded services outcomes next := by
  obtain ⟨update, updated, merged, executed⟩ := runAnalysed_ok ran
  obtain ⟨leaves, repair⟩ := codeFixerNode_executes updated
  have still : needsSandbox next.state = true := by
    rw [merged, leaves.needsSandbox_merge, sent.needed]
  rw [sent.unrepaired, sent.output] at repair
  rw [executes, sent.unrepaired, sent.executed] at executed
  by_cases below : 0 < services.settings.maxSandboxRetries
  · obtain ⟨content, fixed, code⟩ := repair below
    refine .repaired still _ content fixed ?_ below (sent.failing below)
    rw [executed, if_pos (decide_eq_true below)]
    simp [EvalGraphState.merge, code]
  · refine .once still (analysed.state.sandboxCode.getD "") ?_ (.inl (Nat.eq_zero_of_not_pos below))
    rw [executed, if_neg (by simpa using below), List.append_nil]

theorem stage_kept (node : Node) (analysed next : Analysed) (following : Node)
    (stage : Stage services outcomes request node analysed)
    (ran : (analysisGraph services outcomes).run node analysed = .ok next)
    (routed : (analysisGraph services outcomes).route node next = some following) :
    Stage services outcomes request following next := by
  obtain ⟨update, updated, merged, executed⟩ := runAnalysed_ok ran
  have kept : Untouched analysed → executes services node analysed.state = false →
      update.sandboxRetries = none → Untouched next :=
    fun untouched idle silent => untouched.kept idle silent merged executed
  cases node with
  | router =>
    cases stage
    cases updated
    have untouched : Untouched next := by
      refine ⟨executed, ?_⟩
      rw [merged]
      rfl
    have choice : routeAfterRouter next.state = following := Option.some.inj routed
    rw [merged] at choice
    rw [← choice]
    exact untouched
  | discovery =>
    have untouched := kept stage rfl (sandboxRetries_discoveryNode updated)
    have choice : routeAfterDiscovery next.state = following := Option.some.inj routed
    rw [← choice, routeAfterDiscovery]
    split
    · trivial
    · split
      · trivial
      · exact untouched
  | extractor =>
    cases routed
    exact kept stage rfl (sandboxRetries_extractorNode updated)
  | loadCriteria =>
    cases routed
    cases updated
    exact kept stage rfl rfl
  | rulesEngine =>
    cases routed
    cases updated
    exact (kept stage rfl sandboxRetries_rulesEngineNode).routeAfterRules
  | sandbox =>
    cases routed
    exact stage_afterSandbox stage.1 stage.2 ran
  | codeFixer =>
    cases routed
    exact stage.concluded ran
  | evaluation =>
    cases routed
    trivial
  | scoring =>
    cases routed
    trivial
  | formatter => cases routed

theorem exists_structured_of_needsSandbox {state : EvalGraphState}
    (needed : needsSandbox state = true) :
    ∃ criterion ∈ neededCriteria state, criterion.evidenceType = "structured_data" := by
  rw [needsSandbox] at needed
  split at needed
  · cases needed
  · next testingCriteria loaded =>
    simp only [neededCriteria, loaded]
    obtain ⟨id, member, asked⟩ := List.any_eq_true.mp needed
    split at asked
    · cases asked
    · next criterion found =>
      exact ⟨criterion, List.mem_filterMap.mpr ⟨id, member, found⟩,
        of_decide_eq_true (Bool.and_eq_true_iff.mp asked).1⟩

section

variable {dumps : Json → String}

theorem toldToLayer2_iff {state : EvalGraphState} {text : String}
    (needed : needsSandbox state = true) : ToldToLayer2 dumps state text ↔
      Text.contains text (structuredListing dumps (state.evidenceMetadata.getD [])) = true := by
  constructor
  · intro told
    obtain ⟨criterion, member, structured⟩ := exists_structured_of_needsSandbox needed
    rw [← evidenceText_eq_structuredListing structured]
    exact told criterion member structured
  · intro listed criterion _ structured
    rw [evidenceText_eq_structuredListing structured]
    exact listed

theorem soundAnalysis_once_iff {analysed : Analysed} {code : String}
    (needed : needsSandbox analysed.state = true)
    (executed : analysed.executed = [⟨code, outcomes 0⟩])
    (accepted : services.settings.maxSandboxRetries = 0 ∨ ¬ ReadsAsFailure (outcomes 0).output) :
    SoundAnalysis services dumps analysed ↔ Favourable services.settings.maxSandboxRetries outcomes
        (structuredListing dumps (analysed.state.evidenceMetadata.getD [])) := by
  have law : SoundAnalysis services dumps analysed ↔
      ((outcomes 0).success = true ∨ services.settings.maxSandboxRetries = 0) ∧
        ((outcomes 0).success = true → ToldToLayer2 dumps analysed.state (outcomes 0).stdout) := by
    constructor
    · rintro ⟨-, persistent, told⟩
      rw [executed] at persistent told
      exact ⟨(persistent _ rfl).imp_right Nat.le_zero.mp, told _ List.mem_cons_self⟩
    · rintro ⟨persistent, told⟩
      constructor
      · rw [executed]
        exact List.isChain_singleton _
      · rw [executed]
        intro last found
        cases found
        exact persistent.imp_right Nat.le_of_eq
      · rw [executed]
        intro execution member
        rw [List.mem_singleton.mp member]
        exact told
  rw [law, toldToLayer2_iff needed, Favourable]
  rw [ExecutionResult.output] at accepted
  split
  · next success =>
    rw [if_pos success] at accepted
    simp only [success, true_or, true_and, true_implies, accepted]
  · next failure =>
    rw [if_neg failure] at accepted
    simp only [failure, false_or, false_implies, and_true, Bool.false_eq_true]
    constructor
    · exact .inl
    · rintro (limit | ⟨failing, -⟩)
      · exact limit
      · exact accepted.resolve_right (not_not.mpr failing)

theorem soundAnalysis_repaired_iff {analysed : Analysed}
    {code content : String} (needed : needsSandbox analysed.state = true)
    (fixed : services.sandbox.fixCode code (Text.truncate 2000 (outcomes 0).output) = .ok content)
    (executed : analysed.executed = [⟨code, outcomes 0⟩, ⟨extractCode content, outcomes 1⟩])
    (below : 0 < services.settings.maxSandboxRetries)
    (failing : ReadsAsFailure (outcomes 0).output) : SoundAnalysis services dumps analysed ↔
      Favourable services.settings.maxSandboxRetries outcomes
        (structuredListing dumps (analysed.state.evidenceMetadata.getD [])) := by
  rw [ExecutionResult.output] at fixed failing
  generalize corrected : extractCode content = repair at executed
  rw [Favourable]
  split
  · next success =>
    -- the program is executed again after a success
    rw [if_pos success] at failing
    refine iff_of_false ?_ ?_
    · rintro ⟨repaired, -, -⟩
      rw [executed, List.isChain_cons_cons] at repaired
      exact absurd (success.symm.trans repaired.1.1) (by decide)
    · rintro ⟨limit | passing, -⟩
      · omega
      · exact passing failing
  · next failure =>
    rw [if_neg failure] at fixed failing
    have law : SoundAnalysis services dumps analysed ↔
        ((outcomes 1).success = true ∨ services.settings.maxSandboxRetries ≤ 1) ∧
          ((outcomes 1).success = true →
            ToldToLayer2 dumps analysed.state (outcomes 1).stdout) := by
      have ended : analysed.executed.getLast? = some ⟨repair, outcomes 1⟩ := by
        rw [executed]
        rfl
      have repairs : analysed.executed.length - 1 = 1 := by
        rw [executed]
        rfl
      constructor
      · rintro ⟨-, persistent, told⟩
        have reached := persistent _ ended
        rw [repairs] at reached
        refine ⟨reached, told ⟨repair, outcomes 1⟩ ?_⟩
        rw [executed]
        exact List.mem_cons_of_mem _ List.mem_cons_self
      · rintro ⟨persistent, told⟩
        constructor
        · rw [executed, List.isChain_cons_cons]
          exact ⟨⟨Bool.eq_false_iff.mpr failure, content, fixed, corrected.symm⟩,
            List.isChain_singleton _⟩
        · intro last found
          rw [ended] at found
          cases found
          rw [repairs]
          exact persistent
        · rw [executed]
          intro execution member success
          rcases List.mem_cons.mp member with rfl | later
          · exact absurd success failure
          · rw [List.mem_singleton.mp later] at success ⊢
            exact told success
    rw [law, toldToLayer2_iff needed]
    have positive : services.settings.maxSandboxRetries ≠ 0 := Nat.ne_of_gt below
    have one : services.settings.maxSandboxRetries ≤ 1 ↔
        services.settings.maxSandboxRetries = 1 := by omega
    split
    · next success => simp [success, positive, failing]
    · next again => simp [again, positive, failing, one]

end

/-- When a run reaches layer 2, its analysis was sound exactly where none was needed, or where
the outcomes of the executions and the evidence files are favourable. -/
theorem soundAnalysis_iff {dumps : Json → String} {analysed : Analysed}
    (visited : (Node.evaluation, analysed) ∈ analysisVisits services outcomes request) :
    SoundAnalysis services dumps analysed ↔ (needsSandbox analysed.state = true →
        Favourable services.settings.maxSandboxRetries outcomes
          (structuredListing dumps (analysed.state.evidenceMetadata.getD []))) := by
  have stage : Concluded services outcomes analysed :=
    @Workflow.visits_invariant _ _ _ (analysisGraph services outcomes)
      (Stage services outcomes request) stage_kept recursionLimit .router
      { state := initialState request, executed := [] } rfl _ visited
  cases stage with
  | skipped idle executed =>
    refine iff_of_true ?_ fun needed => absurd (needed.symm.trans idle) (by decide)
    constructor
    · rw [executed]
      exact List.isChain_nil
    · rw [executed]
      intro last found
      cases found
    · rw [executed]
      intro execution member
      cases member
  | once needed code executed accepted =>
    rw [forall_prop_of_true needed]
    exact soundAnalysis_once_iff needed executed accepted
  | repaired needed code content fixed executed below failing =>
    rw [forall_prop_of_true needed]
    exact soundAnalysis_repaired_iff needed fixed executed below failing

end Runs

/-- The sandbox of a program whose errors are never mended. -/
def strandedServices : GraphServices :=
  { storageOf "users.csv" none with
    sandbox :=
      { emptyStorage.sandbox with
        generateCode := fun _ _ => .ok "print(df)", fixCode := fun _ _ => .ok "print(data)" } }

def strandedOutcomes (_ : Nat) : ExecutionResult where
  success := false
  stderr := "NameError: name 'df' is not defined"

/-- What a run has executed when it reaches layer 2. -/
def conclusions (services : GraphServices) (outcomes : Nat → ExecutionResult)
    (request : EvalRequest) : List Analysed :=
  ((analysisVisits services outcomes request).filter fun visit =>
    decide (visit.1 = .evaluation)).map Prod.snd

theorem mem_conclusions {services : GraphServices} {outcomes : Nat → ExecutionResult}
    {request : EvalRequest} {analysed : Analysed} :
    analysed ∈ conclusions services outcomes request ↔
      (Node.evaluation, analysed) ∈ analysisVisits services outcomes request := by
  simp only [conclusions, List.mem_map, List.mem_filter, decide_eq_true_eq]
  constructor
  · rintro ⟨⟨node, other⟩, ⟨member, rfl⟩, rfl⟩
    exact member
  · intro member
    exact ⟨_, ⟨member, rfl⟩, rfl⟩

theorem soundAnalysis_iff_stranded : ∃ analysed, (Node.evaluation, analysed) ∈
        analysisVisits strandedServices strandedOutcomes accessRequest ∧
      (SoundAnalysis strandedServices (fun _ => "") analysed ↔ (needsSandbox analysed.state = true →
          Favourable 2 strandedOutcomes
            (structuredListing (fun _ => "") (analysed.state.evidenceMetadata.getD [])))) := by
  have shown : (conclusions strandedServices strandedOutcomes accessRequest).isEmpty = false := by
    decide
  obtain ⟨analysed, member⟩ := List.exists_mem_of_ne_nil _ (List.isEmpty_eq_false_iff.mp shown)
  exact ⟨analysed, mem_conclusions.mp member, soundAnalysis_iff (mem_conclusions.mp member)⟩

/-- A program that fails again after its first repair is given up, with a second one allowed. -/
theorem not_soundAnalysis_stranded : strandedServices.settings.maxSandboxRetries = 2 ∧
      ∃ analysed, (Node.evaluation, analysed) ∈
          analysisVisits strandedServices strandedOutcomes accessRequest ∧
        ¬ SoundAnalysis strandedServices (fun _ => "") analysed := by
  refine ⟨rfl, ?_⟩
  have shown : (conclusions strandedServices strandedOutcomes accessRequest).any
      (fun analysed => analysed.executed.length == 2 &&
        analysed.executed.getLast?.any fun last => !last.result.success) = true := by
    decide
  obtain ⟨analysed, member, both⟩ := List.any_eq_true.mp shown
  simp only [Bool.and_eq_true, beq_iff_eq, Option.any_eq_true] at both
  obtain ⟨length, last, ended, failed⟩ := both
  refine ⟨analysed, mem_conclusions.mp member, ?_⟩
  intro sound
  rcases sound.persistent last ended with success | limit
  · simp [success] at failed
  · rw [length] at limit
    exact absurd limit (by decide)

end Onpremai.AgentEval
