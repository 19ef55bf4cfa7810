import Onpremai.AgentEval.EvidenceCache
import Onpremai.AgentEval.EvidenceOrder

/-!
# The age of evidence in a run

The rule for freshness compares the dates of the evidence files with the start of the window.
Discovery dates a file by the moment at which it lists it, and the extractor dates its metadata by
the moment of the extraction, so neither is the time at which the object was modified.
-/

namespace Onpremai.AgentEval

open Onpremai.Library

/-! ## Runs over dated objects -/

/-- The objects of the storage: the times of their last modification by key. -/
abbrev DatedStorage := Dict String Timestamp

/-- The surroundings of a run over the storage, with the rules of the registry. -/
def datedServices (services : GraphServices) (rules : RuleServices) (storage : DatedStorage) :
    GraphServices :=
  { services with
    handlers := ruleHandlers rules
    discovery :=
      { services.discovery with
        listObjects := fun start => .ok (storage.keys.filter (Text.startsWith start)) } }

def evidenceKeys (order : SetOrder) (storage : DatedStorage) (request : EvalRequest) :
    List String :=
  (order.list
    (storage.keys.filter (Text.startsWith (tenantPrefix request.tenantId
      ("evidence/" ++ request.framework ++ "/" ++ request.controlId ++ "/"))) ++
        storage.keys.filter (Text.startsWith (tenantPrefix request.tenantId "evidence/")))).filter
          isEvidenceKey

theorem mem_evidenceKeys {order : SetOrder} {storage : DatedStorage} {request : EvalRequest}
    {key : String} :
    key ∈ evidenceKeys order storage request ↔ key ∈ storage.keys ∧ IsEvidenceOf request key := by
  simp only [evidenceKeys, List.mem_filter, order.mem_list, List.mem_append, IsEvidenceOf]
  constructor
  · rintro ⟨⟨stored, listed⟩ | ⟨stored, listed⟩, evidence⟩
    · exact ⟨stored, .inl listed, evidence⟩
    · exact ⟨stored, .inr listed, evidence⟩
  · rintro ⟨stored, listed | listed, evidence⟩
    · exact ⟨.inl ⟨stored, listed⟩, evidence⟩
    · exact ⟨.inr ⟨stored, listed⟩, evidence⟩

section Runs

variable (services : GraphServices) (rules : RuleServices) (storage : DatedStorage)
  (request : EvalRequest)

def Listed (state : EvalGraphState) : Prop :=
  evidenceKeys services.discovery.setOrder storage request ≠ [] ∧
    state.evidenceFiles = some ((evidenceKeys services.discovery.setOrder storage request).map
      (evidenceFileOf services.discovery))

def Extracted (state : EvalGraphState) : Prop := state.evidenceMetadata.getD [] ≠ [] ∧
    ∀ file ∈ state.evidenceMetadata.getD [], file.extractedAt = services.extractor.now

/-- What a run has written of its evidence when it reaches a node. -/
def Dated : Node → EvalGraphState → Prop
  | .router, state => state = initialState request
  | .discovery, state => state = discoveryState request
  | .extractor, state => Listed services storage request state
  | .loadCriteria, state => Listed services storage request state ∧ Extracted services state
  | .rulesEngine, state => Listed services storage request state ∧ Extracted services state
  | _, _ => True

variable {services rules storage request}

theorem discoverFiles_dated :
    discoverFiles (datedServices services rules storage).discovery request.tenantId
      request.framework request.controlId =
        .ok ((evidenceKeys services.discovery.setOrder storage request).map
          (evidenceFileOf services.discovery)) := rfl

theorem listed_afterDiscovery {update : EvalGraphState}
    (ran : discoveryNode (datedServices services rules storage).discovery
      services.clock.discoveryMs (discoveryState request) = .ok update)
    (routed : routeAfterDiscovery ((discoveryState request).merge update) = .extractor) :
    Listed services storage request ((discoveryState request).merge update) := by
  obtain ⟨files, found, branch⟩ := bind_eq_ok.mp ran
  have same := found.symm.trans
    (@discoverFiles_dated services rules storage request : discoverFiles _ _ _ _ = _)
  cases same
  split at branch
  · next empty =>
    cases Except.ok.inj branch
    cases routed
  · next nonempty =>
    obtain ⟨cached, -, returned⟩ := bind_eq_ok.mp branch
    cases Except.ok.inj returned
    refine ⟨?_, rfl⟩
    intro none
    exact nonempty (by rw [none]; rfl)

theorem extractedAt_readMetadata {now : Timestamp} {file : EvidenceFile} {document : Json}
    {metadata : EvidenceMetadata} (read : readMetadata now file document = .ok metadata) :
    metadata.extractedAt = now := by
  simp only [readMetadata, bind_eq_ok] at read
  obtain ⟨_, -, _, -, _, -, _, -, _, -, _, -, _, -, _, -, _, -, _, -, _, -, _, -, _, -,
    returned⟩ := read
  cases Except.ok.inj returned
  rfl

theorem extractedAt_extractSingleFile {extractor : ExtractorServices} {file : EvidenceFile}
    {metadata : EvidenceMetadata} (ran : extractSingleFile extractor file = .ok metadata) :
    metadata.extractedAt = extractor.now := by
  rw [extractSingleFile] at ran
  split at ran
  · next stored loaded =>
    obtain ⟨document, -, read⟩ := bind_eq_ok.mp loaded
    cases ran
    exact extractedAt_readMetadata read
  · split at ran
    · exact extractedAt_readMetadata ran
    · cases ran
      rfl
    · cases ran

theorem dated_kept (node : Node) (state next : EvalGraphState) (following : Node)
    (dated : Dated services storage request node state)
    (ran : (evalGraph (datedServices services rules storage)).run node state = .ok next)
    (routed : (evalGraph (datedServices services rules storage)).route node next = some following) :
    Dated services storage request following next := by
  obtain ⟨update, updated, rfl⟩ := runNode_ok ran
  cases node with
  | router =>
    cases dated
    cases updated
    cases routed
    rfl
  | discovery =>
    cases dated
    have choice : routeAfterDiscovery ((discoveryState request).merge update) = following :=
      Option.some.inj routed
    by_cases found : following = .extractor
    · subst found
      exact listed_afterDiscovery updated choice
    · rw [routeAfterDiscovery] at choice
      split at choice
      · rw [← choice]
        trivial
      · split at choice
        · rw [← choice]
          trivial
        · exact absurd choice.symm found
  | extractor =>
    cases routed
    obtain ⟨nonempty, files⟩ := dated
    have filesFound : state.evidenceFiles.getD [] ≠ [] := by
      rw [files]
      simpa using nonempty
    rw [nodeUpdate, extractorNode, if_neg filesFound] at updated
    obtain ⟨metadata, mapped, returned⟩ := bind_eq_ok.mp updated
    cases Except.ok.inj returned
    refine ⟨⟨nonempty, files⟩, ?_, ?_⟩
    · have length := length_mapM mapped
      intro none
      change metadata = [] at none
      rw [none, eq_comm, List.length_nil, List.length_eq_zero_iff] at length
      exact filesFound length
    · intro file member
      obtain ⟨source, -, extracted⟩ := exists_of_mem_mapM mapped member
      exact extractedAt_extractSingleFile extracted
  | loadCriteria =>
    cases routed
    cases updated
    exact dated
  | rulesEngine =>
    have choice : routeAfterRules (state.merge update) = following := Option.some.inj routed
    rw [routeAfterRules] at choice
    split at choice
    · rw [← choice]
      trivial
    · split at choice <;> rw [← choice] <;> trivial
  | sandbox =>
    have choice : routeAfterSandbox _ (state.merge update) = following := Option.some.inj routed
    rw [routeAfterSandbox] at choice
    split at choice <;> rw [← choice] <;> trivial
  | codeFixer =>
    cases routed
    trivial
  | evaluation =>
    cases routed
    trivial
  | scoring =>
    cases routed
    trivial
  | formatter => cases routed

end Runs


section Verdict

variable (rules : RuleServices) (criterion : Criterion)

/-- The time from which on evidence is fresh, where the criterion gives a window. -/
def windowStart : Except RaisedException (Option Timestamp) := do
  let maxAgeDays ← maxAgeOf rules criterion
  match maxAgeDays with
  | none => return none
  | some days => do
    let threshold ← thresholdDate rules days
    return some threshold

variable {rules criterion} {evidenceMetadata : List EvidenceMetadata}
  {evidenceFiles : List EvidenceFile}

theorem ruleVerdict_checkFreshness :
    (∃ threshold, windowStart rules criterion = .ok (some threshold) ∧
      ∃ days, ruleVerdict (checkFreshness rules criterion evidenceMetadata evidenceFiles) =
        (freshnessResult rules criterion days
          (addFresh threshold ((evidenceFiles.filter fun file =>
            decide (threshold ≤ file.lastModified)).map EvidenceFile.storageKey) evidenceMetadata)
          ((evidenceFiles.filter fun file => !decide (threshold ≤ file.lastModified)).map
            EvidenceFile.storageKey)).result) ∨
    (∀ threshold, windowStart rules criterion ≠ .ok (some threshold)) ∧
      ruleVerdict (checkFreshness rules criterion evidenceMetadata evidenceFiles) =
        .needsJudgment := by
  rw [checkFreshness, windowStart]
  cases maxAgeOf rules criterion with
  | error exn => exact .inr ⟨fun threshold found => (by cases found), rfl⟩
  | ok maxAgeDays =>
    cases maxAgeDays with
    | none => exact .inr ⟨fun threshold found => (by cases found), rfl⟩
    | some days =>
      simp only [ok_bind]
      cases thresholdDate rules days with
      | error exn => exact .inr ⟨fun threshold found => (by cases found), rfl⟩
      | ok threshold => exact .inl ⟨threshold, rfl, days, rfl⟩

theorem result_freshnessResult {days : Json} {freshFiles staleFiles : List String} :
    (freshnessResult rules criterion days freshFiles staleFiles).result =
      if freshFiles = [] ∧ staleFiles = [] then .needsJudgment
      else if staleFiles = [] then .pass
      else if freshFiles = [] then .fail
      else .needsJudgment := by
  rw [freshnessResult]
  split
  · rfl
  · split
    · rfl
    · split <;> rfl

theorem checkFreshness_pass_iff (filesFound : evidenceFiles ≠ []) :
    ruleVerdict (checkFreshness rules criterion evidenceMetadata evidenceFiles) = .pass ↔
      ∃ threshold, windowStart rules criterion = .ok (some threshold) ∧
        ∀ file ∈ evidenceFiles, threshold ≤ file.lastModified := by
  rcases @ruleVerdict_checkFreshness rules criterion evidenceMetadata evidenceFiles with
    ⟨threshold, window, days, verdict⟩ | ⟨windowless, verdict⟩
  · rw [verdict, window, result_freshnessResult]
    simp only [Except.ok.injEq, Option.some.injEq, exists_eq_left', addFresh_eq_nil,
      List.map_eq_nil_iff, List.filter_eq_nil_iff, decide_eq_true_eq, Bool.not_eq_true',
      decide_eq_false_iff_not, not_not]
    obtain ⟨file, member⟩ := List.exists_mem_of_ne_nil _ filesFound
    split
    · next both =>
      exact iff_of_false (by simp) fun fresh => both.1.1 file member (fresh file member)
    · split
      · next fresh => exact iff_of_true rfl fresh
      · next stale =>
        split
        · exact iff_of_false (by simp) stale
        · exact iff_of_false (by simp) stale
  · rw [verdict]
    refine iff_of_false (by simp) ?_
    rintro ⟨threshold, window, -⟩
    exact windowless threshold window

theorem checkFreshness_fail_iff (filesFound : evidenceFiles ≠ []) :
    ruleVerdict (checkFreshness rules criterion evidenceMetadata evidenceFiles) = .fail ↔
      ∃ threshold, windowStart rules criterion = .ok (some threshold) ∧
        (∀ file ∈ evidenceFiles, file.lastModified < threshold) ∧
        ∀ file ∈ evidenceMetadata, file.extractedAt < threshold := by
  rcases @ruleVerdict_checkFreshness rules criterion evidenceMetadata evidenceFiles with
    ⟨threshold, window, days, verdict⟩ | ⟨windowless, verdict⟩
  · rw [verdict, window, result_freshnessResult]
    simp only [Except.ok.injEq, Option.some.injEq, exists_eq_left', addFresh_eq_nil,
      List.map_eq_nil_iff, List.filter_eq_nil_iff, decide_eq_true_eq, Bool.not_eq_true',
      decide_eq_false_iff_not, Int.not_le]
    obtain ⟨file, member⟩ := List.exists_mem_of_ne_nil _ filesFound
    split
    · next both => exact absurd (both.1.1 file member) (both.2 file member)
    · split
      · next fresh =>
        exact iff_of_false (by simp) fun old =>
          absurd (old.1 file member) (fresh file member)
      · split
        · next old => exact iff_of_true rfl old
        · next mixed => exact iff_of_false (by simp) mixed
  · rw [verdict]
    refine iff_of_false (by simp) ?_
    rintro ⟨threshold, window, -⟩
    exact windowless threshold window

end Verdict

/-! ## The verdict of a run -/

section Runs

variable (services : GraphServices) (rules : RuleServices) (storage : DatedStorage)
  (request : EvalRequest) (criterion : Criterion)

def AllModified (kind : Timestamp → Prop) : Prop :=
  ∀ key modified, storage.get? key = some modified → IsEvidenceOf request key → kind modified

/-- A pass vouches for the age of all evidence, and a failure means that there is evidence and
that all of it is too old. -/
structure SoundVerdict (verdict : CriterionResultEnum) : Prop where
  pass : verdict = .pass → ∃ threshold, windowStart rules criterion = .ok (some threshold) ∧
    AllModified storage request (threshold ≤ ·)
  fail : verdict = .fail → ∃ threshold, windowStart rules criterion = .ok (some threshold) ∧
    (∃ key ∈ storage.keys, IsEvidenceOf request key) ∧ AllModified storage request (· < threshold)

/-- The moments of a run say of its evidence what the modification times say. -/
structure MomentsAgree (threshold : Timestamp) : Prop where
  fresh : (∃ key ∈ storage.keys, IsEvidenceOf request key ∧
      services.discovery.now key < threshold) ∨
    AllModified storage request (threshold ≤ ·)
  stale : (∃ key ∈ storage.keys, IsEvidenceOf request key ∧
      threshold ≤ services.discovery.now key) ∨
    threshold ≤ services.extractor.now ∨ AllModified storage request (· < threshold)

variable {services rules storage request criterion}

/-- The verdict on a freshness criterion is sound in exactly the runs over whose evidence the
moments of listing and extraction agree with the modification times, for the window that the
criterion gives. -/
theorem soundVerdict_iff {state : EvalGraphState}
    (freshness : checkTypeOf criterion = some "freshness")
    (visited : (Node.rulesEngine, state) ∈
      (evalGraph (datedServices services rules storage)).visits recursionLimit .router
        (initialState request)) :
    SoundVerdict rules storage request criterion
        (layer1Verdict rules criterion (state.evidenceMetadata.getD [])
          (state.evidenceFiles.getD [])) ↔
      ∀ threshold, windowStart rules criterion = .ok (some threshold) →
        MomentsAgree services storage request threshold := by
  obtain ⟨⟨nonempty, files⟩, described, stamped⟩ :
      Dated services storage request .rulesEngine state :=
    @Workflow.visits_invariant _ _ _ (evalGraph (datedServices services rules storage))
      (Dated services storage request) dated_kept recursionLimit .router (initialState request) rfl
      _ visited
  have filesFound : state.evidenceFiles.getD [] ≠ [] := by
    rw [files]
    simpa using nonempty
  have dates : ∀ kind : Timestamp → Prop,
      (∀ file ∈ state.evidenceFiles.getD [], kind file.lastModified) ↔
        ∀ key ∈ storage.keys, IsEvidenceOf request key → kind (services.discovery.now key) := by
    intro kind
    rw [files, Option.getD_some, List.forall_mem_map]
    simp only [mem_evidenceKeys, and_imp]
    rfl
  have within_iff := fun threshold : Timestamp => dates (threshold ≤ ·)
  have before_iff := fun threshold : Timestamp => dates (· < threshold)
  have extraction : ∀ threshold, (∀ file ∈ state.evidenceMetadata.getD [],
      file.extractedAt < threshold) ↔ services.extractor.now < threshold := by
    intro threshold
    constructor
    · intro old
      obtain ⟨file, member⟩ := List.exists_mem_of_ne_nil _ described
      rw [← stamped file member]
      exact old file member
    · intro old file member
      rw [stamped file member]
      exact old
  obtain ⟨first, member⟩ := List.exists_mem_of_ne_nil _ nonempty
  obtain ⟨stored, evidence⟩ := mem_evidenceKeys.mp member
  have pass_iff := @checkFreshness_pass_iff rules criterion (state.evidenceMetadata.getD [])
    _ filesFound
  have fail_iff := @checkFreshness_fail_iff rules criterion (state.evidenceMetadata.getD [])
    _ filesFound
  simp only [within_iff] at pass_iff
  simp only [before_iff, extraction] at fail_iff
  rw [layer1Verdict_of_handler freshness rfl]
  constructor
  · intro sound threshold window
    constructor
    · by_cases early : ∃ key ∈ storage.keys, IsEvidenceOf request key ∧
        services.discovery.now key < threshold
      · exact .inl early
      · right
        push Not at early
        obtain ⟨other, same, all⟩ := sound.pass (pass_iff.mpr ⟨threshold, window, early⟩)
        cases window.symm.trans same
        exact all
    · by_cases late : ∃ key ∈ storage.keys, IsEvidenceOf request key ∧
        threshold ≤ services.discovery.now key
      · exact .inl late
      · right
        push Not at late
        by_cases extracted : threshold ≤ services.extractor.now
        · exact .inl extracted
        · obtain ⟨other, same, -, all⟩ := sound.fail
            (fail_iff.mpr ⟨threshold, window, late, not_le.mp extracted⟩)
          cases window.symm.trans same
          exact .inr all
  · intro agree
    constructor
    · intro passed
      obtain ⟨threshold, window, within⟩ := pass_iff.mp passed
      refine ⟨threshold, window, ?_⟩
      rcases (agree threshold window).fresh with ⟨key, inside, ofRequest, early⟩ | all
      · exact absurd (within key inside ofRequest) (not_le.mpr early)
      · exact all
    · intro failed
      obtain ⟨threshold, window, before, extracted⟩ := fail_iff.mp failed
      refine ⟨threshold, window, ⟨first, stored, evidence⟩, ?_⟩
      rcases (agree threshold window).stale with ⟨key, inside, ofRequest, late⟩ | late | all
      · exact absurd (before key inside ofRequest) (not_lt.mpr late)
      · exact absurd extracted (not_lt.mpr late)
      · exact all

end Runs

/-- The first of March 2026 at nine o'clock. -/
def listingTime : Timestamp := 1772355600000000

def agedStorage : DatedStorage :=
  Dict.ofList [("acme/evidence/SOC2/CC6.1/policy.pdf", 1598918400000000)]

def reviewCriterion : Criterion where
  id := "CC6.1-2"
  category := "policy"
  evidenceType := "document"
  passCondition := "Policy document is reviewed within 12 months"
  checkType := some "freshness"

def reviewServices : GraphServices :=
  { emptyStorage with
    discovery := { emptyStorage.discovery with now := fun _ => listingTime }
    extractor := { emptyStorage.extractor with now := listingTime + 200000 }
    retriever :=
      { emptyStorage.retriever with
        skillRecall := .ok (.arr [.obj []])
        validateCriteria := fun _ =>
          some { controlId := "CC6.1", framework := "SOC2", criteria := [reviewCriterion] } } }

def reviewRules : RuleServices := { asciiServices with now := listingTime + 1000000 }

theorem reviewVisit : ∃ state, (Node.rulesEngine, state) ∈
        (evalGraph (datedServices reviewServices reviewRules agedStorage)).visits recursionLimit
          .router (initialState policyRequest) ∧
      layer1Verdict reviewRules reviewCriterion (state.evidenceMetadata.getD [])
        (state.evidenceFiles.getD []) = .pass := by
  have visited : ((evalGraph (datedServices reviewServices reviewRules agedStorage)).visits
      recursionLimit .router (initialState policyRequest)).any (fun visit =>
        decide (visit.1 = .rulesEngine) && decide (layer1Verdict reviewRules reviewCriterion
          (visit.2.evidenceMetadata.getD []) (visit.2.evidenceFiles.getD []) = .pass)) = true := by
    decide +kernel
  obtain ⟨⟨node, state⟩, member, shown⟩ := List.any_eq_true.mp visited
  simp only [Bool.and_eq_true, decide_eq_true_eq] at shown
  obtain ⟨rfl, passed⟩ := shown
  exact ⟨state, member, passed⟩

theorem soundVerdict_iff_review : ∃ state, (Node.rulesEngine, state) ∈
        (evalGraph (datedServices reviewServices reviewRules agedStorage)).visits recursionLimit
          .router (initialState policyRequest) ∧
      (SoundVerdict reviewRules agedStorage policyRequest reviewCriterion
          (layer1Verdict reviewRules reviewCriterion (state.evidenceMetadata.getD [])
            (state.evidenceFiles.getD [])) ↔
        ∀ threshold, windowStart reviewRules reviewCriterion = .ok (some threshold) →
          MomentsAgree reviewServices agedStorage policyRequest threshold) := by
  obtain ⟨state, visited, -⟩ := reviewVisit
  exact ⟨state, visited, soundVerdict_iff rfl visited⟩

/-- A policy that was last modified five years earlier passes as reviewed within a year. -/
theorem not_soundVerdict_review : ∃ state, (Node.rulesEngine, state) ∈
        (evalGraph (datedServices reviewServices reviewRules agedStorage)).visits recursionLimit
          .router (initialState policyRequest) ∧
      ¬ SoundVerdict reviewRules agedStorage policyRequest reviewCriterion
        (layer1Verdict reviewRules reviewCriterion (state.evidenceMetadata.getD [])
          (state.evidenceFiles.getD [])) := by
  obtain ⟨state, visited, passed⟩ := reviewVisit
  refine ⟨state, visited, ?_⟩
  intro sound
  obtain ⟨threshold, window, all⟩ := sound.pass passed
  have start : (windowStart reviewRules reviewCriterion).toOption =
      some (some 1741251601000000) := by
    decide +kernel
  rw [window] at start
  cases start
  have within := all "acme/evidence/SOC2/CC6.1/policy.pdf" 1598918400000000 (by decide)
    ⟨.inl (by decide), by decide⟩
  revert within
  decide

end Onpremai.AgentEval
