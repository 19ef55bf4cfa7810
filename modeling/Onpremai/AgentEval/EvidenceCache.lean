import Onpremai.AgentEval.GraphRuns
import Onpremai.Library.Datetime

/-!
# The evidence cache

A run looks the hash of its evidence up among the stored evaluations.  The hash is
computed from the time at which the files were listed, and the record of an evaluation
has its hash among the metadata, where the lookup does not read it.
-/

namespace Onpremai.AgentEval

open Onpremai.Library

/-- What the formatter gives to `eval_store`. -/
structure EvalRecord where
  tenantId : String
  framework : String
  controlId : String
  result : EvalResult
  evidenceHash : String
  partialEvaluation : Bool
  traceId : String

/-- The record as `eval_recall` returns it; `dump` is the result in JSON mode. -/
def EvalRecord.document (dump : EvalResult → Json) (record : EvalRecord) : Json :=
  .obj [("tenant_id", .str record.tenantId), ("framework", .str record.framework),
    ("control_id", .str record.controlId), ("result", dump record.result),
    ("metadata", .obj [("evidence_hash", .str record.evidenceHash),
      ("partial", .bool record.partialEvaluation), ("trace_id", .str record.traceId)])]

def storedRecord (final : EvalGraphState) : Option EvalRecord :=
  if (final.cachedResult.getD none).isSome then none
  else if (truthy? (final.error.getD none)).isSome ∧ final.finalScore.getD 0 = 0 then none
  else (final.evaluationResult.getD none).map fun result =>
    { tenantId := final.tenantId.getD "", framework := final.framework.getD ""
      controlId := final.controlId.getD "", result := result
      evidenceHash := final.evidenceHash.getD ""
      partialEvaluation := final.partialEvaluation.getD false
      traceId := final.traceId.getD "" }

/-- The objects of the storage: their contents by key. -/
abbrev EvidenceStorage := Dict String String

/-- `storage.list_objects(prefix)`. -/
def listObjects (storage : EvidenceStorage) (start : String) : Except PyError (List String) :=
  .ok (storage.keys.filter (Text.startsWith start))

/-- What all runs share: the hash function and the JSON form of results. -/
structure CacheSetting where
  sha256Hex : String → String
  dump : EvalResult → Json
  validateResult : Json → Option EvalResult

/-- What is particular to one run: its other surroundings, the order in which it walks
the set of keys, and its clock at each key. -/
structure CacheRun where
  services : GraphServices
  setOrder : SetOrder
  now : String → Timestamp

section

variable (setting : CacheSetting) (storage : EvidenceStorage) (records : List EvalRecord)
  (run : CacheRun) (request : EvalRequest)

/-- What discovery finds around it in a run; `records` has the newest evaluation of
the control first. -/
def discoveryServices : DiscoveryServices where
  listObjects := listObjects storage
  setOrder := run.setOrder
  now := run.now
  isoformat := Datetime.isoformat
  sha256Hex := setting.sha256Hex
  evalRecall := .ok ((records.take 1).map (EvalRecord.document setting.dump))
  validateResult := setting.validateResult

def cacheServices : GraphServices :=
  { run.services with discovery := discoveryServices setting storage records run }

def discoveryUpdate : Except PyError EvalGraphState :=
  discoveryNode (discoveryServices setting storage records run)
    run.services.clock.discoveryMs (initialState request)

def discoveredHash : Except PyError String := do
  let update ← discoveryUpdate setting storage records run request
  return update.evidenceHash.getD ""

def evidenceFilesOf : List EvidenceFile :=
  let services := discoveryServices setting storage records run
  ((run.setOrder.list
    (storage.keys.filter (Text.startsWith (tenantPrefix request.tenantId
      ("evidence/" ++ request.framework ++ "/" ++ request.controlId ++ "/"))) ++
        storage.keys.filter (Text.startsWith (tenantPrefix request.tenantId "evidence/")))).filter
          isEvidenceKey).map (evidenceFileOf services)

def fileText (file : EvidenceFile) : String :=
  file.storageKey ++ Datetime.isoformat file.lastModified ++ toString file.sizeBytes

def hashedText (files : List EvidenceFile) : String :=
  String.join ((files.insertionSort fun first second =>
    first.storageKey ≤ second.storageKey).map fileText)

end

def IsEvidenceOf (request : EvalRequest) (key : String) : Prop :=
  (Text.startsWith (tenantPrefix request.tenantId
      ("evidence/" ++ request.framework ++ "/" ++ request.controlId ++ "/")) key = true ∨
    Text.startsWith (tenantPrefix request.tenantId "evidence/") key = true) ∧
      isEvidenceKey key = true

/-- An evidence object was added, removed or modified. -/
def EvidenceChanged (request : EvalRequest) (before after : EvidenceStorage) : Prop :=
  ∃ key, IsEvidenceOf request key ∧ before.get? key ≠ after.get? key

/-- The promise of the cache for two runs over one storage: they compute one hash, the
second returns what the first stored, and a run over changed evidence computes another
hash and does not return it. -/
structure CacheLaw (setting : CacheSetting) (storage : EvidenceStorage)
    (records : List EvalRecord) (first second : CacheRun) (request : EvalRequest) : Prop where
  sameHash : ∀ later, discoveredHash setting storage later second request =
    discoveredHash setting storage records first request
  reused : ∀ final record,
    runGraph (cacheServices setting storage records first) request = .ok final →
      storedRecord final = some record →
        ∃ last, runGraph (cacheServices setting storage (record :: records) second) request =
          .ok last ∧ last.evaluationResult = some (some { record.result with cached := true })
  newHash : ∀ changed later third, EvidenceChanged request storage changed →
    discoveredHash setting changed later third request ≠
      discoveredHash setting storage records first request
  notReused : ∀ changed third final record, EvidenceChanged request storage changed →
    runGraph (cacheServices setting storage records first) request = .ok final →
      storedRecord final = some record → ∀ update,
        discoveryUpdate setting changed (record :: records) third request = .ok update →
          update.cachedResult ≠ some (some { record.result with cached := true })

section

variable {setting : CacheSetting} {storage : EvidenceStorage} {records : List EvalRecord}
  {run : CacheRun} {request : EvalRequest}

theorem discoverFiles_eq :
    discoverFiles (discoveryServices setting storage records run) request.tenantId
      request.framework request.controlId =
        .ok (evidenceFilesOf setting storage records run request) := rfl

theorem evidenceFilesOf_eq_nil_iff : evidenceFilesOf setting storage records run request = [] ↔
      ∀ key ∈ storage.keys, ¬ IsEvidenceOf request key := by
  rw [evidenceFilesOf]
  simp only [List.map_eq_nil_iff, List.filter_eq_nil_iff, run.setOrder.mem_list,
    List.mem_append, List.mem_filter, IsEvidenceOf]
  constructor
  · rintro none key stored ⟨listed | listed, evidence⟩
    · exact none key (Or.inl ⟨stored, listed⟩) evidence
    · exact none key (Or.inr ⟨stored, listed⟩) evidence
  · rintro none key (⟨stored, listed⟩ | ⟨stored, listed⟩) evidence
    · exact none key stored ⟨Or.inl listed, evidence⟩
    · exact none key stored ⟨Or.inr listed, evidence⟩

theorem checkEvidenceCache_miss {hash : String} (digest : hash ≠ "") :
    checkEvidenceCache (discoveryServices setting storage records run) hash = .ok none := by
  cases records with
  | nil => rfl
  | cons record older =>
    have absent : getField (record.document setting.dump) "evidence_hash" (.str "") =
        .ok (.str "") := rfl
    have differs : (Json.str "").isString hash = false := by
      simp [Json.isString, Ne.symm digest]
    simp [checkEvidenceCache, discoveryServices, absent, differs, bind, Except.bind, pure,
      Except.pure]

theorem lookUpCache_miss {hash : String} (digest : hash ≠ "") :
    lookUpCache (discoveryServices setting storage records run) (initialState request) hash =
      .ok none := by
  rw [lookUpCache]
  split
  · rfl
  · exact checkEvidenceCache_miss digest

theorem discoveredHash_eq (digest : ∀ text, setting.sha256Hex text ≠ "") :
    discoveredHash setting storage records run request =
      .ok (if evidenceFilesOf setting storage records run request = [] then ""
        else setting.sha256Hex
          (hashedText (evidenceFilesOf setting storage records run request))) := by
  have found := @discoverFiles_eq setting storage records run request
  rw [discoveredHash, discoveryUpdate, discoveryNode]
  change (discoverFiles (discoveryServices setting storage records run) request.tenantId
    request.framework request.controlId >>= _) >>= _ = _
  rw [found]
  by_cases none : evidenceFilesOf setting storage records run request = []
  · simp [none, bind, Except.bind, pure, Except.pure]
  · have missed := @lookUpCache_miss setting storage records run request
      (computeEvidenceHash (discoveryServices setting storage records run)
        (evidenceFilesOf setting storage records run request)) (digest _)
    simp only [none, if_false, bind, Except.bind, missed]
    rfl

theorem runGraph_eq_error (none : ∀ key ∈ storage.keys, ¬ IsEvidenceOf request key) :
    runGraph (cacheServices setting storage records run) request =
      .error (.validationError "EvalResult" "layer_stats") := by
  apply runGraph_without_evidence
  have found := @discoverFiles_eq setting storage records run request
  rwa [evidenceFilesOf_eq_nil_iff.mpr none] at found

theorem hashedText_ends {files : List EvidenceFile} (nonempty : files ≠ [])
    (unsized : ∀ file ∈ files, file.sizeBytes = 0) :
    ∃ file ∈ files, ∃ start, (hashedText files).toList =
      start ++ (Datetime.isoformat file.lastModified).toList ++ ['0'] := by
  rw [hashedText]
  generalize sorting : (files.insertionSort fun first second =>
    first.storageKey ≤ second.storageKey) = sorted
  have members : ∀ file, file ∈ sorted ↔ file ∈ files := by
    intro file
    rw [← sorting]
    exact List.mem_insertionSort _
  rcases List.eq_nil_or_concat sorted with empty | ⟨earlier, last, split⟩
  · have head := List.head_mem nonempty
    rw [← members, empty] at head
    cases head
  · have inside : last ∈ files := by
      rw [← members, split]
      simp
    refine ⟨last, inside, ?_⟩
    have ends : (fileText last).toList = last.storageKey.toList ++
        (Datetime.isoformat last.lastModified).toList ++ ['0'] := by
      rw [fileText, unsized last inside]
      simp only [String.toList_append]
      rfl
    refine ⟨(earlier.flatMap fun file => (fileText file).toList) ++ last.storageKey.toList, ?_⟩
    rw [split, String.join_eq, String.toList_ofList, List.concat_eq_append]
    simp [ends, List.flatMap, Function.comp_def]

end

/-- The strings that SHA-256 is given in two runs over one storage. -/
def hashedTexts (setting : CacheSetting) (storage : EvidenceStorage)
    (records : List EvalRecord) (first second : CacheRun) (request : EvalRequest) :
    List String :=
  [hashedText (evidenceFilesOf setting storage records first request),
    hashedText (evidenceFilesOf setting storage records second request)]

theorem hashedText_ne {setting : CacheSetting} {storage : EvidenceStorage}
    {records : List EvalRecord} {first second : CacheRun} {request : EvalRequest}
    (firstTimes : ∀ key, Datetime.IsDatetime (first.now key))
    (secondTimes : ∀ key, Datetime.IsDatetime (second.now key))
    (advance : ∀ key other, first.now key < second.now other)
    (found : ∃ key ∈ storage.keys, IsEvidenceOf request key) :
    hashedText (evidenceFilesOf setting storage records second request) ≠
      hashedText (evidenceFilesOf setting storage records first request) := by
  intro same
  have nonempty : ∀ run, evidenceFilesOf setting storage records run request ≠ [] := by
    intro run empty
    rcases found with ⟨key, stored, evidence⟩
    exact evidenceFilesOf_eq_nil_iff.mp empty key stored evidence
  have ofRun : ∀ run, ∀ file ∈ evidenceFilesOf setting storage records run request,
      file.sizeBytes = 0 ∧ ∃ key, file.lastModified = run.now key := by
    intro run file inside
    rcases List.mem_map.mp inside with ⟨key, -, rfl⟩
    exact ⟨rfl, key, rfl⟩
  rcases hashedText_ends (nonempty first) (fun file inside => (ofRun first file inside).1) with
    ⟨firstFile, firstInside, firstStart, firstText⟩
  rcases hashedText_ends (nonempty second) (fun file inside => (ofRun second file inside).1) with
    ⟨secondFile, secondInside, secondStart, secondText⟩
  rcases (ofRun first firstFile firstInside).2 with ⟨firstKey, firstTime⟩
  rcases (ofRun second secondFile secondInside).2 with ⟨secondKey, secondTime⟩
  rw [same, firstText, firstTime, secondTime] at secondText
  have times := Datetime.isoformat_ending (firstTimes firstKey) (secondTimes secondKey)
    (List.append_cancel_right secondText)
  exact absurd times (Int.ne_of_lt (advance firstKey secondKey))

/-- Where SHA-256 does not collide and the clocks advance from the first run to the
second, the promise is kept exactly when the storage has no evidence for the control:
then nothing is stored and nothing is looked up. -/
theorem cacheLaw_iff (setting : CacheSetting) (storage : EvidenceStorage)
    (records : List EvalRecord) (first second : CacheRun) (request : EvalRequest)
    (digest : ∀ text, setting.sha256Hex text ≠ "")
    (injective : ∀ text ∈ hashedTexts setting storage records first second request,
      ∀ other ∈ hashedTexts setting storage records first second request,
        setting.sha256Hex text = setting.sha256Hex other → text = other)
    (firstTimes : ∀ key, Datetime.IsDatetime (first.now key))
    (secondTimes : ∀ key, Datetime.IsDatetime (second.now key))
    (advance : ∀ key other, first.now key < second.now other) :
    CacheLaw setting storage records first second request ↔
      ∀ key ∈ storage.keys, ¬ IsEvidenceOf request key := by
  constructor
  · intro law
    by_contra! found
    have nonempty : ∀ run, evidenceFilesOf setting storage records run request ≠ [] := by
      intro run empty
      rcases found with ⟨key, stored, evidence⟩
      exact evidenceFilesOf_eq_nil_iff.mp empty key stored evidence
    have hashes := law.sameHash records
    rw [discoveredHash_eq digest, discoveredHash_eq digest, if_neg (nonempty first),
      if_neg (nonempty second), Except.ok.injEq] at hashes
    apply hashedText_ne firstTimes secondTimes advance found
    apply injective _ _ _ _ hashes
    · simp [hashedTexts]
    · simp [hashedTexts]
  · intro none
    have noFiles : ∀ later run, evidenceFilesOf setting storage later run request = [] :=
      fun later run => evidenceFilesOf_eq_nil_iff.mpr none
    have noRun : ∀ final, runGraph (cacheServices setting storage records first) request ≠
        .ok final := by
      intro final ran
      rw [runGraph_eq_error none] at ran
      cases ran
    constructor
    · intro later
      rw [discoveredHash_eq digest, discoveredHash_eq digest, noFiles, noFiles]
    · intro final record ran
      exact absurd ran (noRun final)
    · rintro changed later third ⟨key, evidence, differs⟩
      have stored : key ∈ changed.keys := by
        have absent : storage.get? key = Option.none := by
          cases before : storage.get? key with
          | none => rfl
          | some content =>
            have present : key ∈ storage.keys := by
              rw [Dict.mem_keys_iff, before]
              rfl
            exact absurd evidence (none key present)
        rw [Dict.mem_keys_iff]
        rw [absent] at differs
        exact Option.isSome_iff_ne_none.mpr (Ne.symm differs)
      have someFiles : evidenceFilesOf setting changed later third request ≠ [] := by
        intro empty
        exact evidenceFilesOf_eq_nil_iff.mp empty key stored evidence
      rw [discoveredHash_eq digest, discoveredHash_eq digest, noFiles, if_neg someFiles, if_pos rfl]
      intro same
      exact digest _ (Except.ok.inj same)
    · intro changed third final record _ ran
      exact absurd ran (noRun final)

/-- SHA-256 of the two texts hashed below, and of the empty text for any other. -/
def knownDigests (text : String) : String :=
  if text = "acme/evidence/SOC2/CC6.1/policy.pdf2026-03-01T09:00:00+00:000" then
    "79d7553319a3f4e66ffa6d7debdae3c2acf0755f17ab26f259473676686164a0"
  else if text = "acme/evidence/SOC2/CC6.1/policy.pdf2026-03-02T09:00:00+00:000" then
    "64ab962309b8dd6b7c398456432141bbe43e33204d07ab9ab5fc89ed04a3b8f4"
  else "e3b0c44298fc1c149afbf4c8996fb92427ae41e4649b934ca495991b7852b855"

def policySetting : CacheSetting where
  sha256Hex := knownDigests
  dump := fun _ => .obj []
  validateResult := fun _ => none

def policyStorage : EvidenceStorage :=
  Dict.ofList [("acme/evidence/SOC2/CC6.1/policy.pdf", "Access is reviewed quarterly.")]

def policyRequest : EvalRequest where
  controlId := "CC6.1"
  framework := "SOC2"
  tenantId := "acme"

def morningRun (services : GraphServices) (day : Int) : CacheRun where
  services := services
  setOrder :=
    { list := List.dedup, mem_list := fun _ _ => List.mem_dedup, nodup_list := List.nodup_dedup }
  now := fun _ => 1772355600000000 + 86400000000 * (day - 1)

theorem knownDigests_ne (text : String) : knownDigests text ≠ "" := by
  rw [knownDigests]
  split
  · decide
  · split <;> decide

theorem morningRun_isDatetime (day : Int) (march : day = 1 ∨ day = 2) (key : String) :
    Datetime.IsDatetime ((morningRun emptyStorage day).now key) := by
  change Datetime.IsDatetime (1772355600000000 + 86400000000 * (day - 1))
  rcases march with rfl | rfl
  · decide
  · decide

theorem policyTexts : hashedTexts policySetting policyStorage [] (morningRun emptyStorage 1)
      (morningRun emptyStorage 2) policyRequest =
        ["acme/evidence/SOC2/CC6.1/policy.pdf2026-03-01T09:00:00+00:000",
          "acme/evidence/SOC2/CC6.1/policy.pdf2026-03-02T09:00:00+00:000"] := by
  decide

theorem cacheLaw_iff_policy : CacheLaw policySetting policyStorage [] (morningRun emptyStorage 1)
      (morningRun emptyStorage 2) policyRequest ↔
        ∀ key ∈ policyStorage.keys, ¬ IsEvidenceOf policyRequest key := by
  apply cacheLaw_iff
  · exact knownDigests_ne
  · rw [policyTexts]
    decide
  · exact morningRun_isDatetime 1 (.inl rfl)
  · exact morningRun_isDatetime 2 (.inr rfl)
  · intro key other
    change (1772355600000000 + 86400000000 * (1 - 1) : Int) <
      1772355600000000 + 86400000000 * (2 - 1)
    decide

/-- A second run over one unchanged policy computes another hash. -/
theorem unchanged_policy_breaks_cache :
    ¬ CacheLaw policySetting policyStorage [] (morningRun emptyStorage 1)
      (morningRun emptyStorage 2) policyRequest := by
  intro law
  have hashes := law.sameHash []
  rw [discoveredHash_eq knownDigests_ne, discoveredHash_eq knownDigests_ne] at hashes
  revert hashes
  decide

end Onpremai.AgentEval
