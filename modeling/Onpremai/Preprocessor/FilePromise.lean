import Onpremai.Preprocessor.FileRuns

/-!
# What a run over one file promises

A run returns a result, writes the metadata of a file it works on, and hands a policy to
the analysis.  It raises for a file over the size limit, and after its other steps for
every file of a tenant once the analysis is configured.
-/

namespace Onpremai.Preprocessor

open Onpremai.Library

def AnalysisConfigured (settings : PreprocessorSettings) : Prop :=
  settings.memoryUrl ≠ "" ∧ settings.llmGatewayUrl ≠ ""

def TooLarge (settings : PreprocessorSettings) (fileBytes : Bytes) : Prop :=
  settings.maxFileSizeMb * 1024 * 1024 < fileBytes.length

def IsPolicyText (metadata : FileMetadata) : Prop := metadata.extractedText ≠ "" ∧
    isPolicyDocument metadata.filename metadata.extractedText = true

section

variable (services : PipelineServices) (settings : PreprocessorSettings)
  (storage : StorageView) (fileKey : String) (state : PipelineState)

/-- A run over a file: its outcome, and what it leaves behind. -/
def runFile : Except String ProcessingResult × PipelineState :=
  (processFileImpl services settings storage fileKey).run.run state

def IsSkipped (fileBytes : Bytes) : Prop := ¬ TooLarge settings fileBytes ∧
    (alreadyDescribed storage (services.sha256Hex fileBytes) = true ∨
      state.tracker.get? fileKey = some (services.sha256Hex fileBytes) ∨
        detectFileType services fileKey fileBytes = .unknown)

def extractedMetadata (fileBytes : Bytes) : FileMetadata :=
  extractAndBuildMetadata services fileKey fileBytes (detectFileType services fileKey fileBytes)

/-- The promise of the pipeline for one file. -/
structure KeepsPromise : Prop where
  returns : ∃ result, (runFile services settings storage fileKey state).1 = .ok result
  written : ∀ fileBytes, storage.download = .ok fileBytes →
    ¬ IsSkipped services settings storage fileKey state fileBytes →
      ∃ metadata : FileMetadata, metadata.fileKey = fileKey ∧
        (runFile services settings storage fileKey state).2.metadataWrites =
          state.metadataWrites ++ [(metadataKey fileKey, metadata.modelDump)]
  analysed : ∀ fileBytes, storage.download = .ok fileBytes → ¬ TooLarge settings fileBytes →
    ¬ IsSkipped services settings storage fileKey state fileBytes →
      AnalysisConfigured settings → IsPolicyText (extractedMetadata services fileKey fileBytes) →
        (runFile services settings storage fileKey state).2.policyRuns = state.policyRuns ++
          [policyRunOf (extractedMetadata services fileKey fileBytes)
            (extractedMetadata services fileKey fileBytes).extractedText]

def AvoidsFailures : Prop :=
  ∀ fileBytes, storage.download = .ok fileBytes → ¬ TooLarge settings fileBytes ∧
    (¬ IsSkipped services settings storage fileKey state fileBytes → storage.writeSucceeds = true ∧
        (AnalysisConfigured settings → extractTenantId fileKey = "" ∧
          ¬ IsPolicyText (extractedMetadata services fileKey fileBytes)))

end

def SameFile (first second : FileMetadata) : Prop :=
  first.fileKey = second.fileKey ∧ first.tenantId = second.tenantId

def FileMetadata.identity (metadata : FileMetadata) : String × String × String :=
  (metadata.fileKey, metadata.tenantId, metadata.contentHash)

section

variable (services : PipelineServices) (fileBytes : Bytes) (metadata : FileMetadata)

theorem processStructured_identity (parsed : Except String (List SheetSchema)) :
    (processStructured services parsed metadata).identity = metadata.identity := by
  cases parsed with
  | error message => rfl
  | ok sheets =>
    simp only [processStructured]
    split
    · rfl
    · split <;> rfl

theorem useDigital_identity (result : ExtractionResult) :
    (useDigital result metadata).identity = metadata.identity := by
  simp only [useDigital]
  split <;> rfl

theorem processPdf_identity :
    (processPdf services fileBytes metadata).identity = metadata.identity := by
  rw [processPdf]
  cases services.pdfBackend fileBytes with
  | error message => rfl
  | ok result =>
    dsimp only
    split
    · rfl
    · split
      · cases services.ocrBackend fileBytes with
        | error message => rfl
        | ok ocrResult =>
          dsimp only
          split
          · rfl
          · exact useDigital_identity metadata result
      · exact useDigital_identity metadata result

theorem processDocument_identity (fileType : FileType) :
    (processDocument services fileBytes fileType metadata).identity = metadata.identity := by
  simp only [processDocument]
  split
  · rfl
  · split <;> rfl

theorem processImage_identity :
    (processImage services fileBytes metadata).identity = metadata.identity := by
  rw [processImage]
  split
  · split
    · rfl
    · split <;> rfl
  · rfl

theorem processJson_identity :
    (processJson services fileBytes metadata).identity = metadata.identity := by
  rw [processJson]
  split
  · rfl
  · simp only
    split <;> rfl
  · rfl
  · rfl

section

variable (fileKey : String) (fileType : FileType)

theorem extractAndBuildMetadata_identity :
    (extractAndBuildMetadata services fileKey fileBytes fileType).identity =
      (baseMetadata services fileKey fileBytes fileType).identity := by
  cases fileType with
  | excel => exact processStructured_identity services _ _
  | csv => exact processStructured_identity services _ _
  | pdf => exact processPdf_identity services fileBytes _
  | word => exact processDocument_identity services fileBytes _ _
  | powerpoint => exact processDocument_identity services fileBytes _ _
  | image => exact processImage_identity services fileBytes _
  | json => exact processJson_identity services fileBytes _
  | unknown => rfl

theorem extractAndBuildMetadata_sameFile :
    SameFile (extractAndBuildMetadata services fileKey fileBytes fileType)
      (baseMetadata services fileKey fileBytes fileType) := by
  have kept := extractAndBuildMetadata_identity services fileBytes fileKey fileType
  simp only [FileMetadata.identity, Prod.mk.injEq] at kept
  exact ⟨kept.1, kept.2.1⟩

theorem extractAndBuildMetadata_contentHash :
    (extractAndBuildMetadata services fileKey fileBytes fileType).contentHash =
      services.sha256Hex fileBytes := by
  have kept := extractAndBuildMetadata_identity services fileBytes fileKey fileType
  simp only [FileMetadata.identity, Prod.mk.injEq] at kept
  exact kept.2.2

end

end

section

variable {α β : Type} {step : PipelineM α} {next : α → PipelineM β}
  {state after : PipelineState}

theorem run_bind_ok {value : α} (ran : step.run.run state = (.ok value, after)) :
    (step >>= next).run.run state = (next value).run.run after := by
  rw [ExceptT.run_bind, StateT.run_bind, ran]
  rfl

theorem run_bind_error {message : String}
    (ran : step.run.run state = (.error message, after)) :
    (step >>= next).run.run state = (.error message, after) := by
  rw [ExceptT.run_bind, StateT.run_bind, ran]
  rfl

end

section

variable {services : PipelineServices} {settings : PreprocessorSettings}
  {storage : StorageView} {fileKey : String} {state : PipelineState} {metadata : FileMetadata}

def acceptedWrites (storage : StorageView) (fileKey : String) (metadata : FileMetadata) :
    List (String × Json) :=
  if storage.writeSucceeds then [(metadataKey fileKey, metadata.modelDump)] else []

theorem writeMetadata_run :
    ∃ after, (writeMetadata storage fileKey metadata).run.run state = (.ok (), after) ∧
      after.metadataWrites = state.metadataWrites ++ acceptedWrites storage fileKey metadata ∧
        after.policyRuns = state.policyRuns := by
  rw [writeMetadata, acceptedWrites]
  split
  · exact ⟨_, rfl, rfl, rfl⟩
  · exact ⟨state, rfl, (List.append_nil _).symm, rfl⟩

def Proceeds (step : PipelineM Unit) (state : PipelineState) : Prop :=
  ∃ after, step.run.run state = (.ok (), after) ∧
    after.metadataWrites = state.metadataWrites ∧ after.policyRuns = state.policyRuns

theorem markProcessed_proceeds (contentHash : String) :
    Proceeds (markProcessed fileKey contentHash) state :=
  ⟨_, rfl, rfl, rfl⟩

theorem notifyMemory_proceeds : Proceeds (notifyMemory settings metadata) state := by
  rw [notifyMemory]
  split
  · exact ⟨state, rfl, rfl, rfl⟩
  · exact ⟨_, rfl, rfl, rfl⟩

theorem publishIngestionEvent_proceeds :
    Proceeds (publishIngestionEvent settings metadata) state := by
  rw [publishIngestionEvent]
  split
  · exact ⟨state, rfl, rfl, rfl⟩
  · exact ⟨_, rfl, rfl, rfl⟩

theorem maybeRunPolicyAnalysis_raises (configured : AnalysisConfigured settings)
    (tenant : metadata.tenantId ≠ "") :
    (maybeRunPolicyAnalysis settings metadata).run.run state =
      (.error "'FileMetadata' object has no attribute 'text_content'", state) := by
  rw [maybeRunPolicyAnalysis, if_neg (not_or.mpr configured), if_neg tenant]
  rfl

theorem maybeRunPolicyAnalysis_skips
    (unused : ¬ (AnalysisConfigured settings ∧ metadata.tenantId ≠ "")) :
    (maybeRunPolicyAnalysis settings metadata).run.run state = (.ok (), state) := by
  rw [maybeRunPolicyAnalysis]
  split
  · rfl
  · next configured =>
    have noTenant : metadata.tenantId = "" := by
      by_contra tenant
      exact unused ⟨not_or.mp configured, tenant⟩
    rw [if_pos noTenant]
    rfl

theorem processSupported_run (fileBytes : Bytes) (fileType : FileType) :
    let metadata := extractAndBuildMetadata services fileKey fileBytes fileType
    ∃ ready : PipelineState, ready.metadataWrites =
          state.metadataWrites ++ acceptedWrites storage fileKey metadata ∧
        ready.policyRuns = state.policyRuns ∧
        (processSupported services settings storage fileKey fileBytes fileType).run.run state =
          (maybeRunPolicyAnalysis settings metadata >>= fun _ => do
            recordProcessing true
            return { success := true, fileKey, metadata := some metadata }).run.run ready := by
  intro metadata
  rcases @writeMetadata_run storage fileKey state metadata with
    ⟨written, writeRan, writeWrites, writeRuns⟩
  rcases @markProcessed_proceeds fileKey written (services.sha256Hex fileBytes) with
    ⟨marked, markRan, markWrites, markRuns⟩
  rcases @notifyMemory_proceeds settings marked metadata with
    ⟨notified, notifyRan, notifyWrites, notifyRuns⟩
  rcases @publishIngestionEvent_proceeds settings notified metadata with
    ⟨published, publishRan, publishWrites, publishRuns⟩
  refine ⟨published, ?_, ?_, ?_⟩
  · rw [publishWrites, notifyWrites, markWrites, writeWrites]
  · rw [publishRuns, notifyRuns, markRuns, writeRuns]
  · rw [processSupported, run_bind_ok writeRan, run_bind_ok markRan,
      run_bind_ok notifyRan, run_bind_ok publishRan]

/-! ## Whole runs -/

theorem runFile_failed {message : String} (failed : storage.download = .error message) :
    (runFile services settings storage fileKey state).1 =
      .ok { success := false, fileKey
            errorMessage := "Failed to download file: " ++ message } := by
  rw [runFile, processFileImpl, failed]
  rfl

theorem runFile_tooLarge {fileBytes : Bytes} (downloaded : storage.download = .ok fileBytes)
    (large : TooLarge settings fileBytes) :
    runFile services settings storage fileKey state =
      (.error "'ProcessingPipeline' object has no attribute '_build_error_metadata'", state) := by
  rw [runFile, processFileImpl, downloaded]
  dsimp only
  rw [if_pos (show settings.maxFileSizeMb * 1024 * 1024 < fileBytes.length from large)]
  rfl

theorem checkUnchanged_run (contentHash : String) :
    ∃ after, (checkUnchanged storage fileKey contentHash).run.run state =
        (.ok (decide (alreadyDescribed storage contentHash = true ∨
          state.tracker.get? fileKey = some contentHash)), after) ∧
      after.metadataWrites = state.metadataWrites ∧ after.policyRuns = state.policyRuns := by
  rw [checkUnchanged]
  by_cases described : alreadyDescribed storage contentHash = true
  · rcases @markProcessed_proceeds fileKey state contentHash with
      ⟨after, marked, writes, runs⟩
    refine ⟨after, ?_, writes, runs⟩
    rw [if_pos described, run_bind_ok marked, decide_eq_true (Or.inl described)]
    rfl
  · refine ⟨state, ?_, rfl, rfl⟩
    have tracked : decide (alreadyDescribed storage contentHash = true ∨
        state.tracker.get? fileKey = some contentHash) =
          decide (state.tracker.get? fileKey = some contentHash) := by
      simp [described]
    rw [if_neg described, tracked]
    rfl

section

variable {fileBytes : Bytes}

theorem runFile_unchanged (downloaded : storage.download = .ok fileBytes)
    (fits : ¬ TooLarge settings fileBytes)
    (unchanged : alreadyDescribed storage (services.sha256Hex fileBytes) = true ∨
      state.tracker.get? fileKey = some (services.sha256Hex fileBytes)) :
    (runFile services settings storage fileKey state).1 =
      .ok { success := true, fileKey, skipped := true } := by
  rcases @checkUnchanged_run storage fileKey state
    (services.sha256Hex fileBytes) with ⟨after, checked, -, -⟩
  rw [runFile, processFileImpl, downloaded]
  dsimp only
  rw [if_neg (show ¬ settings.maxFileSizeMb * 1024 * 1024 < fileBytes.length from fits),
    run_bind_ok checked, if_pos (decide_eq_true unchanged)]
  rfl

theorem runFile_unsupported (downloaded : storage.download = .ok fileBytes)
    (fits : ¬ TooLarge settings fileBytes)
    (changed : ¬ (alreadyDescribed storage (services.sha256Hex fileBytes) = true ∨
      state.tracker.get? fileKey = some (services.sha256Hex fileBytes)))
    (unsupported : detectFileType services fileKey fileBytes = .unknown) :
    (runFile services settings storage fileKey state).1 =
      .ok { success := true, fileKey, skipped := true
            errorMessage := "Unsupported file type" } := by
  rcases @checkUnchanged_run storage fileKey state
    (services.sha256Hex fileBytes) with ⟨after, checked, -, -⟩
  rw [runFile, processFileImpl, downloaded]
  dsimp only
  rw [if_neg (show ¬ settings.maxFileSizeMb * 1024 * 1024 < fileBytes.length from fits),
    run_bind_ok checked, if_neg (by simpa using changed), if_pos unsupported]
  rfl

theorem runFile_skipped (downloaded : storage.download = .ok fileBytes)
    (skipped : IsSkipped services settings storage fileKey state fileBytes) :
    ∃ result, (runFile services settings storage fileKey state).1 = .ok result := by
  rcases skipped with ⟨fits, reason⟩
  by_cases unchanged : alreadyDescribed storage (services.sha256Hex fileBytes) = true ∨
    state.tracker.get? fileKey = some (services.sha256Hex fileBytes)
  · exact ⟨_, runFile_unchanged downloaded fits unchanged⟩
  · rw [← or_assoc, or_iff_right unchanged] at reason
    exact ⟨_, runFile_unsupported downloaded fits unchanged reason⟩

theorem runFile_worked (downloaded : storage.download = .ok fileBytes)
    (fits : ¬ TooLarge settings fileBytes)
    (worked : ¬ IsSkipped services settings storage fileKey state fileBytes) :
    ∃ ready : PipelineState, ready.metadataWrites = state.metadataWrites ++
          acceptedWrites storage fileKey (extractedMetadata services fileKey fileBytes) ∧
        ready.policyRuns = state.policyRuns ∧ runFile services settings storage fileKey state =
          (maybeRunPolicyAnalysis settings (extractedMetadata services fileKey fileBytes) >>=
            fun _ => do
              recordProcessing true
              return { success := true, fileKey
                       metadata := some (extractedMetadata services fileKey fileBytes) }
            ).run.run ready := by
  rcases @checkUnchanged_run storage fileKey state
    (services.sha256Hex fileBytes) with ⟨after, checked, checkWrites, checkRuns⟩
  rcases @processSupported_run services settings storage fileKey after fileBytes
    (detectFileType services fileKey fileBytes) with ⟨ready, writes, runs, ran⟩
  have changed : ¬ (alreadyDescribed storage (services.sha256Hex fileBytes) = true ∨
      state.tracker.get? fileKey = some (services.sha256Hex fileBytes)) := by
    rintro (described | tracked)
    · exact worked ⟨fits, .inl described⟩
    · exact worked ⟨fits, .inr (.inl tracked)⟩
  have supported : detectFileType services fileKey fileBytes ≠ .unknown :=
    fun unsupported => worked ⟨fits, .inr (.inr unsupported)⟩
  refine ⟨ready, ?_, ?_, ?_⟩
  · rw [writes, checkWrites]
    rfl
  · rw [runs, checkRuns]
  · rw [runFile, processFileImpl, downloaded]
    dsimp only
    rw [if_neg (show ¬ settings.maxFileSizeMb * 1024 * 1024 < fileBytes.length from fits),
      run_bind_ok checked, if_neg (by simpa using changed), if_neg supported]
    exact ran

end

theorem extractedMetadata_tenantId (fileBytes : Bytes) :
    (extractedMetadata services fileKey fileBytes).tenantId = extractTenantId fileKey :=
  (extractAndBuildMetadata_sameFile services fileBytes fileKey _).2

theorem extractedMetadata_fileKey (fileBytes : Bytes) :
    (extractedMetadata services fileKey fileBytes).fileKey = fileKey :=
  (extractAndBuildMetadata_sameFile services fileBytes fileKey _).1

theorem runFile_supported {fileBytes : Bytes} (downloaded : storage.download = .ok fileBytes)
    (fits : ¬ TooLarge settings fileBytes)
    (worked : ¬ IsSkipped services settings storage fileKey state fileBytes) :
    (runFile services settings storage fileKey state).1 =
        (if settings.memoryUrl ≠ "" ∧ settings.llmGatewayUrl ≠ "" ∧
            (extractedMetadata services fileKey fileBytes).tenantId ≠ "" then
          .error "'FileMetadata' object has no attribute 'text_content'"
        else
          .ok { success := true, fileKey
                metadata := some (extractedMetadata services fileKey fileBytes) }) ∧
      (runFile services settings storage fileKey state).2.metadataWrites = state.metadataWrites ++
            acceptedWrites storage fileKey (extractedMetadata services fileKey fileBytes) ∧
      (runFile services settings storage fileKey state).2.policyRuns = state.policyRuns := by
  rcases runFile_worked downloaded fits worked with ⟨ready, writes, runs, ran⟩
  rw [ran]
  by_cases analysed : AnalysisConfigured settings ∧
    (extractedMetadata services fileKey fileBytes).tenantId ≠ ""
  · rw [run_bind_error (maybeRunPolicyAnalysis_raises analysed.1 analysed.2),
      if_pos (and_assoc.mp analysed)]
    exact ⟨rfl, writes, runs⟩
  · rw [run_bind_ok (maybeRunPolicyAnalysis_skips analysed),
      if_neg (fun raises => analysed (and_assoc.mpr raises))]
    exact ⟨rfl, writes, runs⟩

theorem processFile_result :
    (processFile services settings storage state.tracker fileKey).map Processed.result =
      (runFile services settings storage fileKey state).1 := by
  cases downloaded : storage.download with
  | error message =>
    rw [runFile_failed downloaded, processFile, downloaded]
    rfl
  | ok fileBytes =>
    rw [processFile, downloaded]
    dsimp only
    by_cases large : settings.maxFileSizeMb * 1024 * 1024 < fileBytes.length
    · rw [if_pos large, runFile_tooLarge downloaded large]
      rfl
    · rw [if_neg large]
      by_cases unchanged : alreadyDescribed storage (services.sha256Hex fileBytes) = true ∨
        state.tracker.get? fileKey = some (services.sha256Hex fileBytes)
      · rw [if_pos unchanged, runFile_unchanged downloaded large unchanged]
        rfl
      · rw [if_neg unchanged]
        by_cases unsupported : detectFileType services fileKey fileBytes = .unknown
        · rw [if_pos unsupported, runFile_unsupported downloaded large unchanged unsupported]
          rfl
        · have worked : ¬ IsSkipped services settings storage fileKey state fileBytes := by
            rintro ⟨-, reason⟩
            rw [← or_assoc, or_iff_right unchanged] at reason
            exact unsupported reason
          rw [if_neg unsupported, (runFile_supported downloaded large worked).1]
          rw [extractedMetadata]
          split
          · rfl
          · rfl

end

/-- The promise is kept exactly when the file avoids the failures. -/
theorem keepsPromise_iff (services : PipelineServices) (settings : PreprocessorSettings)
    (storage : StorageView) (fileKey : String) (state : PipelineState) :
    KeepsPromise services settings storage fileKey state ↔
      AvoidsFailures services settings storage fileKey state := by
  constructor
  · intro promise fileBytes downloaded
    rcases promise.returns with ⟨result, returned⟩
    have fits : ¬ TooLarge settings fileBytes := by
      intro large
      rw [runFile_tooLarge downloaded large] at returned
      cases returned
    refine ⟨fits, fun worked => ?_⟩
    rcases runFile_supported downloaded fits worked with ⟨outcome, writes, runs⟩
    constructor
    · rcases promise.written fileBytes downloaded worked with ⟨metadata, -, written⟩
      rw [writes, List.append_cancel_left_eq, acceptedWrites] at written
      by_contra refused
      rw [if_neg refused] at written
      cases written
    · intro configured
      constructor
      · by_contra tenant
        rw [← @extractedMetadata_tenantId services fileKey fileBytes] at tenant
        rw [outcome, if_pos ⟨configured.1, configured.2, tenant⟩] at returned
        cases returned
      · intro policyText
        have analysed := promise.analysed fileBytes downloaded fits worked configured policyText
        rw [runs] at analysed
        simp at analysed
  · intro avoids
    constructor
    · cases downloaded : storage.download with
      | error message => exact ⟨_, runFile_failed downloaded⟩
      | ok fileBytes =>
        by_cases skipped : IsSkipped services settings storage fileKey state fileBytes
        · exact runFile_skipped downloaded skipped
        · rcases avoids fileBytes downloaded with ⟨fits, safe⟩
          refine ⟨_, (runFile_supported downloaded fits skipped).1.trans (if_neg ?_)⟩
          rintro ⟨memory, gateway, tenant⟩
          rw [extractedMetadata_tenantId] at tenant
          exact tenant ((safe skipped).2 ⟨memory, gateway⟩).1
    · intro fileBytes downloaded worked
      rcases avoids fileBytes downloaded with ⟨fits, safe⟩
      refine ⟨extractedMetadata services fileKey fileBytes, extractedMetadata_fileKey fileBytes, ?_⟩
      rw [(runFile_supported downloaded fits worked).2.1, acceptedWrites, if_pos (safe worked).1]
    · intro fileBytes downloaded fits worked configured policyText
      have safe := (avoids fileBytes downloaded).2 worked
      exact absurd policyText (safe.2 configured).2

def jsonReader : PipelineServices where
  loadWorkbook := fun _ => .ok []
  readCsv := fun _ => .ok ([], [])
  loadsUtf8 := fun fileBytes =>
    if fileBytes = [123, 125] then .ok (.obj [])
    else .error "Expecting value: line 1 column 1 (char 0)"
  jsonWriter :=
    { dumps := fun _ _ => "\x7b\x7d", dumps_ne_empty := fun _ _ => by decide }
  pdfBackend := fun _ => .ok { success := false, errorMessage := "no pages" }
  ocrAvailable := false
  ocrName := "tesseract"
  ocrBackend := fun _ => .ok { success := false, errorMessage := "not available" }
  docBackend := fun _ _ => .ok { success := false, errorMessage := "not available" }
  detectJoins := fun _ _ => .ok []
  mimeType := fun _ => none
  sha256Hex := fun _ => "44136fa355b3678a1146ad16f7e8649e94fb4fc21fe77e8310c060f61caaff8a"
  now := "2026-01-01T00:00:00+00:00"

def uploadBucket (fileBytes : Bytes) : StorageView where
  download := .ok fileBytes
  existingMetadata := .ok none
  writeSucceeds := true

/-- A file of 100 MB and one byte raises, and so does a policy of a tenant once the
analysis is configured. -/
theorem oversized_file_and_policy_raise :
    ¬ KeepsPromise jsonReader {} (uploadBucket (List.replicate 104857601 0))
        "uploads/acme/archive.json" {} ∧
      ¬ KeepsPromise jsonReader { llmGatewayUrl := "http://llm-gateway:4000" }
        (uploadBucket [123, 125]) "uploads/acme/security-policy.json" {} := by
  constructor
  · intro promise
    rcases promise.returns with ⟨result, returned⟩
    have large : TooLarge {} (List.replicate 104857601 0) := by
      rw [TooLarge, List.length_replicate]
      decide
    rw [runFile_tooLarge rfl large] at returned
    cases returned
  · intro promise
    rcases promise.returns with ⟨result, returned⟩
    have raised : (runFile jsonReader { llmGatewayUrl := "http://llm-gateway:4000" }
        (uploadBucket [123, 125]) "uploads/acme/security-policy.json" {}).1 =
          .error "'FileMetadata' object has no attribute 'text_content'" := rfl
    rw [raised] at returned
    cases returned

end Onpremai.Preprocessor
