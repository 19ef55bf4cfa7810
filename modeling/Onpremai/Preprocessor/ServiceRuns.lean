import Onpremai.Library.Machine
import Onpremai.Preprocessor.FilePromise

/-!
# Runs of the service

The service over its storage: objects are uploaded or changed, triggers process files, and
a restart empties the tracker.  What is known of a processed file is kept twice, in the
tracker and in the metadata beside the file.
-/

namespace Onpremai.Preprocessor

open Onpremai.Library

/-- An object of the storage: a file that was uploaded, or a document written as JSON. -/
inductive StoredObject where
  | file (fileBytes : Bytes)
  | document (content : Json)
  deriving Repr

/-- What stays the same over a run: the settings, the hash of contents and the JSON codec of
the storage adapter.  A document that was written as JSON reads back as it was. -/
structure Platform where
  settings : PreprocessorSettings := {}
  sha256Hex : Bytes → String
  dumps : Json → Bytes
  loads : Bytes → Except String Json

/-- The surroundings of one trigger: the readers and backends, and what of the storage fails. -/
structure Surroundings where
  services : PipelineServices
  downloadError : Option String := none
  checkError : Option String := none
  writeSucceeds : Bool := true

/-- The storage and the tracker. -/
structure ServiceState where
  objects : Dict String StoredObject := .empty
  tracker : Dict String String := .empty

/-- A move of a run. -/
inductive ServiceMove where
  | upload (fileKey : String) (fileBytes : Bytes)
  | trigger (fileKey : String) (surroundings : Surroundings)
  | restart

section

variable (platform : Platform)

/-- `storage.get(key)`: the content of an object. -/
def StoredObject.content : StoredObject → Bytes
  | .file fileBytes => fileBytes
  | .document content => platform.dumps content

/-- `storage.get_json(key)`: the document of an object. -/
def StoredObject.getJson : StoredObject → Except String Json
  | .file fileBytes => platform.loads fileBytes
  | .document content => .ok content

def Surroundings.servicesOn (surroundings : Surroundings) : PipelineServices :=
  { surroundings.services with sha256Hex := platform.sha256Hex }

variable (state : ServiceState) (fileKey : String) (surroundings : Surroundings)

/-- What the storage holds and does while a file is processed. -/
def storageView : StorageView where
  download :=
    match surroundings.downloadError with
    | some message => .error message
    | none =>
      match state.objects.get? fileKey with
      | some object => .ok (object.content platform)
      | none => .error ("Object not found: " ++ fileKey)
  existingMetadata :=
    match surroundings.checkError with
    | some message => .error message
    | none =>
      match state.objects.get? (metadataKey fileKey) with
      | some object => (object.getJson platform).map some
      | none => .ok none
  writeSucceeds := surroundings.writeSucceeds

/-- `process_file` on the current storage: its outcome and what it leaves behind. -/
def processFileOn : Except String ProcessingResult × PipelineState :=
  runFile (surroundings.servicesOn platform) platform.settings
    (storageView platform state fileKey surroundings) fileKey { tracker := state.tracker }

/-- The storage after documents were written to it. -/
def putDocuments (objects : Dict String StoredObject) (writes : List (String × Json)) :
    Dict String StoredObject :=
  objects.setAll (writes.map fun write => (write.1, .document write.2))

def afterTrigger : ServiceState where
  objects := putDocuments state.objects
    (processFileOn platform state fileKey surroundings).2.metadataWrites
  tracker := (processFileOn platform state fileKey surroundings).2.tracker

def serviceStep : ServiceState → ServiceMove → ServiceState
  | state, .upload fileKey fileBytes =>
    { state with objects := state.objects.set fileKey (.file fileBytes) }
  | state, .trigger fileKey surroundings => afterTrigger platform state fileKey surroundings
  | state, .restart => { state with tracker := .empty }

end

def SkippedAsProcessed (outcome : Except String ProcessingResult) : Prop :=
  ∃ result, outcome = .ok result ∧ result.skipped = true ∧ result.errorMessage = ""

def KeepsTracker {α : Type} (step : PipelineM α) : Prop :=
  ∀ state, (step.run.run state).2.tracker = state.tracker

section

variable {α β : Type} {step : PipelineM α} {next : α → PipelineM β}

theorem keepsTracker_bind (first : KeepsTracker step)
    (second : ∀ value, KeepsTracker (next value)) : KeepsTracker (step >>= next) := by
  intro state
  have before := first state
  cases ran : step.run.run state with
  | mk outcome after =>
    rw [ran] at before
    cases outcome with
    | error message =>
      rw [run_bind_error ran]
      exact before
    | ok value =>
      rw [run_bind_ok ran, second value after]
      exact before

theorem keepsTracker_return (value : α) : KeepsTracker (return value : PipelineM α) :=
  fun _ => rfl

theorem recordProcessing_keepsTracker (success : Bool) : KeepsTracker (recordProcessing success) :=
  fun _ => rfl

end

section

variable {services : PipelineServices} {settings : PreprocessorSettings}
  {storage : StorageView} {fileKey : String} {state : PipelineState}

section

variable (metadata : FileMetadata)

theorem writeMetadata_keepsTracker : KeepsTracker (writeMetadata storage fileKey metadata) := by
  intro state
  rw [writeMetadata]
  split
  · rfl
  · rfl

theorem notifyMemory_keepsTracker : KeepsTracker (notifyMemory settings metadata) := by
  intro state
  rw [notifyMemory]
  split
  · rfl
  · rfl

theorem publishIngestionEvent_keepsTracker :
    KeepsTracker (publishIngestionEvent settings metadata) := by
  intro state
  rw [publishIngestionEvent]
  split
  · rfl
  · rfl

theorem maybeRunPolicyAnalysis_keepsTracker :
    KeepsTracker (maybeRunPolicyAnalysis settings metadata) := by
  intro state
  by_cases analysed : AnalysisConfigured settings ∧ metadata.tenantId ≠ ""
  · rw [maybeRunPolicyAnalysis_raises analysed.1 analysed.2]
  · rw [maybeRunPolicyAnalysis_skips analysed]

end

theorem processSupported_tracker (fileBytes : Bytes) (fileType : FileType) :
    ((processSupported services settings storage fileKey fileBytes fileType).run.run
        state).2.tracker = state.tracker.set fileKey (services.sha256Hex fileBytes) := by
  have wrote := @writeMetadata_keepsTracker storage fileKey
    (extractAndBuildMetadata services fileKey fileBytes fileType) state
  rcases @writeMetadata_run storage fileKey state
    (extractAndBuildMetadata services fileKey fileBytes fileType) with ⟨after, ran, -, -⟩
  have marked : (markProcessed fileKey (services.sha256Hex fileBytes)).run.run after =
      (.ok (), { after with
        tracker := after.tracker.set fileKey (services.sha256Hex fileBytes) }) := rfl
  rw [ran] at wrote
  rw [processSupported, run_bind_ok ran, run_bind_ok marked]
  dsimp only at wrote
  rw [← wrote]
  apply keepsTracker_bind
  · exact notifyMemory_keepsTracker _
  · intro _
    apply keepsTracker_bind (publishIngestionEvent_keepsTracker _)
    intro _
    apply keepsTracker_bind (maybeRunPolicyAnalysis_keepsTracker _)
    intro _
    exact keepsTracker_bind (recordProcessing_keepsTracker true)
      fun _ => keepsTracker_return _

/-! ## What a run over a file does -/

def IsKnown (services : PipelineServices) (storage : StorageView) (fileKey : String)
    (state : PipelineState) (fileBytes : Bytes) : Prop :=
  alreadyDescribed storage (services.sha256Hex fileBytes) = true ∨
    state.tracker.get? fileKey = some (services.sha256Hex fileBytes)

/-- A run does nothing, or skips a file whose content is known, or works on the file. -/
inductive FileRun (services : PipelineServices) (settings : PreprocessorSettings)
    (storage : StorageView) (fileKey : String) (state : PipelineState)
    (outcome : Except String ProcessingResult × PipelineState) : Prop where
  | idle (notSkipped : ¬ SkippedAsProcessed outcome.1)
      (noWrites : outcome.2.metadataWrites = state.metadataWrites)
      (sameTracker : outcome.2.tracker = state.tracker)
  | skipped (fileBytes : Bytes) (downloaded : storage.download = .ok fileBytes)
      (fits : ¬ TooLarge settings fileBytes)
      (known : IsKnown services storage fileKey state fileBytes)
      (noWrites : outcome.2.metadataWrites = state.metadataWrites)
      (marked : outcome.2.tracker = state.tracker ∨
        alreadyDescribed storage (services.sha256Hex fileBytes) = true ∧
          outcome.2.tracker = state.tracker.set fileKey (services.sha256Hex fileBytes))
  | worked (fileBytes : Bytes) (downloaded : storage.download = .ok fileBytes)
      (fits : ¬ TooLarge settings fileBytes)
      (fresh : ¬ IsSkipped services settings storage fileKey state fileBytes)
      (notSkipped : ¬ SkippedAsProcessed outcome.1)
      (written : outcome.2.metadataWrites = state.metadataWrites ++
        acceptedWrites storage fileKey (extractedMetadata services fileKey fileBytes))
      (marked : outcome.2.tracker = state.tracker.set fileKey (services.sha256Hex fileBytes))

theorem checkUnchanged_tracker (contentHash : String) :
    ((checkUnchanged storage fileKey contentHash).run.run state).2.tracker = state.tracker ∨
      alreadyDescribed storage contentHash = true ∧
        ((checkUnchanged storage fileKey contentHash).run.run state).2.tracker =
          state.tracker.set fileKey contentHash := by
  rw [checkUnchanged]
  split
  · next described => exact .inr ⟨described, rfl⟩
  · exact .inl rfl

theorem checkUnchanged_fresh {contentHash : String}
    (fresh : ¬ alreadyDescribed storage contentHash = true) :
    ((checkUnchanged storage fileKey contentHash).run.run state).2.tracker =
      state.tracker := by
  rcases @checkUnchanged_tracker storage fileKey state contentHash with same | ⟨described, -⟩
  · exact same
  · exact absurd described fresh

theorem not_skippedAsProcessed_error (message : String) :
    ¬ SkippedAsProcessed (.error message) := by
  rintro ⟨result, returned, -⟩
  cases returned

theorem fileRun_failed {message : String} (failed : storage.download = .error message) :
    FileRun services settings storage fileKey state
      (runFile services settings storage fileKey state) := by
  apply FileRun.idle
  · rw [runFile_failed failed]
    rintro ⟨result, returned, skipped, -⟩
    cases returned
    cases skipped
  · rw [runFile, processFileImpl, failed]
    rfl
  · rw [runFile, processFileImpl, failed]
    rfl

section

variable {fileBytes : Bytes}

theorem fileRun_tooLarge (downloaded : storage.download = .ok fileBytes)
    (large : TooLarge settings fileBytes) : FileRun services settings storage fileKey state
      (runFile services settings storage fileKey state) := by
  rw [runFile_tooLarge downloaded large]
  exact .idle (not_skippedAsProcessed_error _) rfl rfl

theorem fileRun_known (downloaded : storage.download = .ok fileBytes)
    (fits : ¬ TooLarge settings fileBytes)
    (known : IsKnown services storage fileKey state fileBytes) :
    FileRun services settings storage fileKey state
      (runFile services settings storage fileKey state) := by
  rcases @checkUnchanged_run storage fileKey state
    (services.sha256Hex fileBytes) with ⟨after, checked, writes, -⟩
  have marked := @checkUnchanged_tracker storage fileKey state (services.sha256Hex fileBytes)
  have ran : runFile services settings storage fileKey state =
      (.ok { success := true, fileKey, skipped := true }, after) := by
    rw [runFile, processFileImpl, downloaded]
    dsimp only
    rw [if_neg (show ¬ settings.maxFileSizeMb * 1024 * 1024 < fileBytes.length from fits),
      run_bind_ok checked, if_pos (by simpa [IsKnown] using known)]
    rfl
  rw [checked] at marked
  rw [ran]
  exact .skipped fileBytes downloaded fits known writes marked

theorem fileRun_unsupported
    (downloaded : storage.download = .ok fileBytes) (fits : ¬ TooLarge settings fileBytes)
    (changed : ¬ IsKnown services storage fileKey state fileBytes)
    (unsupported : detectFileType services fileKey fileBytes = .unknown) :
    FileRun services settings storage fileKey state
      (runFile services settings storage fileKey state) := by
  rcases @checkUnchanged_run storage fileKey state
    (services.sha256Hex fileBytes) with ⟨after, checked, writes, -⟩
  have marked := @checkUnchanged_fresh storage fileKey state (services.sha256Hex fileBytes)
    fun described => changed (.inl described)
  have ran : runFile services settings storage fileKey state =
      (.ok { success := true, fileKey, skipped := true
             errorMessage := "Unsupported file type" }, after) := by
    rw [runFile, processFileImpl, downloaded]
    dsimp only
    rw [if_neg (show ¬ settings.maxFileSizeMb * 1024 * 1024 < fileBytes.length from fits),
      run_bind_ok checked, if_neg (by simpa [IsKnown] using changed), if_pos unsupported]
    rfl
  rw [checked] at marked
  rw [ran]
  apply FileRun.idle
  · rintro ⟨result, returned, -, message⟩
    cases returned
    exact absurd message (by simp)
  · exact writes
  · exact marked

theorem fileRun_worked (downloaded : storage.download = .ok fileBytes)
    (fits : ¬ TooLarge settings fileBytes)
    (fresh : ¬ IsSkipped services settings storage fileKey state fileBytes) :
    FileRun services settings storage fileKey state
      (runFile services settings storage fileKey state) := by
  rcases runFile_supported downloaded fits fresh with ⟨outcome, writes, -⟩
  apply FileRun.worked fileBytes downloaded fits fresh
  · rw [outcome]
    split
    · exact not_skippedAsProcessed_error _
    · rintro ⟨result, returned, skipped, -⟩
      cases returned
      cases skipped
  · exact writes
  · rcases @checkUnchanged_run storage fileKey state
      (services.sha256Hex fileBytes) with ⟨after, checked, -, -⟩
    have known : ¬ IsKnown services storage fileKey state fileBytes := by
      rintro (described | tracked)
      · exact fresh ⟨fits, .inl described⟩
      · exact fresh ⟨fits, .inr (.inl tracked)⟩
    have same := @checkUnchanged_fresh storage fileKey state (services.sha256Hex fileBytes)
      fun described => known (.inl described)
    have supported : detectFileType services fileKey fileBytes ≠ .unknown :=
      fun unsupported => fresh ⟨fits, .inr (.inr unsupported)⟩
    rw [checked] at same
    rw [runFile, processFileImpl, downloaded]
    dsimp only at same ⊢
    rw [if_neg (show ¬ settings.maxFileSizeMb * 1024 * 1024 < fileBytes.length from fits),
      run_bind_ok checked, if_neg (by simpa [IsKnown] using known), if_neg supported,
      processSupported_tracker, same]

end

theorem runFile_fileRun : FileRun services settings storage fileKey state
      (runFile services settings storage fileKey state) := by
  cases downloaded : storage.download with
  | error message => exact fileRun_failed downloaded
  | ok fileBytes =>
    by_cases large : TooLarge settings fileBytes
    · exact fileRun_tooLarge downloaded large
    · by_cases known : IsKnown services storage fileKey state fileBytes
      · exact fileRun_known downloaded large known
      · by_cases unsupported : detectFileType services fileKey fileBytes = .unknown
        · exact fileRun_unsupported downloaded large known unsupported
        · apply fileRun_worked downloaded large
          rintro ⟨-, described | tracked | unknown⟩
          · exact known (.inl described)
          · exact known (.inr tracked)
          · exact unsupported unknown

end

end Onpremai.Preprocessor
