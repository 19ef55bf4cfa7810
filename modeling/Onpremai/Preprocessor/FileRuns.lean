import Onpremai.Preprocessor.Pipeline

/-!
# Runs over one file

The steps of the pipeline with what they change: documents written to the storage, the
tracker, messages to the memory service and analyses that are started.  A step that
raises leaves what the steps before it did.
-/

namespace Onpremai.Preprocessor

open Onpremai.Library

def policyIndicators : List String :=
  ["shall", "must not", "is required to", "policy statement", "scope and applicability",
    "compliance requirements", "roles and responsibilities", "enforcement"]

/-- Detect whether a document is a compliance policy: by its name, or by three
keywords in the start of its text. -/
def isPolicyDocument (filename textContent : String) : Bool :=
  if Text.contains "policy" (Text.lower filename) then true
  else if textContent = "" then false
  else
    let textLower := Text.lower (Text.truncate 5000 textContent)
    decide (3 ≤ policyIndicators.countP fun indicator => Text.contains indicator textLower)

/-- The call that runs the policy analysis of a document. -/
structure PolicyRun where
  tenantId : String
  documentKey : String
  documentName : String
  textContent : String
  framework : String
  deriving DecidableEq

/-- A fact sent to the memory service. -/
structure TenantFact where
  tenantId : String
  fact : String
  category : String
  metadata : Json

/-- An event pushed to the queue of the memory service. -/
structure IngestionEvent where
  userId : String
  tenantId : String
  eventType : String
  summary : String
  priority : String
  sourceService : String
  metadata : Json

/-- What the steps change; `metadataWrites` has the documents that the storage took. -/
structure PipelineState where
  tracker : Dict String String := .empty
  metadataWrites : List (String × Json) := []
  facts : List TenantFact := []
  events : List IngestionEvent := []
  policyRuns : List PolicyRun := []
  filesProcessed : Nat := 0
  errorsCount : Nat := 0

/-- A step raises the text of an exception or goes on. -/
abbrev PipelineM := ExceptT String (StateM PipelineState)

/-- Record a file processing event in health stats. -/
def recordProcessing (success : Bool) : PipelineM Unit :=
  modify fun state =>
    { state with
      filesProcessed := state.filesProcessed + 1
      errorsCount := if success then state.errorsCount else state.errorsCount + 1 }

def metadataKey (fileKey : String) : String := fileKey ++ ".metadata.json"

def writeMetadata (storage : StorageView) (fileKey : String) (metadata : FileMetadata) :
    PipelineM Unit :=
  if storage.writeSucceeds then
    modify fun state =>
      { state with
        metadataWrites := state.metadataWrites ++ [(metadataKey fileKey, metadata.modelDump)] }
  else return

/-- Record the content that was processed, or that the stored metadata describes. -/
def markProcessed (fileKey contentHash : String) : PipelineM Unit :=
  modify fun state => { state with tracker := state.tracker.set fileKey contentHash }

def checkUnchanged (storage : StorageView) (fileKey contentHash : String) : PipelineM Bool := do
  if alreadyDescribed storage contentHash then
    markProcessed fileKey contentHash
    return true
  else
    let state ← get
    return decide (state.tracker.get? fileKey = some contentHash)

/-- Notify the memory service about a processed file; a failed call is logged. -/
def notifyMemory (settings : PreprocessorSettings) (metadata : FileMetadata) : PipelineM Unit :=
  if settings.memoryUrl = "" ∨ metadata.tenantId = "" then return
  else
    modify fun state =>
      { state with
        facts := state.facts ++
          [{ tenantId := metadata.tenantId
             fact := "New file uploaded: " ++ metadata.filename ++ ", type: " ++
               metadata.fileType.value
             category := "evidence"
             metadata := .obj [("source", .str "preprocessor"),
               ("file_key", .str metadata.fileKey),
               ("evidence_type", .str metadata.evidenceType.value)] }] }

/-- Push an event for shadow agents; a failed call is logged. -/
def publishIngestionEvent (settings : PreprocessorSettings) (metadata : FileMetadata) :
    PipelineM Unit :=
  if settings.memoryUrl = "" ∨ metadata.tenantId = "" then return
  else
    modify fun state =>
      { state with
        events := state.events ++
          [{ userId := "__all__"
             tenantId := metadata.tenantId
             eventType := "evidence_uploaded"
             summary := "New evidence uploaded: " ++ metadata.filename ++ " (" ++
               metadata.fileType.value ++ ")"
             priority := "low"
             sourceService := "preprocessor"
             metadata := .obj [("filename", .str metadata.filename),
               ("file_type", .str metadata.fileType.value),
               ("storage_key", .str metadata.fileKey)] }] }

/-- `metadata.text_content`: the record has no such field. -/
def FileMetadata.textContent (_ : FileMetadata) : PipelineM String :=
  throw "'FileMetadata' object has no attribute 'text_content'"

/-- `self._build_error_metadata(...)`: the class has no such method. -/
def buildErrorMetadata (_fileKey : String) (_fileBytes : Bytes) (_errorType _message : String) :
    PipelineM FileMetadata :=
  throw "'ProcessingPipeline' object has no attribute '_build_error_metadata'"

def policyRunOf (metadata : FileMetadata) (textContent : String) : PolicyRun where
  tenantId := metadata.tenantId
  documentKey := metadata.fileKey
  documentName := metadata.filename
  textContent := textContent
  framework := "soc2"

def maybeRunPolicyAnalysis (settings : PreprocessorSettings) (metadata : FileMetadata) :
    PipelineM Unit := do
  if settings.memoryUrl = "" ∨ settings.llmGatewayUrl = "" then return
  else if metadata.tenantId = "" then return
  else
    let textContent ← metadata.textContent
    if textContent ≠ "" ∧ isPolicyDocument metadata.filename textContent = true then
      modify fun state =>
        { state with policyRuns := state.policyRuns ++ [policyRunOf metadata textContent] }

section

variable (services : PipelineServices) (settings : PreprocessorSettings)
  (storage : StorageView) (fileKey : String)

def processTooLarge (fileBytes : Bytes) : PipelineM ProcessingResult := do
  let errorMetadata ← buildErrorMetadata fileKey fileBytes "file_too_large"
    ("File exceeds maximum size of " ++ toString settings.maxFileSizeMb ++ "MB")
  writeMetadata storage fileKey errorMetadata
  recordProcessing false
  return { success := false, fileKey, metadata := some errorMetadata
           errorMessage := "File too large" }

def processSupported (fileBytes : Bytes) (fileType : FileType) : PipelineM ProcessingResult := do
  let metadata := extractAndBuildMetadata services fileKey fileBytes fileType
  writeMetadata storage fileKey metadata
  markProcessed fileKey (services.sha256Hex fileBytes)
  notifyMemory settings metadata
  publishIngestionEvent settings metadata
  maybeRunPolicyAnalysis settings metadata
  recordProcessing true
  return { success := true, fileKey, metadata := some metadata }

def processFileImpl : PipelineM ProcessingResult :=
  match storage.download with
  | .error message => do
    recordProcessing false
    return { success := false, fileKey
             errorMessage := "Failed to download file: " ++ message }
  | .ok fileBytes => do
    if settings.maxFileSizeMb * 1024 * 1024 < fileBytes.length then
      processTooLarge settings storage fileKey fileBytes
    else if ← checkUnchanged storage fileKey (services.sha256Hex fileBytes) then
      return { success := true, fileKey, skipped := true }
    else if detectFileType services fileKey fileBytes = .unknown then
      return { success := true, fileKey, skipped := true
               errorMessage := "Unsupported file type" }
    else
      processSupported services settings storage fileKey fileBytes
        (detectFileType services fileKey fileBytes)

end

end Onpremai.Preprocessor
