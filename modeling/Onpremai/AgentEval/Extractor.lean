import Onpremai.AgentEval.Tribunal

/-!
# Metadata extraction

The extractor reads the stored metadata of every evidence file.  Metadata that is
missing or does not load is asked of the preprocessor, and a preprocessor that
does not answer is replaced by the file type alone.
-/

namespace Onpremai.AgentEval

open Onpremai.Library

/-- What the request to the preprocessor came to. -/
inductive PreprocessorReply where
  | unreachable
  | answered (statusCode : Nat) (body : Except PyError Json)
  | raised (exn : PyError)

/-- What extraction asks of its surroundings. -/
structure ExtractorServices where
  getJson : String → Except PyError Json
  process : String → PreprocessorReply
  now : Timestamp

/-- `value[:count]`: strings and lists have slices. -/
def sliceOf (count : Nat) : Json → Except PyError Json
  | .str text => .ok (.str (Text.truncate count text))
  | .arr items => .ok (.arr (items.take count))
  | _ => .error .typeError

/-- An integer field: whole numbers, truth values and plain decimal strings. -/
def validateInt : Json → Option Int
  | .num value => if value.den = 1 then some value.num else none
  | .bool value => some (if value then 1 else 0)
  | .str text => (Text.strip text).toInt?
  | _ => none

def validateString : Json → Option String
  | .str text => some text
  | _ => none

def validateDict : Json → Option Json
  | .obj fields => some (.obj fields)
  | _ => none

def requireField {α : Type} (model field : String) : Option α → Except PyError α
  | some value => .ok value
  | none => .error (.validationError model field)

def readMetadata (now : Timestamp) (evidenceFile : EvidenceFile) (document : Json) :
    Except PyError EvidenceMetadata := do
  let fileType ← getField document "file_type" (.str evidenceFile.fileType)
  let columns ← getField document "columns" (.arr [])
  let rowCount ← getField document "row_count" (.num 0)
  let sheetNames ← getField document "sheet_names" (.arr [])
  let textContent ← getField document "text_content" (.str "")
  let textContent ← sliceOf 5000 textContent
  let schemaInfo ← getField document "schema_info" (.obj [])
  let fileType ← requireField "EvidenceMetadata" "file_type" (validateString fileType)
  let columns ← requireField "EvidenceMetadata" "columns" columns.asStrings?
  let rowCount ← requireField "EvidenceMetadata" "row_count" (validateInt rowCount)
  let sheetNames ← requireField "EvidenceMetadata" "sheet_names" sheetNames.asStrings?
  let textContent ← requireField "EvidenceMetadata" "text_content"
    (validateString textContent)
  let schemaInfo ← requireField "EvidenceMetadata" "schema_info" (validateDict schemaInfo)
  return { storageKey := evidenceFile.storageKey, fileType, columns, rowCount, sheetNames
           textContent, extractedAt := now, schemaInfo }

/-- Call the preprocessor service: `none` when it is down or answers with an error
status. -/
def callPreprocessor : PreprocessorReply → Except PyError (Option Json)
  | .unreachable => .ok none
  | .answered statusCode body => if statusCode = 200 then body.map some else .ok none
  | .raised exn => .error exn

def inlineExtraction (now : Timestamp) (evidenceFile : EvidenceFile) : EvidenceMetadata where
  storageKey := evidenceFile.storageKey
  fileType := evidenceFile.fileType
  extractedAt := now
  schemaInfo := .obj [("source", .str "inline_fallback")]

def extractSingleFile (services : ExtractorServices) (evidenceFile : EvidenceFile) :
    Except PyError EvidenceMetadata :=
  match services.getJson (evidenceFile.storageKey ++ ".metadata.json") >>=
      readMetadata services.now evidenceFile with
  | .ok metadata => .ok metadata
  | .error _ =>
    match callPreprocessor (services.process evidenceFile.storageKey) with
    | .ok (some document) => readMetadata services.now evidenceFile document
    | .ok none => .ok (inlineExtraction services.now evidenceFile)
    | .error exn => .error exn

def extractionTiming (existing : Option TimingStats) (elapsedMs : Rat) : TimingStats :=
  match existing with
  | none => { extractionMs := elapsedMs }
  | some timing => { discoveryMs := timing.discoveryMs, extractionMs := elapsedMs }

def extractorNode (services : ExtractorServices) (elapsedMs : Rat) (state : EvalGraphState) :
    Except PyError EvalGraphState :=
  let evidenceFiles := state.evidenceFiles.getD []
  if evidenceFiles = [] then .ok { evidenceMetadata := some [] }
  else do
    let metadata ← evidenceFiles.mapM (extractSingleFile services)
    return { evidenceMetadata := some metadata
             timing := some (some (extractionTiming state.timing? elapsedMs)) }

theorem extractSingleFile_of_stored {services : ExtractorServices}
    {evidenceFile : EvidenceFile} {document : Json} {metadata : EvidenceMetadata}
    (loaded : services.getJson (evidenceFile.storageKey ++ ".metadata.json") = .ok document)
    (read : readMetadata services.now evidenceFile document = .ok metadata) :
    extractSingleFile services evidenceFile = .ok metadata := by
  rw [extractSingleFile, bind_eq_ok.mpr ⟨document, loaded, read⟩]

end Onpremai.AgentEval
