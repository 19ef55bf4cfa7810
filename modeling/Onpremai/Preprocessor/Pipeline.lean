import Onpremai.Preprocessor.Models

/-!
# Processing pipeline

A file is downloaded, checked against what was processed before, routed by its
type to a parser or an extraction backend, and described by metadata that is
stored beside it.  The readers of the file formats and the backends are
parameters; an exception they raise is caught and recorded in the metadata.
-/

namespace Onpremai.Preprocessor

open Onpremai.Library

/-- Result from a text extraction operation. -/
structure ExtractionResult where
  text : String := ""
  pageCount : Nat := 0
  needsOcr : Bool := false
  success : Bool := true
  errorMessage : String := ""

/-- One worksheet: its rows, the first of them the header.  A header cell is its
text, or `none` when it is empty. -/
structure Worksheet where
  name : String
  rows : Option (List (Option String) × List (List Json))

/-- A row of a delimited file, by column. -/
abbrev Record := List (String × Json)

/-- The JSON writer of the runtime: with an indentation or without.  Every value
has a text. -/
structure JsonWriter where
  dumps : Option Nat → Json → String
  dumps_ne_empty : ∀ indent value, dumps indent value ≠ ""

/-- Readers, backends and the surroundings of the pipeline.  An error is the text
of the exception. -/
structure PipelineServices where
  loadWorkbook : Bytes → Except String (List Worksheet)
  readCsv : Bytes → Except String (List String × List Record)
  loadsUtf8 : Bytes → Except String Json
  jsonWriter : JsonWriter
  pdfBackend : Bytes → Except String ExtractionResult
  ocrAvailable : Bool
  ocrName : String
  ocrBackend : Bytes → Except String ExtractionResult
  docBackend : String → Bytes → Except String ExtractionResult
  detectJoins : String → List String → Except String (List JoinCandidate)
  mimeType : Bytes → Option String
  sha256Hex : Bytes → String
  now : String

/-- Settings of the preprocessor that the pipeline reads. -/
structure PreprocessorSettings where
  memoryUrl : String := "http://memory-service:5000"
  llmGatewayUrl : String := ""
  maxFileSizeMb : Nat := 100

def extensionMap : List (String × FileType) :=
  [(".xlsx", .excel), (".xls", .excel), (".csv", .csv), (".tsv", .csv), (".pdf", .pdf),
   (".docx", .word), (".doc", .word), (".pptx", .powerpoint), (".ppt", .powerpoint),
   (".png", .image), (".jpg", .image), (".jpeg", .image), (".tiff", .image),
   (".tif", .image), (".bmp", .image), (".json", .json)]

def mimeMap : List (String × FileType) :=
  [("application/vnd.openxmlformats-officedocument.spreadsheetml.sheet", .excel),
   ("application/vnd.ms-excel", .excel),
   ("text/csv", .csv),
   ("application/pdf", .pdf),
   ("application/vnd.openxmlformats-officedocument.wordprocessingml.document", .word),
   ("application/msword", .word),
   ("application/vnd.openxmlformats-officedocument.presentationml.presentation", .powerpoint),
   ("application/json", .json),
   ("image/png", .image), ("image/jpeg", .image), ("image/tiff", .image)]

/-- `os.path.splitext(key)[1]`: leading dots of the name start no extension. -/
def splitExtension (key : String) : String :=
  let name := (Text.afterLastSlash key).toList.dropWhile fun char => char == '.'
  if name.contains '.' then
    String.ofList ('.' :: (name.reverse.takeWhile fun char => char != '.').reverse)
  else ""

def detectFileType (services : PipelineServices) (fileKey : String) (fileBytes : Bytes) :
    FileType :=
  match (extensionMap.find? fun entry =>
      decide (entry.1 = Text.lower (splitExtension fileKey))) with
  | some entry => entry.2
  | none =>
    match services.mimeType fileBytes with
    | none => .unknown
    | some mime =>
      match mimeMap.find? fun entry => decide (entry.1 = mime) with
      | some entry => entry.2
      | none => .unknown

def extractTenantId (fileKey : String) : String :=
  match (fileKey.toList.splitOn '/').map String.ofList with
  | first :: second :: _ =>
    if first = "uploads" ∨ first = "evidence" ∨ first = "data" then second else first
  | _ => ""

def detectSchema (columns : List String) (rows : List Json) (sheetName : String) :
    Except String SheetSchema :=
  let isObject : Json → Bool
    | .obj _ => true
    | _ => false
  if columns ≠ [] ∧ (rows.take 100).any (fun row => !isObject row) = true then
    .error "object has no attribute 'get'"
  else .ok { name := sheetName, columns, rowCount := rows.length }

def headerColumns (header : List (Option String)) : List String :=
  header.mapIdx fun index cell =>
    match cell with
    | some text => text
    | none => "column_" ++ toString index

def rowDict (columns : List String) (cells : List Json) : Json :=
  .obj (Dict.ofList (columns.zip cells)).entries

def parseExcel (services : PipelineServices) (fileBytes : Bytes) :
    Except String (List SheetSchema) := do
  let worksheets ← services.loadWorkbook fileBytes
  let sheets ← worksheets.filterMapM fun worksheet =>
    match worksheet.rows with
    | none => pure none
    | some (header, dataRows) => do
      let columns := headerColumns header
      let schema ← detectSchema columns (dataRows.map (rowDict columns)) worksheet.name
      return some schema
  return sheets

def parseCsv (services : PipelineServices) (fileBytes : Bytes) :
    Except String (List SheetSchema) := do
  let table ← services.readCsv fileBytes
  let schema ← detectSchema table.1 (table.2.map .obj) "data"
  return [schema]

/-- Record an exception that reached the router of the pipeline. -/
def FileMetadata.failed (metadata : FileMetadata) (message : String) : FileMetadata :=
  { metadata with error := some { errorType := "extraction_failed", message, recoverable := true } }

def processStructured (services : PipelineServices)
    (parsed : Except String (List SheetSchema)) (metadata : FileMetadata) : FileMetadata :=
  match parsed with
  | .error message => metadata.failed message
  | .ok sheets =>
    let metadata := { metadata with sheets, evidenceType := .structured }
    if sheets = [] then metadata
    else
      match services.detectJoins metadata.fileKey (sheets.flatMap SheetSchema.columns) with
      | .error message => metadata.failed message
      | .ok joinCandidates => { metadata with joinCandidates }

def useDigital (result : ExtractionResult) (metadata : FileMetadata) : FileMetadata :=
  let metadata :=
    { metadata with
      extractedText := if result.success then result.text else ""
      pageCount := result.pageCount
      evidenceType := .unstructured }
  if result.success then metadata
  else
    { metadata with
      error := some { errorType := "extraction_failed", message := result.errorMessage,
                      recoverable := true } }

def processPdf (services : PipelineServices) (fileBytes : Bytes) (metadata : FileMetadata) :
    FileMetadata :=
  match services.pdfBackend fileBytes with
  | .error message => metadata.failed message
  | .ok result =>
    if result.success = true ∧ Text.strip result.text ≠ "" ∧ result.needsOcr = false then
      { metadata with
        extractedText := result.text
        pageCount := result.pageCount
        evidenceType := .unstructured }
    else if services.ocrAvailable then
      match services.ocrBackend fileBytes with
      | .error message => metadata.failed message
      | .ok ocrResult =>
        if ocrResult.success then
          { metadata with
            extractedText := ocrResult.text
            pageCount := if ocrResult.pageCount = 0 then result.pageCount
              else ocrResult.pageCount
            evidenceType := .unstructured }
        else useDigital result metadata
    else useDigital result metadata

def processDocument (services : PipelineServices) (fileBytes : Bytes) (fileType : FileType)
    (metadata : FileMetadata) : FileMetadata :=
  let hint := if fileType = .powerpoint then "pptx" else "docx"
  match services.docBackend hint fileBytes with
  | .error message => metadata.failed message
  | .ok result =>
    if result.success then
      { metadata with
        extractedText := result.text
        pageCount := result.pageCount
        evidenceType := .unstructured }
    else
      { metadata with
        error := some { errorType := "extraction_failed", message := result.errorMessage,
                        recoverable := true }
        evidenceType := .unstructured }

def processImage (services : PipelineServices) (fileBytes : Bytes) (metadata : FileMetadata) :
    FileMetadata :=
  if services.ocrAvailable then
    match services.ocrBackend fileBytes with
    | .error message => metadata.failed message
    | .ok result =>
      if result.success then
        { metadata with
          extractedText := result.text
          pageCount := 1
          evidenceType := .unstructured }
      else
        { metadata with
          error := some { errorType := "ocr_failed", message := result.errorMessage,
                          recoverable := true }
          evidenceType := .unstructured }
  else
    { metadata with
      error := some
        { errorType := "backend_unavailable"
          message := "OCR backend '" ++ services.ocrName ++ "' is not available" }
      evidenceType := .unstructured }

def processJson (services : PipelineServices) (fileBytes : Bytes) (metadata : FileMetadata) :
    FileMetadata :=
  match services.loadsUtf8 fileBytes with
  | .error message =>
    { metadata with
      error := some { errorType := "parse_error", message := "Invalid JSON: " ++ message } }
  | .ok (.arr (.obj fields :: rest)) =>
    let columns := fields.map Prod.fst
    match detectSchema columns ((Json.obj fields :: rest).take 1000) "root" with
    | .error message => metadata.failed message
    | .ok schema => { metadata with sheets := [schema], evidenceType := .structured }
  | .ok (.obj fields) =>
    { metadata with
      extractedText := Text.truncate 10000 (services.jsonWriter.dumps (some 2) (.obj fields))
      evidenceType := .mixed }
  | .ok content =>
    { metadata with
      extractedText := Text.truncate 10000 (services.jsonWriter.dumps none content)
      evidenceType := .unstructured }

def baseMetadata (services : PipelineServices) (fileKey : String) (fileBytes : Bytes)
    (fileType : FileType) : FileMetadata where
  filename := Text.afterLastSlash fileKey
  fileKey := fileKey
  fileType := fileType
  sizeBytes := fileBytes.length
  contentHash := services.sha256Hex fileBytes
  processedAt := services.now
  tenantId := extractTenantId fileKey

def extractAndBuildMetadata (services : PipelineServices) (fileKey : String)
    (fileBytes : Bytes) (fileType : FileType) : FileMetadata :=
  let metadata := baseMetadata services fileKey fileBytes fileType
  match fileType with
  | .excel => processStructured services (parseExcel services fileBytes) metadata
  | .csv => processStructured services (parseCsv services fileBytes) metadata
  | .pdf => processPdf services fileBytes metadata
  | .word => processDocument services fileBytes .word metadata
  | .powerpoint => processDocument services fileBytes .powerpoint metadata
  | .image => processImage services fileBytes metadata
  | .json => processJson services fileBytes metadata
  | .unknown => metadata

/-- What storage holds and does while a file is processed. -/
structure StorageView where
  download : Except String Bytes
  existingMetadata : Except String (Option Json)
  writeSucceeds : Bool

/-- What processing a file comes to: the result, and the document it stored. -/
structure Processed where
  result : ProcessingResult
  stored : Option Json := none

def alreadyDescribed (storage : StorageView) (contentHash : String) : Bool :=
  match storage.existingMetadata with
  | .ok (some document) =>
    match document.get? "content_hash" with
    | some hash => hash.isString contentHash
    | none => false
  | _ => false

/-- Process a single file through the full pipeline.  A file over the size limit
raises, since the method that would describe it does not exist; so does the last
step when policy analysis is configured, since it reads a field that the metadata
does not have. -/
def processFile (services : PipelineServices) (settings : PreprocessorSettings)
    (storage : StorageView) (tracker : Dict String String) (fileKey : String) :
    Except String Processed :=
  match storage.download with
  | .error message =>
    .ok { result := { success := false, fileKey
                      errorMessage := "Failed to download file: " ++ message } }
  | .ok fileBytes =>
    if settings.maxFileSizeMb * 1024 * 1024 < fileBytes.length then
      .error "'ProcessingPipeline' object has no attribute '_build_error_metadata'"
    else
      let contentHash := services.sha256Hex fileBytes
      if alreadyDescribed storage contentHash ∨ tracker.get? fileKey = some contentHash then
        .ok { result := { success := true, fileKey, skipped := true } }
      else
        let fileType := detectFileType services fileKey fileBytes
        if fileType = .unknown then
          .ok { result := { success := true, fileKey, skipped := true
                            errorMessage := "Unsupported file type" } }
        else
          let metadata := extractAndBuildMetadata services fileKey fileBytes fileType
          if settings.memoryUrl ≠ "" ∧ settings.llmGatewayUrl ≠ "" ∧
              metadata.tenantId ≠ "" then
            .error "'FileMetadata' object has no attribute 'text_content'"
          else
            .ok { result := { success := true, fileKey, metadata := some metadata }
                  stored := if storage.writeSucceeds then some metadata.modelDump
                    else none }

end Onpremai.Preprocessor
