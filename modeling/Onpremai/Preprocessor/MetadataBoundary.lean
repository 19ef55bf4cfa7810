import Onpremai.AgentEval.Extractor
import Onpremai.Preprocessor.Pipeline

/-!
# From the preprocessor to the extractor

The extractor of the evaluation service reads the document that the preprocessor
stored.  The two agree on one field name only, the file type; the sheets and the
text that the preprocessor wrote are not read.
-/

namespace Onpremai.Preprocessor

open Onpremai.Library Onpremai.AgentEval

def recognisedAs : FileType → List String
  | .excel => ["spreadsheet"]
  | .csv => ["csv"]
  | .pdf => ["pdf"]
  | .word => ["document"]
  | .powerpoint => ["document"]
  | .image => ["image"]
  | .json => ["json"]
  | .unknown => []

/-- The evidence metadata carries what the preprocessor wrote. -/
structure CarriesInformation (written : FileMetadata) (read : EvidenceMetadata) : Prop where
  columns : read.columns = written.sheets.flatMap SheetSchema.columns
  rowCount : read.rowCount = (written.sheets.map fun sheet => (sheet.rowCount : Int)).sum
  sheetNames : read.sheetNames = written.sheets.map SheetSchema.name
  textContent : read.textContent = Text.truncate 5000 written.extractedText
  fileType : read.fileType ∈ recognisedAs written.fileType

theorem modelDump_get? (metadata : FileMetadata) :
    metadata.modelDump.get? "file_type" = some (.str metadata.fileType.value) ∧
      metadata.modelDump.get? "columns" = none ∧
      metadata.modelDump.get? "row_count" = none ∧
      metadata.modelDump.get? "sheet_names" = none ∧
      metadata.modelDump.get? "text_content" = none ∧
      metadata.modelDump.get? "schema_info" = none := by
  simp [FileMetadata.modelDump]

theorem readMetadata_modelDump (now : Timestamp) (evidenceFile : EvidenceFile)
    (metadata : FileMetadata) :
    readMetadata now evidenceFile metadata.modelDump =
      .ok { storageKey := evidenceFile.storageKey, fileType := metadata.fileType.value
            extractedAt := now } := by
  obtain ⟨fileType, columns, rowCount, sheetNames, textContent, schemaInfo⟩ :=
    modelDump_get? metadata
  have read : ∀ key default, getField metadata.modelDump key default =
      .ok ((metadata.modelDump.get? key).getD default) := fun key default => rfl
  simp only [readMetadata, read, fileType, columns, rowCount, sheetNames, textContent, schemaInfo]
  rfl

theorem truncate_eq_empty_iff {count : Nat} (positive : 0 < count) (text : String) :
    Text.truncate count text = "" ↔ text = "" := by
  rw [Text.truncate]
  constructor
  · intro cut
    have chars : text.toList.take count = [] := by
      simpa using congrArg String.toList cut
    rcases List.take_eq_nil_iff.mp chars with zero | empty
    · omega
    · simpa using empty
  · rintro rfl
    simp

theorem carriesInformation_iff (metadata : FileMetadata) (read : EvidenceMetadata)
    (readEq : ∃ now evidenceFile, readMetadata now evidenceFile metadata.modelDump = .ok read) :
    CarriesInformation metadata read ↔ metadata.sheets = [] ∧ metadata.extractedText = "" ∧
        metadata.fileType.value ∈ recognisedAs metadata.fileType := by
  obtain ⟨now, evidenceFile, readEq⟩ := readEq
  rw [readMetadata_modelDump] at readEq
  cases readEq
  constructor
  · intro carried
    refine ⟨?_, ?_, carried.fileType⟩
    · exact List.map_eq_nil_iff.mp carried.sheetNames.symm
    · exact (truncate_eq_empty_iff (by decide) _).mp carried.textContent.symm
  · intro ⟨noSheets, noText, sameName⟩
    exact
      { columns := by simp [noSheets]
        rowCount := by simp [noSheets]
        sheetNames := by simp [noSheets]
        textContent := by simp [noText]
        fileType := sameName }

/-! ## What the pipeline writes -/

section Pipeline

variable (services : PipelineServices) (fileBytes : Bytes) (metadata : FileMetadata)

theorem processStructured_fields (parsed : Except String (List SheetSchema)) :
    let written := processStructured services parsed metadata
    written.fileType = metadata.fileType ∧ written.extractedText = metadata.extractedText ∧
      written.sheets = match parsed with
        | .error _ => metadata.sheets
        | .ok sheets => sheets := by
  dsimp only
  cases parsed with
  | error message => exact ⟨rfl, rfl, rfl⟩
  | ok sheets =>
    simp only [processStructured]
    split
    · exact ⟨rfl, rfl, rfl⟩
    · split <;> exact ⟨rfl, rfl, rfl⟩

def DigitalTextEmpty (result : ExtractionResult) : Prop := result.success = true → result.text = ""

def PdfWithoutText : Prop :=
  match services.pdfBackend fileBytes with
  | .error _ => True
  | .ok result =>
    ¬ (result.success = true ∧ Text.strip result.text ≠ "" ∧ result.needsOcr = false) ∧
      if services.ocrAvailable then
        match services.ocrBackend fileBytes with
        | .error _ => True
        | .ok ocrResult =>
          if ocrResult.success then ocrResult.text = "" else DigitalTextEmpty result
      else DigitalTextEmpty result

def ImageWithoutText : Prop :=
  services.ocrAvailable = true → ∀ result, services.ocrBackend fileBytes = .ok result →
    result.success = true → result.text = ""

/-- A JSON file that does not decode, or a table with a row that is no object among
the rows the schema detection looks at. -/
def JsonWithoutContent : Prop := (∃ message, services.loadsUtf8 fileBytes = .error message) ∨
    ∃ fields rest message, services.loadsUtf8 fileBytes = .ok (.arr (.obj fields :: rest)) ∧
        detectSchema (fields.map Prod.fst) ((Json.obj fields :: rest).take 1000) "root" =
          .error message

/-- Files in which the preprocessor finds nothing, of a type that both services
name alike. -/
def NothingToCarry (fileType : FileType) : Prop :=
  match fileType with
  | .csv => ∃ message, services.readCsv fileBytes = .error message
  | .json => JsonWithoutContent services fileBytes
  | .pdf => PdfWithoutText services fileBytes
  | .image => ImageWithoutText services fileBytes
  | _ => False

theorem useDigital_fields (result : ExtractionResult) :
    (useDigital result metadata).fileType = metadata.fileType ∧
      (useDigital result metadata).sheets = metadata.sheets ∧
      ((useDigital result metadata).extractedText = "" ↔ DigitalTextEmpty result) := by
  cases succeeded : result.success <;> simp [useDigital, DigitalTextEmpty, succeeded]

theorem strip_empty : Text.strip "" = "" := by decide

theorem processPdf_fields (empty : metadata.extractedText = "") :
    let written := processPdf services fileBytes metadata
    written.fileType = metadata.fileType ∧ written.sheets = metadata.sheets ∧
      (written.extractedText = "" ↔ PdfWithoutText services fileBytes) := by
  dsimp only
  rw [processPdf, PdfWithoutText]
  cases services.pdfBackend fileBytes with
  | error message => simp [FileMetadata.failed, empty]
  | ok result =>
    dsimp only
    by_cases digital : result.success = true ∧ Text.strip result.text ≠ "" ∧ result.needsOcr = false
    · -- a text that is not blank is not empty
      have notEmpty : result.text ≠ "" := by
        intro blank
        rw [blank, strip_empty] at digital
        exact digital.2.1 rfl
      simp [digital, notEmpty]
    · rw [if_neg digital]
      simp only [digital, not_false_eq_true, true_and]
      by_cases available : services.ocrAvailable
      · rw [if_pos available, if_pos available]
        cases services.ocrBackend fileBytes with
        | error message => simp [FileMetadata.failed, empty]
        | ok ocrResult =>
          cases succeeded : ocrResult.success
          · simpa [succeeded] using useDigital_fields metadata result
          · simp [succeeded]
      · rw [if_neg available, if_neg available]
        exact useDigital_fields metadata result

theorem processImage_fields (empty : metadata.extractedText = "") :
    let written := processImage services fileBytes metadata
    written.fileType = metadata.fileType ∧ written.sheets = metadata.sheets ∧
      (written.extractedText = "" ↔ ImageWithoutText services fileBytes) := by
  dsimp only
  rw [processImage, ImageWithoutText]
  by_cases available : services.ocrAvailable
  · simp only [available, if_true, true_implies]
    cases services.ocrBackend fileBytes with
    | error message => simp [FileMetadata.failed, empty]
    | ok result =>
      cases succeeded : result.success <;> simp [succeeded, empty]
  · simp [available, empty]

theorem processDocument_fileType (fileType : FileType) :
    (processDocument services fileBytes fileType metadata).fileType = metadata.fileType := by
  simp only [processDocument]
  generalize services.docBackend _ fileBytes = outcome
  cases outcome with
  | error message => rfl
  | ok result => cases succeeded : result.success <;> simp [succeeded]

theorem dumps_truncated_ne_empty (indent : Option Nat) (value : Json) :
    Text.truncate 10000 (services.jsonWriter.dumps indent value) ≠ "" := by
  intro cut
  exact services.jsonWriter.dumps_ne_empty indent value
    ((truncate_eq_empty_iff (by decide) _).mp cut)

theorem processJson_fields (noSheets : metadata.sheets = [])
    (empty : metadata.extractedText = "") :
    let written := processJson services fileBytes metadata
    written.fileType = metadata.fileType ∧ ((written.sheets = [] ∧ written.extractedText = "") ↔
        JsonWithoutContent services fileBytes) := by
  dsimp only
  rw [processJson, JsonWithoutContent]
  cases services.loadsUtf8 fileBytes with
  | error message => simp [noSheets, empty]
  | ok content =>
    -- only a list that starts with an object is a table
    have text : ∀ indent value, ¬ Text.truncate 10000
        (services.jsonWriter.dumps indent value) = "" :=
      dumps_truncated_ne_empty services
    match content with
    | .arr (.obj fields :: rest) =>
      dsimp only
      cases detected : detectSchema (fields.map Prod.fst)
          ((Json.obj fields :: rest).take 1000) "root" with
      | error message =>
        refine ⟨rfl, fun _ => .inr ⟨fields, rest, message, rfl, detected⟩, fun _ => ?_⟩
        exact ⟨noSheets, empty⟩
      | ok schema =>
        refine ⟨rfl, ?_, ?_⟩
        · intro ⟨found, _⟩
          cases found
        · intro failed
          rcases failed with ⟨_, raised⟩ | ⟨_, _, _, same, raised⟩
          · cases raised
          · cases same
            cases detected.symm.trans raised
    | .obj fields => simp [text]
    | .arr [] => simp [text]
    | .arr (.null :: rest) => simp [text]
    | .arr (.bool value :: rest) => simp [text]
    | .arr (.num value :: rest) => simp [text]
    | .arr (.str value :: rest) => simp [text]
    | .arr (.arr items :: rest) => simp [text]
    | .null => simp [text]
    | .bool value => simp [text]
    | .num value => simp [text]
    | .str value => simp [text]

theorem parseCsv_cases : (∃ message, services.readCsv fileBytes = .error message ∧
        parseCsv services fileBytes = .error message) ∨
      ∃ table schema, services.readCsv fileBytes = .ok table ∧
        parseCsv services fileBytes = .ok [schema] := by
  rw [parseCsv]
  cases services.readCsv fileBytes with
  | error message => exact .inl ⟨message, rfl, rfl⟩
  | ok table =>
    have detected : detectSchema table.1 (table.2.map Json.obj) "data" =
        .ok { name := "data", columns := table.1
              rowCount := (table.2.map Json.obj).length } := by
      rw [detectSchema, if_neg]
      intro raises
      -- the reader yields dictionaries, so every column can be looked up
      obtain ⟨row, member, notObject⟩ := List.any_eq_true.mp raises.2
      obtain ⟨record, -, rfl⟩ := List.mem_map.mp (List.mem_of_mem_take member)
      simp at notObject
    exact .inr ⟨table, _, rfl, bind_eq_ok.mpr ⟨table, rfl, bind_eq_ok.mpr ⟨_, detected, rfl⟩⟩⟩

variable (fileKey : String)

theorem extractAndBuildMetadata_carried_iff (fileType : FileType) :
    let written := extractAndBuildMetadata services fileKey fileBytes fileType
    (written.sheets = [] ∧ written.extractedText = "" ∧
        written.fileType.value ∈ recognisedAs written.fileType) ↔
      NothingToCarry services fileBytes fileType := by
  dsimp only
  set start := baseMetadata services fileKey fileBytes fileType with startEq
  have startType : start.fileType = fileType := rfl
  have startSheets : start.sheets = [] := rfl
  have startText : start.extractedText = "" := rfl
  cases fileType with
  | excel =>
    obtain ⟨typeEq, -⟩ := processStructured_fields services start
      (parseExcel services fileBytes)
    simp [extractAndBuildMetadata, ← startEq, typeEq, startType, FileType.value,
      recognisedAs, NothingToCarry]
  | csv =>
    obtain ⟨typeEq, textEq, sheetsEq⟩ := processStructured_fields services start
      (parseCsv services fileBytes)
    simp only [extractAndBuildMetadata, ← startEq, typeEq, textEq, sheetsEq, startType,
      startText, NothingToCarry]
    rcases parseCsv_cases services fileBytes with
      ⟨message, read, parsed⟩ | ⟨table, schema, read, parsed⟩
    · simp [read, parsed, startSheets, FileType.value, recognisedAs]
    · simp [read, parsed]
  | pdf =>
    obtain ⟨typeEq, sheetsEq, textEq⟩ := processPdf_fields services fileBytes start startText
    simp [extractAndBuildMetadata, ← startEq, typeEq, sheetsEq, textEq, startType,
      startSheets, FileType.value, recognisedAs, NothingToCarry]
  | word =>
    simp [extractAndBuildMetadata, ← startEq, processDocument_fileType, startType,
      FileType.value, recognisedAs, NothingToCarry]
  | powerpoint =>
    simp [extractAndBuildMetadata, ← startEq, processDocument_fileType, startType,
      FileType.value, recognisedAs, NothingToCarry]
  | image =>
    obtain ⟨typeEq, sheetsEq, textEq⟩ := processImage_fields services fileBytes start startText
    simp [extractAndBuildMetadata, ← startEq, typeEq, sheetsEq, textEq, startType,
      startSheets, FileType.value, recognisedAs, NothingToCarry]
  | json =>
    obtain ⟨typeEq, contentEq⟩ := processJson_fields services fileBytes start startSheets startText
    simp only [extractAndBuildMetadata, ← startEq, typeEq, startType, NothingToCarry, ← contentEq]
    simp [FileType.value, recognisedAs]
  | unknown =>
    simp [extractAndBuildMetadata, baseMetadata, FileType.value, recognisedAs, NothingToCarry]

theorem processFile_described {settings : PreprocessorSettings} {storage : StorageView}
    {tracker : Dict String String} {processed : Processed} {metadata : FileMetadata}
    {document : Json}
    (ran : processFile services settings storage tracker fileKey = .ok processed)
    (described : processed.result.metadata = some metadata)
    (stored : processed.stored = some document) :
    ∃ fileBytes, storage.download = .ok fileBytes ∧
      metadata = extractAndBuildMetadata services fileKey fileBytes
        (detectFileType services fileKey fileBytes) ∧
      document = metadata.modelDump := by
  rw [processFile] at ran
  split at ran
  · rw [← Except.ok.inj ran] at described
    cases described
  · next fileBytes downloaded =>
    refine ⟨fileBytes, downloaded, ?_⟩
    dsimp only at ran
    generalize extractAndBuildMetadata services fileKey fileBytes
      (detectFileType services fileKey fileBytes) = written at ran ⊢
    split at ran
    · cases ran
    · split at ran
      · rw [← Except.ok.inj ran] at described
        cases described
      · split at ran
        · rw [← Except.ok.inj ran] at described
          cases described
        · split at ran
          · cases ran
          · rw [← Except.ok.inj ran] at described stored
            have same : written = metadata := Option.some.inj described
            subst same
            dsimp only at stored
            split at stored
            · exact ⟨rfl, (Option.some.inj stored).symm⟩
            · cases stored

end Pipeline

/-- The extractor recovers what the preprocessor wrote about a file exactly when
there was nothing to write. -/
theorem extractSingleFile_carries_iff {services : PipelineServices}
    {settings : PreprocessorSettings} {storage : StorageView}
    {tracker : Dict String String} {fileKey : String} {fileBytes : Bytes}
    {processed : Processed} {metadata : FileMetadata} {document : Json}
    {extractor : ExtractorServices} {evidenceFile : EvidenceFile}
    (downloaded : storage.download = .ok fileBytes)
    (ran : processFile services settings storage tracker fileKey = .ok processed)
    (described : processed.result.metadata = some metadata)
    (stored : processed.stored = some document)
    (sameFile : evidenceFile.storageKey = fileKey)
    (loaded : extractor.getJson (fileKey ++ ".metadata.json") = .ok document) :
    (∃ read, extractSingleFile extractor evidenceFile = .ok read ∧
        CarriesInformation metadata read) ↔
      NothingToCarry services fileBytes (detectFileType services fileKey fileBytes) := by
  obtain ⟨bytes, alsoDownloaded, metadataEq, documentEq⟩ :=
    processFile_described services fileKey ran described stored
  have sameBytes : bytes = fileBytes := Except.ok.inj (alsoDownloaded.symm.trans downloaded)
  rw [sameBytes] at metadataEq
  have carriedIff := extractAndBuildMetadata_carried_iff services fileBytes fileKey
    (detectFileType services fileKey fileBytes)
  dsimp only at carriedIff
  rw [← metadataEq] at carriedIff
  have readEq := readMetadata_modelDump extractor.now evidenceFile metadata
  rw [documentEq, ← sameFile] at loaded
  rw [extractSingleFile_of_stored loaded readEq, ← carriedIff]
  constructor
  · intro ⟨read, returned, carried⟩
    exact (carriesInformation_iff metadata read ⟨_, _, readEq.trans returned⟩).mp carried
  · intro empty
    exact ⟨_, rfl, (carriesInformation_iff metadata _ ⟨_, _, readEq⟩).mpr empty⟩

/-- A reader that finds a table of two rows in every delimited file. -/
private def twoRows : PipelineServices where
  loadWorkbook := fun _ => .ok []
  readCsv := fun _ => .ok (["user_id", "role"], [[("user_id", .str "u1"), ("role", .str "admin")],
     [("user_id", .str "u2"), ("role", .str "auditor")]])
  loadsUtf8 := fun _ => .error "no document"
  jsonWriter := { dumps := fun _ _ => "[]", dumps_ne_empty := fun _ _ => by decide }
  pdfBackend := fun _ => .ok {}
  ocrAvailable := false
  ocrName := "tesseract"
  ocrBackend := fun _ => .ok {}
  docBackend := fun _ _ => .ok {}
  detectJoins := fun _ _ => .ok []
  mimeType := fun _ => none
  sha256Hex := fun _ => "hash"
  now := "2026-01-01T00:00:00+00:00"

private def emptyBucket : StorageView where
  download := .ok [117, 115, 101, 114]
  existingMetadata := .ok none
  writeSucceeds := true

private def accessReview : FileMetadata where
  filename := "access.csv"
  fileKey := "tenant-a/evidence/access.csv"
  fileType := .csv
  sizeBytes := 4
  contentHash := "hash"
  processedAt := "2026-01-01T00:00:00+00:00"
  evidenceType := .structured
  sheets := [{ name := "data", columns := ["user_id", "role"], rowCount := 2 }]
  tenantId := "tenant-a"

private def storedReview : ExtractorServices where
  getJson := fun _ => .ok accessReview.modelDump
  process := fun _ => .unreachable
  now := 0

private theorem processFile_accessReview :
    processFile twoRows {} emptyBucket .empty "tenant-a/evidence/access.csv" =
      .ok { result := { success := true, fileKey := "tenant-a/evidence/access.csv"
                        metadata := some accessReview }
            stored := some accessReview.modelDump } := by
  rfl

theorem extractSingleFile_carries_iff_accessReview : (∃ read, extractSingleFile storedReview
        { storageKey := "tenant-a/evidence/access.csv", filename := "access.csv" } = .ok read ∧
        CarriesInformation accessReview read) ↔
      NothingToCarry twoRows [117, 115, 101, 114]
        (detectFileType twoRows "tenant-a/evidence/access.csv" [117, 115, 101, 114]) :=
  @extractSingleFile_carries_iff twoRows {} emptyBucket .empty "tenant-a/evidence/access.csv"
    _ _ accessReview accessReview.modelDump storedReview
    { storageKey := "tenant-a/evidence/access.csv", filename := "access.csv" }
    rfl processFile_accessReview rfl rfl rfl rfl

/-- The columns, the rows and the sheet of a delimited file are lost. -/
theorem extractSingleFile_loses_accessReview :
    processFile twoRows {} emptyBucket .empty "tenant-a/evidence/access.csv" =
        .ok { result := { success := true, fileKey := "tenant-a/evidence/access.csv"
                          metadata := some accessReview }
              stored := some accessReview.modelDump } ∧
      ∀ read, extractSingleFile storedReview
          { storageKey := "tenant-a/evidence/access.csv", filename := "access.csv" } = .ok read →
        read.columns = [] ∧ read.rowCount = 0 ∧ read.sheetNames = [] ∧
          ¬ CarriesInformation accessReview read := by
  refine ⟨processFile_accessReview, ?_⟩
  intro read extracted
  have readEq := @extractSingleFile_of_stored storedReview
    { storageKey := "tenant-a/evidence/access.csv", filename := "access.csv" } _ _ rfl
    (readMetadata_modelDump 0 _ accessReview)
  rw [readEq] at extracted
  cases extracted
  refine ⟨rfl, rfl, rfl, ?_⟩
  intro carried
  cases carried.sheetNames

end Onpremai.Preprocessor
