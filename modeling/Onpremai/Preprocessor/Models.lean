import Onpremai.Observer.Models

/-!
# Data model of the preprocessor

The metadata the preprocessor writes beside an uploaded file, and the document
it is stored as.
-/

namespace Onpremai.Preprocessor

open Onpremai.Library

abbrev Bytes := List UInt8

/-- Detected file types the preprocessor handles. -/
inductive FileType where
  | excel
  | csv
  | pdf
  | word
  | powerpoint
  | image
  | json
  | unknown
  deriving DecidableEq, Repr

def FileType.value : FileType → String
  | .excel => "excel"
  | .csv => "csv"
  | .pdf => "pdf"
  | .word => "word"
  | .powerpoint => "powerpoint"
  | .image => "image"
  | .json => "json"
  | .unknown => "unknown"

/-- Evidence classification based on content structure. -/
inductive EvidenceType where
  | structured
  | unstructured
  | mixed
  deriving DecidableEq, Repr

def EvidenceType.value : EvidenceType → String
  | .structured => "structured"
  | .unstructured => "unstructured"
  | .mixed => "mixed"

/-- Schema information for a single sheet in a structured file. -/
structure SheetSchema where
  name : String
  columns : List String := []
  rowCount : Nat := 0
  deriving DecidableEq, Repr

/-- A detected join possibility between two files. -/
structure JoinCandidate where
  otherFile : String
  joinColumn : String
  confidence : Rat
  deriving DecidableEq, Repr

/-- Structured error information when processing fails. -/
structure ProcessingError where
  errorType : String
  message : String
  recoverable : Bool := false
  deriving DecidableEq, Repr

/-- Complete metadata output for a processed file. -/
structure FileMetadata where
  filename : String
  fileKey : String
  fileType : FileType
  sizeBytes : Nat
  contentHash : String
  processedAt : String
  evidenceType : EvidenceType := .unstructured
  sheets : List SheetSchema := []
  joinCandidates : List JoinCandidate := []
  extractedText : String := ""
  pageCount : Nat := 0
  error : Option ProcessingError := none
  tenantId : String := ""
  deriving DecidableEq, Repr

/-- Result of processing a single file through the pipeline. -/
structure ProcessingResult where
  success : Bool
  fileKey : String
  metadata : Option FileMetadata := none
  skipped : Bool := false
  errorMessage : String := ""

/-- The stored form of a sheet. -/
def SheetSchema.modelDump (sheet : SheetSchema) : Json :=
  .obj [("name", .str sheet.name), ("columns", Json.strings sheet.columns),
    ("row_count", .num sheet.rowCount)]

def JoinCandidate.modelDump (candidate : JoinCandidate) : Json :=
  .obj [("other_file", .str candidate.otherFile),
    ("join_column", .str candidate.joinColumn), ("confidence", .num candidate.confidence)]

/-- The stored form of an error. -/
def ProcessingError.modelDump (error : ProcessingError) : Json :=
  .obj [("error_type", .str error.errorType), ("message", .str error.message),
    ("recoverable", .bool error.recoverable)]

/-- The document the metadata is stored as. -/
def FileMetadata.modelDump (metadata : FileMetadata) : Json := .obj
    [("filename", .str metadata.filename), ("file_key", .str metadata.fileKey),
     ("file_type", .str metadata.fileType.value),
     ("size_bytes", .num metadata.sizeBytes),
     ("content_hash", .str metadata.contentHash),
     ("processed_at", .str metadata.processedAt),
     ("evidence_type", .str metadata.evidenceType.value),
     ("sheets", .arr (metadata.sheets.map SheetSchema.modelDump)),
     ("join_candidates", .arr (metadata.joinCandidates.map JoinCandidate.modelDump)),
     ("extracted_text", .str metadata.extractedText),
     ("page_count", .num metadata.pageCount),
     ("error", match metadata.error with
       | none => .null
       | some error => error.modelDump),
     ("tenant_id", .str metadata.tenantId)]

end Onpremai.Preprocessor

/-!
## Data model of the policy analysis

The knowledge graph of a policy document, the mappings of its obligations to controls, and the
testing criteria that are generated from them.  `Value` is the type of decoded values that the
records carry along.
-/

namespace Onpremai.Preprocessor

open Onpremai.Library

/-- A structural section parsed from a policy document. -/
structure PolicySection where
  sectionId : String
  heading : String
  content : String
  deriving DecidableEq, Repr

/-- A node in the policy knowledge graph. -/
structure PolicyEntity (Value : Type) where
  id : String
  entityType : String
  label : String
  properties : List (String × Value) := []
  sectionId : String := ""
  sourceText : String := ""

/-- An edge in the policy knowledge graph. -/
structure PolicyRelationship (Value : Type) where
  sourceId : String
  targetId : String
  relationship : String
  properties : List (String × Value) := []

/-- Complete knowledge graph for a policy document. -/
structure PolicyGraph (Value : Type) where
  tenantId : String
  documentId : String
  documentName : String := ""
  nodes : List (PolicyEntity Value) := []
  edges : List (PolicyRelationship Value) := []

/-- Maps a policy obligation to a compliance framework control. -/
structure ControlMapping where
  obligationId : String
  framework : String
  controlId : String
  confidence : Observer.FloatValue := .finite (9 / 10)
  sourceSection : String := ""
  deriving DecidableEq, Repr

/-- A testing criterion generated from policy analysis. -/
structure GeneratedCriterion (Value : Type) where
  id : String
  category : String
  question : String
  evidenceType : String
  passCondition : String
  failCondition : String
  weight : Rat := 1 / 10
  checkType : Option String := none
  checkParams : List (String × Value) := []
  policySource : String := ""
  status : String := "candidate"

/-- Where a criterion comes from. -/
structure Provenance where
  document : String
  policySection : String
  page : String
  deriving DecidableEq, Repr

/-- Complete testing criteria for one control, generated from policy analysis. -/
structure GeneratedTestingCriteria (Value : Type) where
  controlId : String
  framework : String
  tenantId : String
  controlObjective : String
  criteria : List (GeneratedCriterion Value) := []
  derivedFrom : List Provenance := []
  status : String := "candidate"

/-- `criterion.model_dump(mode="json")`. -/
def GeneratedCriterion.modelDump (criterion : GeneratedCriterion Json) : Json := .obj
    [("id", .str criterion.id), ("category", .str criterion.category),
     ("question", .str criterion.question),
     ("evidence_type", .str criterion.evidenceType),
     ("pass_condition", .str criterion.passCondition),
     ("fail_condition", .str criterion.failCondition),
     ("weight", .num criterion.weight),
     ("check_type", (criterion.checkType.map Json.str).getD .null),
     ("check_params", .obj criterion.checkParams),
     ("policy_source", .str criterion.policySource),
     ("status", .str criterion.status)]

def Provenance.modelDump (provenance : Provenance) : Json := .obj
    [("document", .str provenance.document), ("section", .str provenance.policySection),
     ("page", .str provenance.page)]

/-- `criteria.model_dump(mode="json")`. -/
def GeneratedTestingCriteria.modelDump (criteria : GeneratedTestingCriteria Json) : Json := .obj
    [("control_id", .str criteria.controlId), ("framework", .str criteria.framework),
     ("tenant_id", .str criteria.tenantId),
     ("control_objective", .str criteria.controlObjective),
     ("criteria", .arr (criteria.criteria.map GeneratedCriterion.modelDump)),
     ("derived_from", .arr (criteria.derivedFrom.map Provenance.modelDump)),
     ("status", .str criteria.status)]

end Onpremai.Preprocessor
