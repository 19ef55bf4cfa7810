import Onpremai.Observer.LogIngestor
import Onpremai.Preprocessor.Models

/-!
# Policy analysis

Three stages ask the LLM gateway about a policy document: the extraction of obligations from
its sections, the mapping of obligations to controls, and the generation of testing criteria.
Each decodes the answer and builds its records from the decoded document.
-/

namespace Onpremai.Preprocessor

open Onpremai.Library
open Onpremai.Observer (PyError FloatValue)

abbrev Document := Observer.LogValue

abbrev Decoders := Observer.LogDecoders

/-- Why a call of the gateway fails. -/
inductive LlmError where
  | unavailable
  | creditExhausted
  | unexpected
  deriving DecidableEq, Repr

/-- What a stage raises: the failure of its call, or an exception of its own. -/
inductive AnalysisError where
  | llm (error : LlmError)
  | raised (error : PyError)
  deriving DecidableEq, Repr

/-- The gateway, by the number of the call and the prompt. -/
abbrev LlmGateway := Nat → String → Except LlmError String

/-- The items a loop over a value visits. -/
def itemsOf : Document → Except PyError (List Document)
  | .arr items => .ok items
  | .obj fields => .ok (fields.map fun field => .str field.1)
  | .str text => .ok (text.toList.map fun char => .str (String.singleton char))
  | _ => .error .typeError

def entriesOf (document : Document) (field : String) : Except PyError (List Document) := do
  itemsOf (← document.get field (.arr []))

/-- `value[:count]`: a value that is no sequence has no slices. -/
def sliceTo (count : Nat) : Document → Except PyError Document
  | .str text => .ok (.str (Text.truncate count text))
  | .arr items => .ok (.arr (items.take count))
  | _ => .error .typeError

def validatedText : Document → Except PyError String
  | .str text => .ok text
  | _ => .error .valueError

/-- `value.lower().strip()`: a value that is no text has no `lower`. -/
def loweredText : Document → Except PyError String
  | .str text => .ok (Text.strip (Text.lower text))
  | _ => .error .attributeError

/-- The text without its outer spaces, where the value is a text that is not blank. -/
def namedText? : Document → Option String
  | .str text => if Text.strip text = "" then none else some (Text.strip text)
  | _ => none

/-- The lines of a text without those that open or close a code fence. -/
def dropFences (text : String) : String :=
  if Text.startsWith "```" text then
    Text.joinLines ((Text.lines text).filter fun line =>
      !Text.startsWith "```" (Text.strip line))
  else text

/-- The text from its first opening brace to its last closing one, where there are such. -/
def sliceObject (text : String) : String :=
  let chars := text.toList
  match chars.findIdx? fun char => char == '\x7b',
    chars.reverse.findIdx? fun char => char == '\x7d' with
  | some start, some fromEnd =>
    let stop := chars.length - fromEnd
    if start < stop then String.ofList ((chars.take stop).drop start) else text
  | _, _ => text

def parseResponse (decoders : Decoders) (empty : Document) (content : String) :
    Except PyError Document :=
  match decoders.loads (sliceObject (dropFences (Text.strip content))) with
  | .ok parsed => .ok parsed
  | .error .jsonDecodeError => .ok empty
  | .error error => .error error

/-! ## Graph extraction -/

/-- Maximum characters of a section that are sent in one call. -/
def maxSectionChars : Nat := 4000

/-- `text.rfind(needle)`. -/
def lastIndexOf? (needle : List Char) : List Char → Option Nat
  | [] => if needle.isEmpty then some 0 else none
  | char :: rest =>
    match lastIndexOf? needle rest with
    | some index => some (index + 1)
    | none => if needle.isPrefixOf (char :: rest) then some 0 else none

/-- Where a text that is too long is split: at a paragraph, else at a sentence, else at the
limit; a boundary in the first half of the window does not count. -/
def splitPoint (window : List Char) : Nat :=
  match (lastIndexOf? "\n\n".toList window).filter fun index => maxSectionChars / 2 ≤ index with
  | some index => index
  | none =>
    match (lastIndexOf? ". ".toList window).filter fun index =>
      maxSectionChars / 2 ≤ index with
    | some index => index
    | none => maxSectionChars

theorem length_stripChars_le (accept : Char → Bool) (text : List Char) :
    (Text.stripChars accept text).length ≤ text.length := by
  have shorter (chars : List Char) : (chars.dropWhile accept).length ≤ chars.length :=
    (List.dropWhile_sublist accept).length_le
  calc
    (Text.stripChars accept text).length
        = ((text.dropWhile accept).reverse.dropWhile accept).length := List.length_reverse
    _ ≤ (text.dropWhile accept).reverse.length := shorter _
    _ = (text.dropWhile accept).length := List.length_reverse
    _ ≤ text.length := shorter text

def splitRemaining (remaining : List Char) : List (List Char) :=
  if remaining.length ≤ maxSectionChars then
    if remaining.isEmpty then [] else [remaining]
  else
    let point := splitPoint (remaining.take maxSectionChars) + 1
    let chunk := Text.stripChars Text.isSpace (remaining.take point)
    (if chunk.isEmpty then [] else [chunk]) ++
      splitRemaining (Text.stripChars Text.isSpace (remaining.drop point))
termination_by remaining.length
decreasing_by
  have shorter := length_stripChars_le Text.isSpace
    (remaining.drop (splitPoint (remaining.take maxSectionChars) + 1))
  rw [List.length_drop] at shorter
  omega

def splitContent (content : String) : List String :=
  if content.toList.length ≤ maxSectionChars then [content]
  else (splitRemaining content.toList).map String.ofList

/-- A part of a section that is sent in one call. -/
structure Chunk where
  sectionId : String
  heading : String
  content : String
  deriving DecidableEq, Repr

def chunksOf (sections : List PolicySection) : List Chunk :=
  sections.flatMap fun part =>
    if Text.strip part.content = "" then []
    else (splitContent part.content).map fun content =>
      { sectionId := part.sectionId, heading := part.heading, content }

def extractionPrompt (sectionHeading documentName sectionContent : String) : String :=
  "Extract compliance obligations and entities from this policy section.\n\nSection: " ++
    sectionHeading ++ " (from " ++ documentName ++ ")\nContent:\n" ++ sectionContent ++
    "\n\nExtract:\n" ++
    "1. Obligations: statements with SHALL/MUST/REQUIRED " ++
    "(who must do what, with what threshold/frequency)\n" ++
    "2. Defined terms: capitalized terms with specific meaning\n" ++
    "3. Roles: who is responsible\n" ++
    "4. Thresholds: SLAs, frequencies, deadlines, numeric requirements\n" ++
    "5. Control references: any framework control IDs mentioned (CC6.1, A.9.2, etc.)\n\n" ++
    "Respond in JSON:\n" ++
    "\x7b\"obligations\": [\x7b\"text\": \"...\", \"subject\": \"...\", \"action\": \"...\", " ++
    "\"threshold\": \"...\", \"frequency\": \"...\"\x7d], " ++
    "\"terms\": [\x7b\"term\": \"...\", \"definition\": \"...\"\x7d], \"roles\": [\"...\"], " ++
    "\"thresholds\": [\x7b\"metric\": \"...\", \"value\": \"...\", \"unit\": \"...\"\x7d], " ++
    "\"control_refs\": [\"...\"]\x7d"

/-- Parse the answer of an extraction call. -/
def parseLlmResponse (decoders : Decoders) : String → Except PyError Document :=
  parseResponse decoders
    (.obj [("obligations", .arr []), ("terms", .arr []), ("roles", .arr []),
      ("thresholds", .arr []), ("control_refs", .arr [])])

/-- The lists of an extraction, in the order in which they are walked. -/
inductive EntryKind where
  | obligation
  | term
  | role
  | threshold
  | control
  deriving DecidableEq, Repr

namespace EntryKind

def all : List EntryKind := [.obligation, .term, .role, .threshold, .control]

/-- The field that holds the list. -/
def field : EntryKind → String
  | .obligation => "obligations"
  | .term => "terms"
  | .role => "roles"
  | .threshold => "thresholds"
  | .control => "control_refs"

end EntryKind

/-- Where an id is drawn: the call, the entity type of the node, and the list and the position
of its entry. -/
structure IdSite where
  call : Nat
  entityType : String
  kind : EntryKind
  position : Nat
  deriving DecidableEq, Repr

/-- A node before its validation. -/
structure RawNode where
  id : String
  entityType : String
  label : Document
  properties : List (String × Document) := []
  sectionId : String
  sourceText : Document := .str ""

/-- `PolicyEntity(**node)`. -/
def RawNode.validate (node : RawNode) : Except PyError (PolicyEntity Document) := do
  let label ← validatedText node.label
  let sourceText ← validatedText node.sourceText
  return { id := node.id, entityType := node.entityType, label, properties := node.properties
           sectionId := node.sectionId, sourceText }

/-- Nodes and edges of the graph. -/
structure GraphElements where
  nodes : List RawNode := []
  edges : List (PolicyRelationship Document) := []

def GraphElements.join (parts : List GraphElements) : GraphElements where
  nodes := parts.flatMap GraphElements.nodes
  edges := parts.flatMap GraphElements.edges

section

variable (decoders : Decoders) (uuid : IdSite → String) (call : Nat) (sectionId : String)

def obligationElements (obl : Document) (position : Nat) : Except PyError GraphElements := do
  let nodeId := uuid ⟨call, "obligation", .obligation, position⟩
  let label ← sliceTo 100 (← obl.get "text" (.str ""))
  let subject ← obl.get "subject" (.str "")
  let action ← obl.get "action" (.str "")
  let threshold ← obl.get "threshold" (.str "")
  let frequency ← obl.get "frequency" (.str "")
  let text ← obl.get "text" (.str "")
  let node : RawNode :=
    { id := nodeId, entityType := "obligation", label
      properties :=
        [("subject", subject), ("action", action), ("threshold", threshold),
         ("frequency", frequency), ("full_text", text)]
      sectionId, sourceText := text }
  if subject.truthy then
    let roleId := uuid ⟨call, "role", .obligation, position⟩
    return {
      nodes := [node, { id := roleId, entityType := "role", label := subject, sectionId }]
      edges := [{ sourceId := nodeId, targetId := roleId, relationship := "owned_by" }] }
  else return { nodes := [node] }

def termElements (termEntry : Document) (position : Nat) : Except PyError GraphElements := do
  let term ← termEntry.get "term" (.str "")
  let definition ← termEntry.get "definition" (.str "")
  return {
    nodes :=
      [{ id := uuid ⟨call, "term", .term, position⟩, entityType := "term", label := term
         properties := [("definition", definition)], sectionId, sourceText := definition }] }

def roleElements (roleName : Document) (position : Nat) : GraphElements :=
  match namedText? roleName with
  | some name =>
    { nodes :=
        [{ id := uuid ⟨call, "role", .role, position⟩, entityType := "role"
           label := .str name, sectionId }] }
  | none => {}

def thresholdElements (thresh : Document) (position : Nat) : Except PyError GraphElements := do
  let metric ← thresh.get "metric" (.str "")
  let value ← thresh.get "value" (.str "")
  let unit ← thresh.get "unit" (.str "")
  let label := Text.strip
    (decoders.strOf metric ++ " " ++ decoders.strOf value ++ " " ++ decoders.strOf unit)
  return {
    nodes :=
      [{ id := uuid ⟨call, "threshold", .threshold, position⟩, entityType := "threshold"
         label := .str label
         properties := [("metric", metric), ("value", value), ("unit", unit)], sectionId }] }

def controlElements (ctrlRef : Document) (position : Nat) : GraphElements :=
  match namedText? ctrlRef with
  | some name =>
    { nodes :=
        [{ id := uuid ⟨call, "control", .control, position⟩, entityType := "control"
           label := .str name, properties := [("control_id", .str name)], sectionId }] }
  | none => {}

/-- What the loop over a list makes of one of its entries. -/
def entryElements (kind : EntryKind) (entry : Document × Nat) : Except PyError GraphElements :=
  match kind with
  | .obligation => obligationElements uuid call sectionId entry.1 entry.2
  | .term => termElements uuid call sectionId entry.1 entry.2
  | .role => .ok (roleElements uuid call sectionId entry.1 entry.2)
  | .threshold => thresholdElements decoders uuid call sectionId entry.1 entry.2
  | .control => .ok (controlElements uuid call sectionId entry.1 entry.2)

/-- The loop over one of the lists. -/
def listElements (extracted : Document) (kind : EntryKind) : Except PyError GraphElements := do
  let entries ← entriesOf extracted kind.field
  let made ← entries.zipIdx.mapM (entryElements decoders uuid call sectionId kind)
  return .join made

/-- Convert extracted data into graph nodes and edges. -/
def buildGraphElements (extracted : Document) : Except PyError GraphElements := do
  let made ← EntryKind.all.mapM (listElements decoders uuid call sectionId extracted)
  return .join made

end

section

variable (decoders : Decoders) (uuid : IdSite → String) (complete : LlmGateway)
  (documentName : String)

def extractChunk (chunk : Chunk) (call : Nat) : Except AnalysisError Document := do
  let documentName := if documentName = "" then "Unknown Document" else documentName
  let prompt := extractionPrompt chunk.heading documentName chunk.content
  let content ← (complete call prompt).mapError .llm
  (parseLlmResponse decoders content).mapError .raised

def chunkElements (chunk : Chunk × Nat) : Except PyError GraphElements :=
  match extractChunk decoders complete documentName chunk.1 chunk.2 with
  | .ok extracted => buildGraphElements decoders uuid chunk.2 chunk.1.sectionId extracted
  | .error _ => .ok {}

def extractFromSections (sections : List PolicySection) (tenantId documentId : String) :
    Except PyError (PolicyGraph Document) := do
  let made ← (chunksOf sections).zipIdx.mapM (chunkElements decoders uuid complete documentName)
  let nodes ← (GraphElements.join made).nodes.mapM RawNode.validate
  return { tenantId, documentId, documentName, nodes, edges := (GraphElements.join made).edges }

end

/-- Number of obligations of one call. -/
def batchSize : Nat := 5

def batchesOf {α : Type} (obligations : List α) : List (List α) :=
  (List.range ((obligations.length + batchSize - 1) / batchSize)).map fun index =>
    (obligations.drop (batchSize * index)).take batchSize

def mappingPrompt (framework obligationsList : String) : String :=
  "Map these compliance obligations to " ++ framework ++ " framework controls.\n\n" ++
    "Obligations:\n" ++ obligationsList ++
    "\n\nFor each obligation, identify which " ++ framework ++ " control(s) it satisfies.\n" ++
    "Common controls for SOC2: CC6.1 (access control), CC6.2 (credentials), " ++
    "CC6.3 (encryption), CC6.6 (external threats), CC6.7 (data transmission), " ++
    "CC7.1 (monitoring), CC7.2 (anomaly detection), CC8.1 (change management), " ++
    "CC9.1 (risk mitigation).\n" ++
    "Common controls for ISO27001: A.5 (policies), A.6 (organization), A.7 (HR), " ++
    "A.8 (asset mgmt), A.9 (access control), A.10 (crypto), A.12 (operations), A.13 (comms), " ++
    "A.14 (acquisition), A.16 (incident), A.18 (compliance).\n\n" ++
    "Respond in JSON:\n" ++
    "\x7b\"mappings\": [\x7b\"obligation_index\": 0, \"control_ids\": [\"CC6.1\"], " ++
    "\"confidence\": 0.9\x7d]\x7d"

def parseMappingResponse (decoders : Decoders) : String → Except PyError Document :=
  parseResponse decoders (.obj [("mappings", .arr [])])

def obligationAt {α : Type} (batch : List α) : Document → Option α
  | .int index => if 0 ≤ index then batch[index.toNat]? else none
  | .bool index => batch[index.toNat]?
  | _ => none

/-- `min(max(value, 0.0), 1.0)`. -/
def clampConfidence : FloatValue → FloatValue
  | .finite value => .finite (min (max value 0) 1)
  | .infinite positive => .finite (if positive then 1 else 0)
  | .nan => .nan

section

variable (decoders : Decoders) (framework : String)

def controlMapping (obligation : PolicyEntity Document) (confidence ctrlId : Document) :
    Except PyError (List ControlMapping) :=
  match namedText? ctrlId with
  | some controlId => do
    let confidence ← decoders.floatOf confidence
    return [{ obligationId := obligation.id, framework, controlId
              confidence := clampConfidence confidence
              sourceSection := obligation.sectionId }]
  | none => .ok []

def entryMappings (batch : List (PolicyEntity Document)) (mappingEntry : Document) :
    Except PyError (List ControlMapping) := do
  let oblIndex ← mappingEntry.get "obligation_index" (.int (-1))
  let controlIds ← mappingEntry.get "control_ids" (.arr [])
  let confidence ← mappingEntry.get "confidence" (.float (.finite (8 / 10)))
  match obligationAt batch oblIndex with
  | none => return []
  | some obligation =>
    let made ← (← itemsOf controlIds).mapM
      (controlMapping decoders framework obligation confidence)
    return made.flatten

def buildMappings (batch : List (PolicyEntity Document)) (parsed : Document) :
    Except PyError (List ControlMapping) := do
  let entries ← entriesOf parsed "mappings"
  let made ← entries.mapM (entryMappings decoders framework batch)
  return made.flatten

def obligationLines (batch : List (PolicyEntity Document)) : String :=
  Text.joinLines (batch.zipIdx.map fun obligation =>
    "[" ++ toString obligation.2 ++ "] " ++ obligation.1.label)

variable (complete : LlmGateway)

def askMapping (batch : List (PolicyEntity Document)) (call : Nat) :
    Except AnalysisError Document := do
  let content ← (complete call (mappingPrompt framework (obligationLines batch))).mapError .llm
  (parseMappingResponse decoders content).mapError .raised

def mapBatch (batch : List (PolicyEntity Document)) (call : Nat) :
    Except AnalysisError (List ControlMapping) := do
  let parsed ← askMapping decoders framework complete batch call
  (buildMappings decoders framework batch parsed).mapError .raised

/-- The mappings of a batch that are added to the result: every exception is caught. -/
def batchMappings (batch : List (PolicyEntity Document) × Nat) : List ControlMapping :=
  match mapBatch decoders framework complete batch.1 batch.2 with
  | .ok mappings => mappings
  | .error _ => []

def mapObligations (obligations : List (PolicyEntity Document)) : List ControlMapping :=
  (batchesOf obligations).zipIdx.flatMap (batchMappings decoders framework complete)

end

def criteriaPrompt (controlId framework controlObjective obligationsText : String) : String :=
  "Generate testing criteria for control " ++ controlId ++ " (" ++ framework ++
    ") based on these policy obligations.\n\n" ++
    "Control objective: " ++ controlObjective ++
    "\nOrganization" ++ String.singleton (Char.ofNat 39) ++
    "s policy obligations for this control:\n" ++ obligationsText ++
    "\n\nGenerate 4-6 testing criteria. For each criterion:\n" ++
    "- category: \"policy\" | \"procedure\" | \"implementation\" | \"monitoring\"\n" ++
    "- question: what to verify\n" ++
    "- evidence_type: \"document\" | \"structured_data\" | \"unstructured\"\n" ++
    "- pass_condition: specific, measurable, references policy thresholds\n" ++
    "- fail_condition: specific failure indicators\n" ++
    "- weight: 0.05-0.30 (must sum to ~1.0)\n" ++
    "- check_type: \"file_existence\" | \"freshness\" | \"keyword_presence\" | \"row_count\" | " ++
    "\"null_rate\" | \"cross_reference\" | \"quantitative\" (for deterministic Layer 1 checks)" ++
    "\n\nRespond in JSON matching this schema:\n" ++
    "\x7b\"control_id\": \"" ++ controlId ++ "\", \"framework\": \"" ++ framework ++
    "\", \"control_objective\": \"...\", \"criteria\": [\x7b\"id\": \"unique-id\", " ++
    "\"category\": \"...\", \"question\": \"...\", \"evidence_type\": \"...\", " ++
    "\"pass_condition\": \"...\", \"fail_condition\": \"...\", \"weight\": 0.2, " ++
    "\"check_type\": \"...\"\x7d], \"scoring\": \x7b\"compliant\": \"score >= 0.85\", " ++
    "\"partially_compliant\": \"0.60-0.84\", \"non_compliant\": \"< 0.60\"\x7d\x7d"

/-- Parse the answer of a generation call. -/
def parseCriteriaResponse (decoders : Decoders) : String → Except PyError Document :=
  parseResponse decoders (.obj [("criteria", .arr [])])

def validateCategory (category : Document) : Except PyError String := do
  let cat ← loweredText category
  return if cat ∈ ["policy", "procedure", "implementation", "monitoring"] then cat
    else "implementation"

def validateEvidenceType (evidenceType : Document) : Except PyError String := do
  let et ← loweredText evidenceType
  return if et ∈ ["document", "structured_data", "unstructured"] then et else "document"

/-- `max(0.05, min(0.30, value))`. -/
def clampFloat : FloatValue → Rat
  | .finite value => max (5 / 100) (min (30 / 100) value)
  | .infinite positive => if positive then 30 / 100 else 5 / 100
  | .nan => 30 / 100

def clampWeight (decoders : Decoders) (weight : Document) : Except PyError Rat :=
  match decoders.floatOf weight with
  | .ok value => .ok (clampFloat value)
  | .error .typeError => .ok (2 / 10)
  | .error .valueError => .ok (2 / 10)
  | .error error => .error error

/-- `round(value, 3)`, in exact arithmetic: a half goes to the even neighbour. -/
def roundThousandths (value : Rat) : Rat :=
  let scaled := value * 1000
  let rest := scaled - scaled.floor
  let rounded :=
    if rest < 1 / 2 then scaled.floor
    else if 1 / 2 < rest then scaled.floor + 1
    else if scaled.floor % 2 = 0 then scaled.floor else scaled.floor + 1
  rounded / 1000

def normalizeWeights (criteria : List (GeneratedCriterion Document)) :
    List (GeneratedCriterion Document) :=
  let total := (criteria.map GeneratedCriterion.weight).foldl (· + ·) 0
  if total ≤ 0 then
    criteria.map fun criterion =>
      { criterion with weight := roundThousandths (1 / criteria.length) }
  else if 5 / 100 < total - 1 ∨ 5 / 100 < 1 - total then
    criteria.map fun criterion =>
      { criterion with weight := roundThousandths (criterion.weight / total) }
  else criteria

/-- A validated field that is a text or `None`. -/
def validatedOptionalText : Document → Except PyError (Option String)
  | .null => .ok none
  | .str text => .ok (some text)
  | _ => .error .valueError

def validatedDict : Document → Except PyError (List (String × Document))
  | .obj fields => .ok fields
  | _ => .error .valueError

def criterionOf (decoders : Decoders) (uuid : Nat → String) (entry : Document × Nat) :
    Except PyError (GeneratedCriterion Document) := do
  let raw := entry.1
  let id ← raw.get "id" (.str (uuid entry.2))
  let category ← validateCategory (← raw.get "category" (.str "implementation"))
  let question ← raw.get "question" (.str "")
  let evidenceType ← validateEvidenceType (← raw.get "evidence_type" (.str "document"))
  let passCondition ← raw.get "pass_condition" (.str "")
  let failCondition ← raw.get "fail_condition" (.str "")
  let weight ← clampWeight decoders (← raw.get "weight" (.float (.finite (2 / 10))))
  let checkType ← raw.get "check_type" .null
  let checkParams ← raw.get "check_params" (.obj [])
  let policySource ← raw.get "policy_source" (.str "")
  -- the validation of the record
  return {
    id := ← validatedText id
    category
    question := ← validatedText question
    evidenceType
    passCondition := ← validatedText passCondition
    failCondition := ← validatedText failCondition
    weight
    checkType := ← validatedOptionalText checkType
    checkParams := ← validatedDict checkParams
    policySource := ← validatedText policySource }

/-- What a generation call is about. -/
structure GenerationTask where
  controlId : String
  framework : String
  obligations : List (PolicyEntity Document)
  tenantId : String
  controlObjective : String := ""

namespace GenerationTask

variable (decoders : Decoders) (uuid : Nat → String) (task : GenerationTask)

def objective : String :=
  if task.controlObjective = "" then
    "Ensure compliance with " ++ task.framework ++ " control " ++ task.controlId
  else task.controlObjective

def obligationsText : String :=
  if task.obligations.isEmpty then "No specific obligations provided."
  else Text.joinLines (task.obligations.map fun obligation => "- " ++ obligation.label)

def buildCriteria (parsed : Document) : Except PyError (GeneratedTestingCriteria Document) := do
  let rawCriteria ← entriesOf parsed "criteria"
  let criteriaList ← rawCriteria.zipIdx.mapM (criterionOf decoders uuid)
  let controlObjective ← parsed.get "control_objective" (.str task.objective)
  return {
    controlId := task.controlId
    framework := task.framework
    tenantId := task.tenantId
    controlObjective := ← validatedText controlObjective
    criteria := normalizeWeights criteriaList
    derivedFrom := task.obligations.map fun obligation =>
      { document := "", policySection := obligation.sectionId, page := "" }
    status := "candidate" }

def generateForControl (complete : String → Except LlmError String) :
    Except AnalysisError (GeneratedTestingCriteria Document) := do
  let content ← (complete (criteriaPrompt task.controlId task.framework task.objective
    task.obligationsText)).mapError .llm
  let parsed ← (parseCriteriaResponse decoders content).mapError .raised
  (task.buildCriteria decoders uuid parsed).mapError .raised

end GenerationTask

end Onpremai.Preprocessor
