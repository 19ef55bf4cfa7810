import Onpremai.AgentEval.Evaluation

/-!
# Sandboxed analysis of structured data

The sandbox node asks the LLM for analysis code and runs it; the fixer node asks
for a corrected version when the first one failed.  Neither guards the LLM call.
-/

namespace Onpremai.AgentEval

open Onpremai.Library

/-- Result from sandbox code execution. -/
structure ExecutionResult where
  success : Bool
  stdout : String := ""
  stderr : String := ""

/-- What the two nodes ask of their surroundings: code for a task over some files,
a correction of code that failed, and the execution of code on named files. -/
structure SandboxServices where
  generateCode : String → String → Except PyError String
  fixCode : String → String → Except PyError String
  execute : String → Dict String String → Except PyError ExecutionResult

def isStructured (fileType : String) : Bool :=
  fileType = "spreadsheet" || fileType = "csv" || fileType = "json"

/-- `", ".join(parts)`. -/
def joinWithCommas (parts : List String) : String :=
  String.ofList (List.intercalate [',', ' '] (parts.map String.toList))

def buildTaskDescription (state : EvalGraphState) : String :=
  let needsJudgment := state.needsJudgment.getD []
  let questions : List String :=
    match state.criteria? with
    | none => []
    | some testingCriteria =>
      (testingCriteria.criteria.filter fun criterion =>
        decide (criterion.id ∈ needsJudgment) &&
          decide (criterion.evidenceType = "structured_data")).map fun criterion =>
        "- " ++ criterion.question ++ " (pass condition: " ++ criterion.passCondition ++ ")"
  Text.joinLines
    (("Analyze data for control " ++ state.controlId.getD "" ++ " (" ++
      state.framework.getD "" ++ ").") :: questions)

/-- Describe available data files for the code generation prompt. -/
def describeFiles (evidenceMetadata : List EvidenceMetadata) : String :=
  Text.joinLines ((evidenceMetadata.filter fun file => isStructured file.fileType).map
    fun file =>
      "- " ++ Text.afterLastSlash file.storageKey ++ " (" ++ file.fileType ++ ")" ++
        (if file.columns = [] then ""
          else "\n  Columns: " ++ joinWithCommas (file.columns.take 20)) ++
        (if file.rowCount = 0 then "" else "\n  Rows: " ++ toString file.rowCount))

/-- `content[count:]`. -/
def dropChars (count : Nat) (content : String) : String := String.ofList (content.toList.drop count)

/-- Extract code from an LLM response, handling markdown fences. -/
def extractCode (content : String) : String :=
  let content := Text.strip content
  let content :=
    if Text.startsWith "```python" content then Text.strip (dropChars 9 content)
    else if Text.startsWith "```" content then Text.strip (dropChars 3 content)
    else content
  if Text.endsWith "```" content then
    Text.strip (Text.truncate (content.length - 3) content)
  else content

def sandboxFiles (evidenceMetadata : List EvidenceMetadata) : Dict String String :=
  Dict.ofList ((evidenceMetadata.filter fun file => isStructured file.fileType).map
    fun file => (Text.afterLastSlash file.storageKey, file.storageKey))

def sandboxTiming (existing : Option TimingStats) (elapsedMs : Rat) : TimingStats :=
  match existing with
  | none => { sandboxMs := elapsedMs }
  | some timing =>
    { discoveryMs := timing.discoveryMs, extractionMs := timing.extractionMs
      layer1Ms := timing.layer1Ms, layer2Ms := timing.layer2Ms
      layer3Ms := timing.layer3Ms, sandboxMs := elapsedMs }

def sandboxStats (existing : Option LayerStats) : LayerStats :=
  match existing with
  | none => { sandboxCalls := 1 }
  | some stats =>
    { layer1Resolved := stats.layer1Resolved, layer2Resolved := stats.layer2Resolved
      totalCriteria := stats.totalCriteria, llmCalls := stats.llmCalls
      sandboxCalls := 1 }

def sandboxNode (services : SandboxServices) (elapsedMs : Rat) (state : EvalGraphState) :
    Except PyError EvalGraphState :=
  let evidenceMetadata := state.evidenceMetadata.getD []
  let fileDescriptions := describeFiles evidenceMetadata
  if fileDescriptions = "" then .ok { sandboxOutput := some "", sandboxCode := some "" }
  else do
    let content ← services.generateCode (buildTaskDescription state) fileDescriptions
    let code := extractCode content
    let result ← services.execute code (sandboxFiles evidenceMetadata)
    return { sandboxCode := some code
             sandboxOutput := some (if result.success then result.stdout else result.stderr)
             sandboxRetries := some (state.sandboxRetries.getD 0)
             timing := some (some (sandboxTiming state.timing? elapsedMs))
             layerStats := some (some (sandboxStats state.layerStats?)) }

def codeFixerNode (services : SandboxServices) (settings : EvalSettings)
    (state : EvalGraphState) : Except PyError EvalGraphState :=
  let sandboxOutput := state.sandboxOutput.getD ""
  let sandboxRetries := state.sandboxRetries.getD 0
  if settings.maxSandboxRetries ≤ sandboxRetries then
    .ok { sandboxOutput := some ("Max retries (" ++ toString settings.maxSandboxRetries ++
            ") exceeded. Last error: " ++ Text.truncate 500 sandboxOutput)
          sandboxRetries := some sandboxRetries }
  else do
    let content ← services.fixCode (state.sandboxCode.getD "")
      (Text.truncate 2000 sandboxOutput)
    let fixedCode := extractCode content
    let result ← services.execute fixedCode (sandboxFiles (state.evidenceMetadata.getD []))
    return { sandboxCode := some fixedCode
             sandboxOutput := some (if result.success then result.stdout else result.stderr)
             sandboxRetries := some (sandboxRetries + 1) }

end Onpremai.AgentEval
