import Mathlib.Data.List.Sort
import Mathlib.Data.String.Basic
import Onpremai.AgentEval.Tribunal

/-!
# Routing and evidence discovery

The router keeps an intent that is already set.  Discovery lists the tenant's
evidence, hashes it and looks the hash up among the stored evaluations.  A run
without evidence leaves discovery with an error message instead of files.
-/

namespace Onpremai.AgentEval

open Onpremai.Library

/-- A request to evaluate one control. -/
structure EvalRequest where
  controlId : String
  framework : String
  tenantId : String
  bypassCache : Bool := false
  traceId : String := ""

def routerNode (classifyMessage : String → String) (state : EvalGraphState) : EvalGraphState :=
  match truthy? state.intent with
  | some intent => { intent := some intent }
  | none =>
    match truthy? state.chatMessage with
    | none => { intent := some "evaluate" }
    | some message => { intent := some (classifyMessage message) }

/-- The order in which a set of keys is walked: every key once. -/
structure SetOrder where
  list : List String → List String
  mem_list : ∀ keys key, key ∈ list keys ↔ key ∈ keys
  nodup_list : ∀ keys, (list keys).Nodup

/-- What discovery asks of its surroundings. -/
structure DiscoveryServices where
  listObjects : String → Except PyError (List String)
  setOrder : SetOrder
  now : String → Timestamp
  isoformat : Timestamp → String
  sha256Hex : String → String
  evalRecall : Except PyError (List Json)
  validateResult : Json → Option EvalResult

def tenantPrefix (tenantId key : String) : String :=
  Text.stripSlashes tenantId ++ "/" ++ Text.lstrip ['/'] key

def detectFileType (filename : String) : String :=
  let lower := Text.lower filename
  let endsIn (extensions : List String) : Bool :=
    extensions.any fun ending => Text.endsWith ending lower
  if endsIn [".xlsx", ".xls"] then "spreadsheet"
  else if endsIn [".csv"] then "csv"
  else if endsIn [".pdf"] then "pdf"
  else if endsIn [".doc", ".docx"] then "document"
  else if endsIn [".png", ".jpg", ".jpeg", ".gif"] then "image"
  else if endsIn [".ppt", ".pptx"] then "presentation"
  else if endsIn [".json"] then "json"
  else if endsIn [".txt", ".md"] then "text"
  else "unknown"

def isEvidenceKey (key : String) : Bool :=
  !(Text.endsWith "/" key || Text.endsWith "metadata.json" key)

section Discovery

variable (services : DiscoveryServices)

def evidenceFileOf (key : String) : EvidenceFile where
  storageKey := key
  filename := Text.afterLastSlash key
  fileType := detectFileType (Text.afterLastSlash key)
  lastModified := services.now key

def computeEvidenceHash (evidenceFiles : List EvidenceFile) : String :=
  let sorted := evidenceFiles.insertionSort fun first second =>
    first.storageKey ≤ second.storageKey
  services.sha256Hex (String.join (sorted.map fun file =>
    file.storageKey ++ services.isoformat file.lastModified ++ toString file.sizeBytes))

def checkEvidenceCache (currentHash : String) : Except PyError (Option EvalResult) := do
  let previousEvals ← services.evalRecall
  match previousEvals with
  | [] => return none
  | prev :: _ =>
    let prevHash ← getField prev "evidence_hash" (.str "")
    if prevHash.isString currentHash then
      let stored ← getField prev "result" prev
      return (services.validateResult stored).map fun result => { result with cached := true }
    else return none

def discoverFiles (tenantId framework controlId : String) :
    Except PyError (List EvidenceFile) := do
  let specificKeys ← services.listObjects
    (tenantPrefix tenantId ("evidence/" ++ framework ++ "/" ++ controlId ++ "/"))
  let generalKeys ← services.listObjects (tenantPrefix tenantId "evidence/")
  let allKeys := services.setOrder.list (specificKeys ++ generalKeys)
  return (allKeys.filter isEvidenceKey).map (evidenceFileOf services)

/-- The cached evaluation a request accepts. -/
def lookUpCache (state : EvalGraphState) (currentHash : String) :
    Except PyError (Option EvalResult) :=
  if state.bypassCache.getD false then .ok none
  else checkEvidenceCache services currentHash

def discoveryNode (elapsedMs : Rat) (state : EvalGraphState) :
    Except PyError EvalGraphState := do
  let evidenceFiles ← discoverFiles services (state.tenantId.getD "")
    (state.framework.getD "") (state.controlId.getD "")
  if evidenceFiles = [] then
    return { evidenceFiles := some [], evidenceHash := some ""
             error := some (some "No evidence files found for this control")
             timing := some (some { discoveryMs := elapsedMs }) }
  else
    let evidenceHash := computeEvidenceHash services evidenceFiles
    let cached ← lookUpCache services state evidenceHash
    -- without a cached result the key stays out of the update
    return { evidenceFiles := some evidenceFiles, evidenceHash := some evidenceHash
             cachedResult := cached.map some
             timing := some (some { discoveryMs := elapsedMs }) }

end Discovery

end Onpremai.AgentEval
