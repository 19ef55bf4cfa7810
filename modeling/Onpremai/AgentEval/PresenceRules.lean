import Onpremai.AgentEval.RuleSupport

/-!
# Rules about what is there

The checks for files, for their age, for columns and for a number of rows.  Each looks at
all files before it decides.
-/

namespace Onpremai.AgentEval

open Onpremai.Library

section

variable (services : RuleServices) (criterion : Criterion)
  (evidenceMetadata : List EvidenceMetadata) (evidenceFiles : List EvidenceFile)

def extractNameHint (passCondition : String) : String :=
  let keywords := ["policy", "procedure", "access", "review", "termination", "monitoring",
    "audit", "log", "certificate", "report"]
  joinWith "|" ((keywords.filter fun keyword => Text.contains keyword passCondition).take 3)

/-- The file types that an evidence type stands for. -/
def typeMapping : List (String × List String) := [("document", ["pdf", "document", "text"]),
   ("structured_data", ["spreadsheet", "csv", "json"]),
   ("unstructured", ["pdf", "document", "text", "image"])]

def acceptableTypes (expectedType : String) : List String :=
  ((typeMapping.find? fun entry => decide (entry.1 = expectedType)).map Prod.snd).getD []

def hasPattern (namePattern : Json) (storageKey : String) : Except RaisedException Bool :=
  if isTruthy namePattern then
    match namePattern with
    | .str pattern => services.reSearch pattern (services.unicode.lower storageKey)
    | .arr _ => .error (unhashable namePattern)
    | .obj _ => .error (unhashable namePattern)
    | _ => .error (typeError "first argument must be string or compiled pattern")
  else .ok true

def isMatchingFile (types : List String) (namePattern : Json) (fileType storageKey : String) :
    Except RaisedException Bool :=
  if types = [] ∨ fileType ∈ types then hasPattern services namePattern storageKey else .ok false

/-- The keys of the files that meet the criterion. -/
def matchingFiles (types : List String) (namePattern : Json) (files : List (String × String)) :
    Except RaisedException (List String) := do
  let matching ← files.filterM fun file =>
    isMatchingFile services types namePattern file.1 file.2
  return matching.map Prod.snd

def existenceResult (expectedType : String) (namePattern : Json) (matching : List String) :
    CriterionResult :=
  if matching = [] then
    ruleResult criterion .fail .ruleFileExistence
      ("No file matching type '" ++ expectedType ++ "' found" ++
        (if isTruthy namePattern then
          " with pattern '" ++ textOf services namePattern ++ "'" else "")) []
  else
    ruleResult criterion .pass .ruleFileExistence
      ("Found " ++ toString matching.length ++ " matching file(s): " ++
        joinWithCommas (matching.take 3)) (matching.take 5)

def checkFileExistence : Except RaisedException CriterionResult := do
  let expectedType := services.unicode.lower criterion.evidenceType
  let passCondition := services.unicode.lower criterion.passCondition
  let named := paramOr criterion.checkParams "name_pattern" (.str "")
  let namePattern := if isTruthy named then named else .str (extractNameHint passCondition)
  let types := acceptableTypes expectedType
  let described ← matchingFiles services types namePattern
    (evidenceMetadata.map fun file => (file.fileType, file.storageKey))
  -- the files are looked at only where the metadata does not cover them
  let matching ← (if described = [] then
      matchingFiles services types namePattern
        (evidenceFiles.map fun file => (file.fileType, file.storageKey))
    else .ok described)
  return existenceResult services criterion expectedType namePattern matching

def extractMaxAge (passCondition : String) : Except RaisedException (Option Nat) :=
  let unicode := services.unicode
  let ageIn (unit : String) : Regex := .seq (.group (Regex.some1 (isDigit unicode)))
      (.seq spaces (.seq (spelled unit) (Regex.optional (spelled "s"))))
  let mentions (word : String) : Bool := Text.contains word passCondition
  match (ageIn "month").search passCondition.toList with
  | some digits => do
    let months ← intOf unicode digits
    return some (months * 30)
  | none =>
    match (ageIn "day").search passCondition.toList with
    | some digits => do
      let days ← intOf unicode digits
      return some days
    | none =>
      match (ageIn "year").search passCondition.toList with
      | some digits => do
        let years ← intOf unicode digits
        return some (years * 365)
      | none =>
        if mentions "annual" then .ok (some 365)
        else if mentions "quarterly" then .ok (some 90)
        else if mentions "monthly" then .ok (some 30)
        else .ok none

/-- The nearest integer, the even one of two. -/
def roundHalfEven (value : Rat) : Int :=
  let below := value.floor
  let rest := value - below
  if rest < 1 / 2 then below
  else if 1 / 2 < rest then below + 1
  else if below % 2 = 0 then below else below + 1

/-- `timedelta(days=days)` in microseconds. -/
def timedeltaDays : Json → Except RaisedException Int
  | .num days =>
    if days < -999999999 ∨ 1000000000 ≤ days then
      .error
        { typeName := "OverflowError"
          message := "days=" ++ toString days.floor ++
            "; must have magnitude <= 999999999" }
    else .ok (roundHalfEven (days * 86400000000))
  | .bool value => .ok (if value then 86400000000 else 0)
  | value => .error
      (typeError ("unsupported type for timedelta days component: " ++ typeName value))

/-- `now - timedelta(days=days)`. -/
def thresholdDate (days : Json) : Except RaisedException Timestamp := do
  let age ← timedeltaDays days
  if Datetime.IsDatetime (services.now - age) then return services.now - age
  else .error { typeName := "OverflowError", message := "date value out of range" }

def addFresh (threshold : Timestamp) (fresh : List String) (metadata : List EvidenceMetadata) :
    List String :=
  metadata.foldl (fun fresh file =>
    if threshold ≤ file.extractedAt ∧ file.storageKey ∉ fresh then fresh ++ [file.storageKey]
    else fresh) fresh

def freshnessResult (maxAgeDays : Json) (freshFiles staleFiles : List String) : CriterionResult :=
  if freshFiles = [] ∧ staleFiles = [] then
    needsJudgmentResult criterion "Cannot determine file dates for freshness check"
  else if staleFiles = [] then
    ruleResult criterion .pass .ruleFreshness
      ("All " ++ toString freshFiles.length ++ " file(s) updated within " ++
        textOf services maxAgeDays ++ " days") (freshFiles.take 5)
  else if freshFiles = [] then
    ruleResult criterion .fail .ruleFreshness
      (toString staleFiles.length ++ " file(s) exceed " ++ textOf services maxAgeDays ++
        "-day freshness threshold") (staleFiles.take 5)
  else
    needsJudgmentResult criterion (toString freshFiles.length ++ " fresh, " ++
      toString staleFiles.length ++ " stale - needs judgment on sufficiency")

def maxAgeOf : Except RaisedException (Option Json) :=
  match param? criterion.checkParams "max_age_days" with
  | some days => .ok (some days)
  | none => do
    let extracted ← extractMaxAge services (services.unicode.lower criterion.passCondition)
    return extracted.map fun days => Json.num days

def checkFreshness : Except RaisedException CriterionResult := do
  let maxAgeDays ← maxAgeOf services criterion
  match maxAgeDays with
  | none =>
    return needsJudgmentResult criterion
      "Cannot determine freshness threshold from criterion definition"
  | some days => do
    let threshold ← thresholdDate services days
    let isFresh (file : EvidenceFile) : Bool := decide (threshold ≤ file.lastModified)
    let freshFiles := (evidenceFiles.filter isFresh).map EvidenceFile.storageKey
    let staleFiles := (evidenceFiles.filter fun file => !isFresh file).map
      EvidenceFile.storageKey
    return freshnessResult services criterion days
      (addFresh threshold freshFiles evidenceMetadata) staleFiles

def extractRequiredColumns (passCondition : String) : List String :=
  let columnsPattern : Regex := .seq (spelled "column") (.seq (Regex.optional (spelled "s"))
      (.seq colonOrSpaces (.group (Regex.some1 fun char => char != '.'))))
  match columnsPattern.search passCondition.toList with
  | some raw =>
    let parts := (raw.splitOn ',').map fun part => Text.strip (String.ofList part)
    parts.filter fun part => decide (part ≠ "" ∧ part.length < 30)
  | none =>
    ["reviewer", "date", "outcome", "user", "action", "approval", "status",
      "timestamp"].filter fun field => Text.contains field passCondition

def filesWithColumns : List EvidenceMetadata :=
  evidenceMetadata.filter fun file => isStructured file.fileType && !file.columns.isEmpty

def allColumns : List String :=
  (filesWithColumns evidenceMetadata).flatMap fun file =>
    file.columns.map fun column => Text.strip (services.unicode.lower column)

/-- Is a required column among the existing ones, or part of the name of one? -/
def isPresent (existing : List String) (column : String) : Bool :=
  existing.any fun other => Text.contains column other

def requiredColumns : Json :=
  let listed := paramOr criterion.checkParams "required_columns" (.arr [])
  if isTruthy listed then listed
  else Json.strings (extractRequiredColumns (services.unicode.lower criterion.passCondition))

def schemaResult (required existing matching : List String) : CriterionResult :=
  let found := required.filter (isPresent existing)
  let missing := required.filter fun column => !isPresent existing column
  if missing = [] then
    ruleResult criterion .pass .ruleSchemaPresence
      ("All " ++ toString required.length ++ " required columns present: " ++
        joinWithCommas found) (matching.take 3)
  else if found = [] then
    ruleResult criterion .fail .ruleSchemaPresence
      ("Missing all required columns: " ++ joinWithCommas missing) (matching.take 3)
  else
    ruleResult criterion .fail .ruleSchemaPresence
      ("Missing columns: " ++ joinWithCommas missing ++ " (found: " ++
        joinWithCommas found ++ ")") (matching.take 3)

def checkSchemaPresence : Except RaisedException CriterionResult :=
  if !isTruthy (requiredColumns services criterion) then
    .ok (needsJudgmentResult criterion
      "Cannot determine required columns from criterion definition")
  else if allColumns services evidenceMetadata = [] then
    .ok (needsJudgmentResult criterion
      "No structured evidence with column information available")
  else do
    let lowered ← lowerItems services.unicode (requiredColumns services criterion)
    return schemaResult criterion (lowered.map Text.strip) (allColumns services evidenceMetadata)
      ((filesWithColumns evidenceMetadata).map EvidenceMetadata.storageKey)

def extractMinRows (passCondition : String) : Option Nat :=
  let unicode := services.unicode
  let rows : Regex := .group (.seq (.one (isDigit unicode))
    (.many fun char => isDigit unicode char || char == ','))
  let patterns : List Regex :=
    [.seq (spelled "min") (.seq (Regex.optional (spelled "imum")) (.seq colonOrSpaces rows)),
     .seq (spelled "at") (.seq spaces1 (.seq (spelled "least") (.seq spaces1 rows))),
     .seq (spelled ">") (.seq (Regex.optional (spelled "=")) (.seq spaces rows)),
     .seq rows (.seq spaces (Regex.oneOf (spelled "or more")
       [spelled "records", spelled "rows", spelled "entries"]))]
  let read (pattern : Regex) : Option Nat :=
    match pattern.search passCondition.toList with
    | none => none
    | some found =>
      match intOf unicode (found.filter fun char => char != ',') with
      | .ok value => some value
      | .error _ => none
  match patterns.findSome? read with
  | some value => some value
  | none =>
    if Text.contains "exist" passCondition || Text.contains "present" passCondition then some 1
    else none

def filesWithRows : List EvidenceMetadata :=
  evidenceMetadata.filter fun file => isStructured file.fileType && decide (0 < file.rowCount)

def checkRowCount : Except RaisedException CriterionResult := do
  let passCondition := services.unicode.lower criterion.passCondition
  let minRows := (param? criterion.checkParams "min_rows").getD
    (.num ((extractMinRows services passCondition).getD 1))
  let files := filesWithRows evidenceMetadata
  let totalRows : Int := (files.map EvidenceMetadata.rowCount).sum
  let matching := files.map EvidenceMetadata.storageKey
  if totalRows = 0 ∧ matching = [] then
    return ruleResult criterion .fail .ruleRowCount "No structured data records found" []
  else do
    let minimum ← numberOf (fun value =>
      "'>=' not supported between instances of 'int' and '" ++ typeName value ++ "'") minRows
    let minText ← groupedText services minRows
    let total := services.numberText .grouped totalRows
    if minimum ≤ totalRows then
      return ruleResult criterion .pass .ruleRowCount
        (total ++ " records found (minimum: " ++ minText ++ ")") (matching.take 3)
    else
      return ruleResult criterion .fail .ruleRowCount
        ("Only " ++ total ++ " records found (minimum required: " ++ minText ++ ")")
        (matching.take 3)

end

end Onpremai.AgentEval
