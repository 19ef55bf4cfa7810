import Onpremai.AgentEval.RuleSupport

/-!
# Rules about what the files say

The checks of null rates, of metrics, of keywords and of cross references.  Three of them
return at the first file that has something to say; the keywords are searched in the
joined texts of all files.
-/

namespace Onpremai.AgentEval

open Onpremai.Library

/-- What a rule compares with: a parameter of the criterion, or a number that it reads from
the pass condition. -/
inductive Threshold where
  | given (value : Json)
  | read (value : FloatValue)

section

variable (services : RuleServices) (criterion : Criterion)
  (evidenceMetadata : List EvidenceMetadata)

def extractNullThreshold (passCondition : String) : Option FloatValue :=
  let percentage : Regex :=
    .seq (.group (numberPattern services.unicode)) (.seq spaces (spelled "%"))
  (percentage.search passCondition.toList).map fun digits =>
    match floatOfDigits services.unicode digits with
    | .finite pct => .finite (if 1 < pct then pct / 100 else pct)
    | pct => pct

def extractTargetColumns (passCondition : String) : List String :=
  let named : Regex := .seq (.group (Regex.some1 services.unicode.isWord))
    (.seq spaces1 (Regex.oneOf (spelled "column") [spelled "field"]))
  (named.findAll passCondition.toList).map String.ofList

/-- The first rate of a column whose name is the given one or contains it; a rate that
is `None` counts as none. -/
def matchedRate (fields : List (String × Json)) (colLower : String) : Option Json :=
  match fields.find? fun field => Text.contains colLower (services.unicode.lower field.1) with
  | none => none
  | some (_, .null) => none
  | some (_, rate) => some rate

/-- What was found about the columns so far. -/
structure NullRateAcc where
  violations : List String := []
  passes : List String := []

/-- `value.items()` and `value.keys()`. -/
def fieldsOf (name : String) : Json → Except RaisedException (List (String × Json))
  | .obj fields => .ok fields
  | value => .error (attributeError value name)

/-- `1.0 - rate`. -/
def populatedRate (rate : Json) : Except RaisedException Rat := do
  let number ← numberOf (fun value =>
    "unsupported operand type(s) for -: 'float' and '" ++ typeName value ++ "'") rate
  let nullRate ← toFloat number
  return 1 - nullRate

def minimumOf : Threshold → Except RaisedException FloatValue
  | .given value => do
    let number ← numberOf (fun value =>
      "'>=' not supported between instances of 'float' and '" ++ typeName value ++ "'") value
    return .finite number
  | .read value => .ok value

/-- `f"{minimum*100:.0f}"`. -/
def percentageText : FloatValue → Except RaisedException String
  | .finite minimum => do
    let percentage ← toFloat (minimum * 100)
    return services.numberText (.fixed 0) percentage
  | minimum => .ok (floatText services minimum)

def checkColumn (nullRates : Json) (minPopulated : Threshold) (acc : NullRateAcc)
    (column : Json) : Except RaisedException NullRateAcc := do
  let colLower ← lowerOf services.unicode column
  let fields ← fieldsOf "items" nullRates
  match matchedRate services fields colLower with
  | none => return acc
  | some rate => do
    let populated ← populatedRate rate
    let minimum ← minimumOf minPopulated
    let entry := textOf services column ++ ": " ++
      services.numberText (.fixed 1) (populated * 100) ++ "% populated"
    if minimum.le (.finite populated) then return { acc with passes := acc.passes ++ [entry] }
    else do
      let percentage ← percentageText services minimum
      return { acc with
        violations := acc.violations ++ [entry ++ " (need " ++ percentage ++ "%)"] }

def columnsToCheck (nullRates targetColumns : Json) : Except RaisedException (List Json) :=
  if isTruthy targetColumns then itemsOf targetColumns
  else do
    let fields ← fieldsOf "keys" nullRates
    return fields.map fun field => Json.str field.1

def evaluateNullRates (nullRates targetColumns : Json) (minPopulated : Threshold)
    (storageKey : String) : Except RaisedException CriterionResult := do
  let columns ← columnsToCheck nullRates targetColumns
  let acc ← columns.foldlM (checkColumn services nullRates minPopulated) {}
  if acc.violations ≠ [] then
    return ruleResult criterion .fail .ruleNullRate
      ("Columns below threshold: " ++ joinWith "; " acc.violations) [storageKey]
  else if acc.passes ≠ [] then
    return ruleResult criterion .pass .ruleNullRate
      ("All checked columns meet threshold: " ++ joinWith "; " acc.passes) [storageKey]
  else
    return needsJudgmentResult criterion "Target columns not found in null rate statistics"

def minPopulatedOf : Threshold :=
  match param? criterion.checkParams "min_populated_rate" with
  | some value => .given value
  | none => .read ((extractNullThreshold services
      (services.unicode.lower criterion.passCondition)).getD (.finite (95 / 100)))

def targetColumnsOf : Json :=
  let listed := paramOr criterion.checkParams "columns" (.arr [])
  if isTruthy listed then listed
  else Json.strings (extractTargetColumns services
    (services.unicode.lower criterion.passCondition))

def nullRateOutcome (file : EvidenceMetadata) : Except RaisedException (Option CriterionResult) :=
  if !isStructured file.fileType then .ok none
  else
    let nullRates := paramOr file.schemaInfo "null_rates" (.obj [])
    if isTruthy nullRates then do
      let result ← evaluateNullRates services criterion nullRates
        (targetColumnsOf services criterion) (minPopulatedOf services criterion)
        file.storageKey
      return some result
    else if 0 < file.rowCount ∧ file.columns ≠ [] then
      .ok (some (needsJudgmentResult criterion
        "Structured data exists but null rate statistics not available in metadata"))
    else .ok none

/-- Check if key columns meet the minimum populated percentage. -/
def checkNullRate : Except RaisedException CriterionResult := do
  let outcome ← evidenceMetadata.findSomeM? (nullRateOutcome services criterion)
  match outcome with
  | some result => return result
  | none =>
    return needsJudgmentResult criterion
      "No structured evidence with null rate statistics available"

/-! ## Quantitative -/

/-- Compare an actual value against a threshold; an unknown operator is `<=`, and a list or
a dictionary cannot be looked up among the operators. -/
def compare (actual : FloatValue) (operator : Json) (threshold : FloatValue) :
    Except RaisedException Bool :=
  match operator with
  | .arr items => .error (unhashable (.arr items))
  | .obj fields => .error (unhashable (.obj fields))
  | _ =>
    .ok (if operator.isString ">=" then threshold.le actual
      else if operator.isString "<" then actual.lt threshold
      else if operator.isString ">" then threshold.lt actual
      else if operator.isString "==" then actual.near threshold
      else actual.le threshold)

def extractThreshold (passCondition : String) : Option FloatValue :=
  let unicode := services.unicode
  let number : Regex := .group (numberPattern unicode)
  firstNumber unicode
    [.seq (spelled "max") (.seq spaces1 number), .seq (spelled "within") (.seq spaces1 number),
     .seq (Regex.oneOf (.seq (spelled "<") (Regex.optional (spelled "=")))
        [.seq (spelled ">") (Regex.optional (spelled "="))]) (.seq spaces number),
     .seq (spelled "threshold") (.seq colonOrSpaces number),
     .seq number (.seq spaces (Regex.oneOf
       (.seq (spelled "hour") (Regex.optional (spelled "s")))
       [.seq (spelled "day") (Regex.optional (spelled "s")),
        .seq (spelled "h") (.boundary unicode.isWord)]))] passCondition

/-- A value that is `None` counts as none. -/
def notNone : Json → Option Json
  | .null => none
  | value => some value

def fuzzyFindMetric (name : Json) (metrics : List (String × Json)) :
    Except RaisedException (Option Json) := do
  let nameLower ← lowerOf services.unicode name
  let close (field : String × Json) : Bool :=
    let keyLower := services.unicode.lower field.1
    Text.contains nameLower keyLower || Text.contains keyLower nameLower
  return (metrics.find? close).bind fun field => notNone field.2

def metricKeywords : List (List String) :=
  [["sla", "time", "duration", "hours", "latency"], ["rate", "percentage", "ratio"],
   ["count", "total", "number"], ["max", "maximum", "peak"], ["avg", "average", "mean"]]

def inferMetricValue (passCondition : String) (metrics : List (String × Json)) : Option Json :=
  let mentionedIn (text : String) (keywords : List String) : Bool :=
    keywords.any fun keyword => Text.contains keyword text
  let found := metricKeywords.findSome? fun keywords =>
    if mentionedIn passCondition keywords then
      metrics.find? fun field => mentionedIn (services.unicode.lower field.1) keywords
    else none
  found.bind fun field => notNone field.2

/-- `metrics.get(name)`. -/
def lookUpMetric (name : Json) (metrics : List (String × Json)) :
    Except RaisedException (Option Json) :=
  match name with
  | .str text => .ok ((Json.field? text metrics).bind notNone)
  | .arr _ => .error (unhashable name)
  | .obj _ => .error (unhashable name)
  | _ => .ok none

def mergeMetrics (schemaInfo : Json) : Except RaisedException (List (String × Json)) := do
  let mapping (key : String) : Except RaisedException (List (String × Json)) :=
    match paramOr schemaInfo key (.obj []) with
    | .obj fields => .ok fields
    | value => .error (typeError ("'" ++ typeName value ++ "' object is not a mapping"))
  let metrics ← mapping "metrics"
  let computedStats ← mapping "computed_stats"
  let summary ← mapping "summary"
  return (Dict.ofList (metrics ++ computedStats ++ summary)).entries

def actualMetric (metrics : List (String × Json)) : Except RaisedException (Option Json) :=
  let metricName := paramOr criterion.checkParams "metric_name" (.str "")
  if isTruthy metricName then do
    let direct ← lookUpMetric metricName metrics
    match direct with
    | some value => return some value
    | none => fuzzyFindMetric services metricName metrics
  else .ok (inferMetricValue services (services.unicode.lower criterion.passCondition) metrics)

def thresholdOf : Option Threshold :=
  match param? criterion.checkParams "threshold_value" with
  | some value => some (.given value)
  | none => (extractThreshold services (services.unicode.lower criterion.passCondition)).map
      .read

/-- `float(value)` in a block that skips values of another form; a number beyond the
floats raises. -/
def floatOrSkip : Json → Except RaisedException (Option FloatValue)
  | .num value => do
    let number ← toFloat value
    return some (.finite number)
  | .bool value => .ok (some (.finite (if value then 1 else 0)))
  | .str text => .ok (services.floatOfText text)
  | _ => .ok none

def thresholdNumber : Threshold → Except RaisedException (Option FloatValue)
  | .given value => floatOrSkip services value
  | .read value => .ok (some value)

def metricResult (actual threshold : FloatValue) (storageKey : String) :
    Except RaisedException CriterionResult := do
  let metricName := paramOr criterion.checkParams "metric_name" (.str "")
  let operator := paramOr criterion.checkParams "operator" (.str "<=")
  let name := if isTruthy metricName then textOf services metricName else "value"
  let text := floatText services
  let passes ← compare actual operator threshold
  if passes then
    return ruleResult criterion .pass .ruleQuantitative
      ("Metric " ++ name ++ ": " ++ text actual ++ " " ++ textOf services operator ++ " " ++
        text threshold ++ " (threshold met)") [storageKey]
  else
    return ruleResult criterion .fail .ruleQuantitative
      ("Metric " ++ name ++ ": " ++ text actual ++ " does not meet threshold " ++
        textOf services operator ++ " " ++ text threshold) [storageKey]

def metricOutcome (file : EvidenceMetadata) :
    Except RaisedException (Option CriterionResult) := do
  let allMetrics ← mergeMetrics file.schemaInfo
  if allMetrics = [] then return none
  else do
    let actual ← actualMetric services criterion allMetrics
    match actual, thresholdOf services criterion with
    | some actualValue, some thresholdValue => do
      let actualNumber ← floatOrSkip services actualValue
      match actualNumber with
      | none => return none
      | some actualNum => do
        let thresholdNumber ← thresholdNumber services thresholdValue
        match thresholdNumber with
        | none => return none
        | some thresholdNum => do
          let result ← metricResult services criterion actualNum thresholdNum
            file.storageKey
          return some result
    | _, _ => return none

def checkQuantitative : Except RaisedException CriterionResult := do
  let outcome ← evidenceMetadata.findSomeM? (metricOutcome services criterion)
  match outcome with
  | some result => return result
  | none =>
    if evidenceMetadata.any fun file =>
        isStructured file.fileType && decide (0 < file.rowCount) then
      return needsJudgmentResult criterion
        "Structured data exists but pre-computed metrics not available; needs code execution"
    else
      return needsJudgmentResult criterion
        "No quantitative data available for threshold check"

def sameIgnoringCase (letter char : Char) : Bool :=
  char.toLower == letter || (letter == 's' && char.toNat == 0x17f) ||
    (letter == 'i' && (char.toNat == 0x130 || char.toNat == 0x131)) ||
      (letter == 'k' && char.toNat == 0x212a)

def spelledIgnoringCase (text : String) : Regex :=
  Regex.sequence (text.toList.map fun letter => .one (sameIgnoringCase letter))

/-- The quotes that keywords stand between. -/
def isQuote (char : Char) : Bool := char.toNat == 34 || char.toNat == 39

def extractKeywords (passCondition : String) : List String :=
  let quotedTerm : Regex := .seq (.one isQuote)
    (.seq (.group (Regex.some1 fun char => !isQuote char)) (.one isQuote))
  let notNewline (char : Char) : Bool := char != '\n'
  let covers : Regex := .seq (Regex.oneOf (spelledIgnoringCase "covers")
        [spelledIgnoringCase "mentions", spelledIgnoringCase "includes",
          spelledIgnoringCase "addresses", spelledIgnoringCase "contains"])
      (.seq spaces1 (.seq (.group (.seq (.one notNewline) (.manyLazy notNewline)))
        (Regex.oneOf (spelled ".") [.atEnd])))
  let separator : Regex := Regex.oneOf (.seq (spelled ",") spaces)
    [.seq spaces1 (.seq (spelled "and") spaces1)]
  let quoted := (quotedTerm.findAll passCondition.toList).map String.ofList
  let items := ((covers.search passCondition.toList).map fun text =>
    (separator.splitOn text).map fun item => Text.strip (String.ofList item)).getD []
  let keywords := items.foldl (fun keywords item =>
    if 2 < item.length ∧ item ∉ keywords then keywords ++ [item] else keywords) quoted
  if keywords = [] then
    ["provisioning", "de-provisioning", "least privilege", "review cadence", "periodic review",
      "access control", "multi-factor", "mfa", "encryption", "audit trail",
      "segregation of duties", "change management", "incident response", "backup", "recovery",
      "monitoring", "logging"].filter fun term =>
        Text.contains term (services.unicode.lower passCondition)
  else keywords

def requiredKeywords : Json :=
  let listed := paramOr criterion.checkParams "keywords" (.arr [])
  if isTruthy listed then listed
  else Json.strings (extractKeywords services criterion.passCondition)

def filesWithText : List EvidenceMetadata :=
  evidenceMetadata.filter fun file => decide (file.textContent ≠ "")

def textsOf : List String := (filesWithText evidenceMetadata).map EvidenceMetadata.textContent

/-- The texts of all files, each after a space. -/
def joinTexts (texts : List String) : String := texts.foldl (fun all text => all ++ " " ++ text) ""

def hasKeyword (text keyword : String) : Bool :=
  if keyword.toList.contains ' ' then Text.contains keyword text
  else ((Regex.wholeWord services.unicode.isWord keyword.toList).searchFrom none
    text.toList).isSome

def keywordResult (found missing evidenceUsed : List String) : CriterionResult :=
  let total := found.length + missing.length
  if missing = [] then
    ruleResult criterion .pass .ruleKeywordPresence
      ("All " ++ toString total ++ " required terms found: " ++ joinWithCommas found)
      evidenceUsed
  else if found = [] then
    ruleResult criterion .fail .ruleKeywordPresence
      ("None of " ++ toString total ++ " required terms found. Missing: " ++
        joinWithCommas missing) evidenceUsed
  else
    { needsJudgmentResult criterion
        ("Found " ++ toString found.length ++ "/" ++ toString total ++ " terms. Missing: " ++
          joinWithCommas missing ++
            ". LLM to check if concepts are covered by synonyms.") with
      evidenceUsed := evidenceUsed }

def searchKeywords (allTextLower : String) (evidenceUsed : List String) :
    Except RaisedException CriterionResult := do
  let keywords ← itemsOf (requiredKeywords services criterion)
  let lowered ← keywords.mapM (lowerOf services.unicode)
  let searched := keywords.zip (lowered.map (hasKeyword services allTextLower))
  let found := (searched.filter fun entry => entry.2).map fun entry => textOf services entry.1
  let missing := (searched.filter fun entry => !entry.2).map fun entry => textOf services entry.1
  return keywordResult criterion found missing evidenceUsed

def checkKeywordPresence : Except RaisedException CriterionResult :=
  if !isTruthy (requiredKeywords services criterion) then
    .ok (needsJudgmentResult criterion
      "Cannot extract required keywords from criterion definition")
  else if Text.strip (joinTexts (textsOf evidenceMetadata)) = "" then
    .ok (needsJudgmentResult criterion
      "No text content available in evidence for keyword search")
  else
    searchKeywords services criterion
      (services.unicode.lower (joinTexts (textsOf evidenceMetadata)))
      (((filesWithText evidenceMetadata).map EvidenceMetadata.storageKey).take 3)

def structuredFiles : List EvidenceMetadata :=
  evidenceMetadata.filter fun file => isStructured file.fileType && !file.columns.isEmpty

def checkJoinabilityByColumn (files : List EvidenceMetadata) (joinColumn : Json) :
    Except RaisedException Bool := do
  let joinLower ← lowerOf services.unicode joinColumn
  let withColumn := files.filter fun file =>
    file.columns.any fun column => Text.contains joinLower (services.unicode.lower column)
  return decide (2 ≤ withColumn.length)

def shareColumn (first second : EvidenceMetadata) : Bool :=
  let generic := ["id", "date", "timestamp", "created_at", "updated_at", "type", "status"]
  let lower := services.unicode.lower
  let common := (first.columns.map lower).filter fun column =>
    decide (column ∈ second.columns.map lower)
  let meaningful := common.filter fun column => decide (column ∉ generic)
  !meaningful.isEmpty || !common.isEmpty

/-- Auto-detect if files share common columns that could be a join key. -/
def checkJoinabilityAuto : List EvidenceMetadata → Bool
  | [] => false
  | file :: rest => rest.any (shareColumn services file) || checkJoinabilityAuto rest

/-- `value == 0`. -/
def isZero : Json → Bool
  | .num value => decide (value = 0)
  | .bool value => !value
  | _ => false

def crossReferenceOutcome (evidenceUsed : List String) (file : EvidenceMetadata) :
    Except RaisedException (Option CriterionResult) :=
  match param? file.schemaInfo "cross_reference_results" with
  | none => .ok none
  | some xrefResults => do
    let fields ← fieldsOf "get" xrefResults
    let violations := paramOr (.obj fields) "violations" (.num 0)
    let checked ← groupedText services (paramOr (.obj fields) "total_checked" (.num 0))
    if isZero violations then
      return some (ruleResult criterion .pass .ruleCrossReference
        ("0 violations found across " ++ checked ++ " cross-referenced records") evidenceUsed)
    else
      return some (ruleResult criterion .fail .ruleCrossReference
        (textOf services violations ++ " violation(s) found in " ++ checked ++
          " cross-referenced records") evidenceUsed)

def isJoinable (files : List EvidenceMetadata) : Except RaisedException Bool :=
  let joinColumn := paramOr criterion.checkParams "join_column" (.str "")
  if isTruthy joinColumn then checkJoinabilityByColumn services files joinColumn
  else .ok (checkJoinabilityAuto services files)

def checkCrossReference : Except RaisedException CriterionResult :=
  let files := structuredFiles evidenceMetadata
  if files.length = 0 then
    .ok (ruleResult criterion .fail .ruleCrossReference
      "No structured datasets available for cross-reference" [])
  else if files.length < 2 then
    .ok (needsJudgmentResult criterion
      "Only one structured dataset found; need at least two for cross-reference")
  else do
    let joinable ← isJoinable services criterion files
    if joinable then do
      let evidenceUsed := (files.map EvidenceMetadata.storageKey).take 3
      let outcome ← files.findSomeM? (crossReferenceOutcome services criterion evidenceUsed)
      match outcome with
      | some result => return result
      | none =>
        return { needsJudgmentResult criterion
          "Datasets joinable but cross-reference requires code execution" with
            evidenceUsed := evidenceUsed }
    else
      return needsJudgmentResult criterion
        "Datasets exist but cannot determine join compatibility from metadata alone"

end

end Onpremai.AgentEval
