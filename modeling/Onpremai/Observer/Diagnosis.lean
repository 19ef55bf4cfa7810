import Mathlib.Tactic.NormNum
import Onpremai.Library.ByteLines
import Onpremai.Library.Except
import Onpremai.Library.Machine
import Onpremai.Library.Pairing
import Onpremai.Observer.Models

/-!
# Diagnosis engine

Every issue is sent to the LLM gateway while the budget of the cycle lasts, and the answer is read
as a diagnosis.  An issue without a readable answer is left out of the list of diagnoses.
-/

namespace Onpremai.Observer

open Onpremai.Library

/-- Decoding functions of the runtime: JSON documents, numbers written in a string, and
the text of a decoded value that is no string. -/
structure Decoders where
  loads : String → Except PyError Json
  floatOfString : String → Option FloatValue
  reprOf : Json → String

/-- An issue with what its diagnosis meets: the id that is drawn for the diagnosis, and
the body that the gateway answers; none where the call fails. -/
structure DiagnosisCall where
  issue : DetectedIssue
  diagnosisId : String
  answer : Option Json

/-- `value.get(key, default)`: a value that is no dictionary has no `get`. -/
def getField (value : Json) (key : String) (default : Json) : Except PyError Json :=
  match value with
  | .obj fields => .ok ((Json.field? key fields).getD default)
  | _ => .error .attributeError

/-- The least number that rounds to no finite float. -/
def floatLimit : Rat := ((Nat.pow 2 1024 - Nat.pow 2 970 : Nat) : Rat)

/-- `str(value)`. -/
def strOf (decoders : Decoders) : Json → String
  | .str text => text
  | value => decoders.reprOf value

/-- `float(value)`. -/
def floatOf (decoders : Decoders) : Json → Except PyError FloatValue
  | .num value =>
    if floatLimit ≤ value ∨ value ≤ -floatLimit then .error .overflowError
    else .ok (.finite value)
  | .bool value => .ok (.finite (if value then 1 else 0))
  | .str text =>
    match decoders.floatOfString text with
    | some value => .ok value
    | none => .error .valueError
  | _ => .error .typeError

/-- The cost that is added to the spend of the cycle. -/
def costOf : Json → Except PyError Rat
  | .num value =>
    if floatLimit ≤ value ∨ value ≤ -floatLimit then .error .overflowError else .ok value
  | .bool value => .ok (if value then 1 else 0)
  | _ => .error .typeError

/-- Estimate the cost of a single diagnosis call, with a safety margin. -/
def estimateCost : Rat := (3700 / 1000 * (15 / 1000) + 500 / 1000 * (75 / 1000)) * (6 / 5)

def remainingBudget (settings : ObserverSettings) (cycleSpend : Rat) : Rat :=
  max 0 (settings.observerBudgetPerCycleUsd - cycleSpend)

def fencedLines : Bool → List String → List String
  | _, [] => []
  | false, line :: rest =>
    if Text.startsWith "```" line then fencedLines true rest else fencedLines false rest
  | true, line :: rest =>
    if Text.startsWith "```" line then [] else line :: fencedLines true rest

/-- Take the document out of a markdown code block. -/
def unfence (responseContent : String) : String :=
  let content := Text.strip responseContent
  if Text.startsWith "```" content then
    Text.joinLines (fencedLines false (Text.lines content))
  else content

def diagnosisOfFields (decoders : Decoders) (call : DiagnosisCall) (responseContent : String)
    (cost : Rat) (data : Json) : Except PyError Diagnosis := do
  let rootCause ← getField data "root_cause" (.str "")
  let fixType ← getField data "fix_type" (.str "")
  let fixDescription ← getField data "fix_description" (.str "")
  let confidence ← getField data "confidence" (.num 0)
  let confidence ← floatOf decoders confidence
  return {
    id := call.diagnosisId
    issueId := call.issue.id
    rootCause := strOf decoders rootCause
    fixType := strOf decoders fixType
    fixDescription := strOf decoders fixDescription
    confidence
    costUsd := cost
    rawResponse := responseContent }

/-- The exceptions that the parser catches. -/
def isParseFailure : PyError → Bool
  | .jsonDecodeError => true
  | .valueError => true
  | .typeError => true
  | _ => false

def parseDiagnosisResponse (decoders : Decoders) (call : DiagnosisCall)
    (responseContent : Json) (cost : Rat) : Except PyError (Option Diagnosis) :=
  match responseContent with
  | .str text =>
    match (decoders.loads (unfence text)).bind
        (diagnosisOfFields decoders call text cost) with
    | .ok diagnosis => .ok (some diagnosis)
    | .error error => if isParseFailure error then .ok none else .error error
  | _ => .error .attributeError

def diagnose (decoders : Decoders) (settings : ObserverSettings) (cycleSpend : Rat)
    (call : DiagnosisCall) : Except PyError (Option Diagnosis × Rat) :=
  if remainingBudget settings cycleSpend < estimateCost then .ok (none, cycleSpend)
  else
    match call.answer with
    | none => .ok (none, cycleSpend)
    | some responseData => do
      let actualCost ← getField responseData "cost_usd" (.num estimateCost)
      let actualCost ← costOf actualCost
      let responseContent ← getField responseData "content" (.str "")
      let diagnosis ← parseDiagnosisResponse decoders call responseContent actualCost
      return (diagnosis, cycleSpend + actualCost)

def diagnoseFrom (decoders : Decoders) (settings : ObserverSettings) :
    Rat → List DiagnosisCall → Except PyError (List Diagnosis)
  | _, [] => .ok []
  | cycleSpend, call :: rest =>
    if remainingBudget settings cycleSpend ≤ 0 then
      diagnoseFrom decoders settings cycleSpend rest
    else do
      let diagnosed ← diagnose decoders settings cycleSpend call
      let later ← diagnoseFrom decoders settings diagnosed.2 rest
      return diagnosed.1.toList ++ later

/-- Diagnose a batch of issues, respecting budget limits. -/
def diagnoseBatch (decoders : Decoders) (settings : ObserverSettings)
    (calls : List DiagnosisCall) : Except PyError (List Diagnosis) :=
  diagnoseFrom decoders settings 0 calls

/-! ## The pattern of successes and failures -/

/-- What became of each issue, up to an exception that leaves the batch. -/
def attemptsFrom (decoders : Decoders) (settings : ObserverSettings) :
    Rat → List DiagnosisCall → List (DetectedIssue × Option Diagnosis) × Bool
  | _, [] => ([], false)
  | cycleSpend, call :: rest =>
    if remainingBudget settings cycleSpend ≤ 0 then
      let later := attemptsFrom decoders settings cycleSpend rest
      ((call.issue, none) :: later.1, later.2)
    else
      match diagnose decoders settings cycleSpend call with
      | .error _ => ([], true)
      | .ok diagnosed =>
        let later := attemptsFrom decoders settings diagnosed.2 rest
        ((call.issue, diagnosed.1) :: later.1, later.2)

/-- What became of each issue of a cycle. -/
def attempts (decoders : Decoders) (settings : ObserverSettings)
    (calls : List DiagnosisCall) : List (DetectedIssue × Option Diagnosis) :=
  (attemptsFrom decoders settings 0 calls).1

/-- An exception left the batch. -/
def raisesInBatch (decoders : Decoders) (settings : ObserverSettings)
    (calls : List DiagnosisCall) : Bool :=
  (attemptsFrom decoders settings 0 calls).2

section

variable {decoders : Decoders} {settings : ObserverSettings}

theorem diagnoseFrom_eq (cycleSpend : Rat) (calls : List DiagnosisCall) :
    (∃ error, diagnoseFrom decoders settings cycleSpend calls = .error error) ∧
        (attemptsFrom decoders settings cycleSpend calls).2 = true ∨
      diagnoseFrom decoders settings cycleSpend calls =
          .ok (results (attemptsFrom decoders settings cycleSpend calls).1) ∧
        (attemptsFrom decoders settings cycleSpend calls).2 = false ∧
        (attemptsFrom decoders settings cycleSpend calls).1.map Prod.fst =
          calls.map DiagnosisCall.issue := by
  induction calls generalizing cycleSpend with
  | nil => exact .inr ⟨rfl, rfl, rfl⟩
  | cons call rest ih =>
    rw [diagnoseFrom, attemptsFrom]
    split
    · rcases ih cycleSpend with ⟨raised, marked⟩ | ⟨returned, marked, issues⟩
      · exact .inl ⟨raised, marked⟩
      · exact .inr ⟨returned, marked, congrArg (call.issue :: ·) issues⟩
    · cases diagnose decoders settings cycleSpend call with
      | error error => exact .inl ⟨⟨error, rfl⟩, rfl⟩
      | ok diagnosed =>
        rcases ih diagnosed.2 with ⟨⟨error, raised⟩, marked⟩ | ⟨returned, marked, issues⟩
        · refine .inl ⟨⟨error, ?_⟩, marked⟩
          simp [bind, Except.bind, raised]
        · refine .inr ⟨?_, marked, congrArg (call.issue :: ·) issues⟩
          rcases diagnosed with ⟨_ | diagnosis, spend⟩
          · simp only [bind, Except.bind, returned]
            rfl
          · simp only [bind, Except.bind, returned]
            rfl

theorem diagnosisOfFields_issueId {call : DiagnosisCall} {text : String} {cost : Rat}
    {data : Json} {diagnosis : Diagnosis}
    (read : diagnosisOfFields decoders call text cost data = .ok diagnosis) :
    diagnosis.issueId = call.issue.id := by
  simp only [diagnosisOfFields, bind_eq_ok] at read
  rcases read with ⟨_, _, _, _, _, _, _, _, _, _, made⟩
  cases made
  rfl

theorem parseDiagnosisResponse_issueId {call : DiagnosisCall} {content : Json} {cost : Rat}
    {diagnosis : Diagnosis}
    (parsed : parseDiagnosisResponse decoders call content cost = .ok (some diagnosis)) :
    diagnosis.issueId = call.issue.id := by
  cases content with
  | str text =>
    rw [parseDiagnosisResponse] at parsed
    cases decoded : (decoders.loads (unfence text)).bind
        (diagnosisOfFields decoders call text cost) with
    | error error =>
      rw [decoded] at parsed
      dsimp only at parsed
      split at parsed
      · cases parsed
      · cases parsed
    | ok found =>
      rw [decoded] at parsed
      cases parsed
      rcases bind_eq_ok.mp decoded with ⟨data, -, read⟩
      exact diagnosisOfFields_issueId read
  | null => cases parsed
  | bool value => cases parsed
  | num value => cases parsed
  | arr items => cases parsed
  | obj fields => cases parsed

theorem diagnose_issueId {cycleSpend spend : Rat} {call : DiagnosisCall}
    {diagnosis : Diagnosis}
    (diagnosed : diagnose decoders settings cycleSpend call = .ok (some diagnosis, spend)) :
    diagnosis.issueId = call.issue.id := by
  rw [diagnose] at diagnosed
  split at diagnosed
  · cases diagnosed
  · cases answered : call.answer with
    | none =>
      rw [answered] at diagnosed
      cases diagnosed
    | some responseData =>
      simp only [answered, bind_eq_ok] at diagnosed
      rcases diagnosed with ⟨_, _, _, _, _, _, found, parsed, made⟩
      cases made
      exact parseDiagnosisResponse_issueId parsed

theorem attemptsFrom_issueId (cycleSpend : Rat) (calls : List DiagnosisCall) :
    ∀ pair ∈ ownPairs (attemptsFrom decoders settings cycleSpend calls).1,
      pair.1.issueId = pair.2.id := by
  induction calls generalizing cycleSpend with
  | nil => exact nofun
  | cons call rest ih =>
    rw [attemptsFrom]
    split
    · exact ih cycleSpend
    · cases diagnosed : diagnose decoders settings cycleSpend call with
      | error error => exact nofun
      | ok found =>
        rcases found with ⟨_ | diagnosis, spend⟩
        · exact ih spend
        · intro pair member
          rcases List.mem_cons.mp member with here | later
          · rw [here]
            exact diagnose_issueId diagnosed
          · exact ih spend pair later

end

/-! ## The calls of a cycle

What the diagnosis of an issue gives does not depend on the spend, which only decides whether
the gateway is asked at all. -/

def actualCost (responseData : Json) : Except PyError Rat :=
  (getField responseData "cost_usd" (.num estimateCost)).bind costOf

def spendAfter (settings : ObserverSettings) (cycleSpend : Rat) (call : DiagnosisCall) : Rat :=
  if remainingBudget settings cycleSpend < estimateCost then cycleSpend
  else
    match call.answer.map actualCost with
    | some (.ok cost) => cycleSpend + cost
    | _ => cycleSpend

/-- The issues that the gateway is asked about. -/
def askedFrom (settings : ObserverSettings) : Rat → List DiagnosisCall → List DiagnosisCall
  | _, [] => []
  | cycleSpend, call :: rest =>
    let later := askedFrom settings (spendAfter settings cycleSpend call) rest
    if remainingBudget settings cycleSpend < estimateCost then later else call :: later

/-- The document in a text: the text without the spaces around it, or the lines of its
first fenced block where it opens with a fence. -/
inductive Document (text : String) : String → Prop where
  | bare : Text.startsWith "```" (Text.strip text) = false → Document text (Text.strip text)
  | fenced {opening : String} {block rest : List String} :
      Text.startsWith "```" (Text.strip text) = true →
      Text.lines (Text.strip text) = opening :: (block ++ rest) →
      (∀ line ∈ block, Text.startsWith "```" line = false) →
      (∀ line ∈ rest.head?, Text.startsWith "```" line = true) →
      Document text (Text.joinLines block)

def confidenceField (fields : List (String × Json)) : Json :=
  (Json.field? "confidence" fields).getD (.num 0)

def HasDocument (meets : String → Prop) (answer : List (String × Json)) : Prop :=
  ∃ text document, (Json.field? "content" answer).getD (.str "") = .str text ∧
    Document text document ∧ meets document

/-- A diagnosis: an object whose confidence is a number. -/
def WellFormedDocument (decoders : Decoders) (document : String) : Prop :=
  ∃ fields value, decoders.loads document = .ok (.obj fields) ∧
    floatOf decoders (confidenceField fields) = .ok value

def WellFormed (decoders : Decoders) (call : DiagnosisCall) : Prop :=
  ∃ answer, call.answer = some (.obj answer) ∧ HasDocument (WellFormedDocument decoders) answer

def ReadableDocument (decoders : Decoders) (document : String) : Prop :=
  match decoders.loads document with
  | .error error => isParseFailure error = true
  | .ok (.obj fields) => floatOf decoders (confidenceField fields) ≠ .error .overflowError
  | .ok _ => False

def Readable (decoders : Decoders) (call : DiagnosisCall) : Prop :=
  call.answer = none ∨ ∃ answer, call.answer = some (.obj answer) ∧
    Returns (costOf ((Json.field? "cost_usd" answer).getD (.num estimateCost))) ∧
    HasDocument (ReadableDocument decoders) answer

/-- The cycle returns, with a diagnosis of every answer that contains one, and its spend
passes the budget at most by the cost of one call that was made. -/
structure DiagnosesWell (decoders : Decoders) (settings : ObserverSettings)
    (calls : List DiagnosisCall) : Prop where
  returned : Returns (diagnoseBatch decoders settings calls)
  yields : ∀ diagnoses, diagnoseBatch decoders settings calls = .ok diagnoses →
    ∃ diagnosed : DiagnosisCall → Option Diagnosis,
      diagnoses = (askedFrom settings 0 calls).filterMap diagnosed ∧
      ∀ call ∈ askedFrom settings 0 calls, ((diagnosed call).isSome ↔ WellFormed decoders call) ∧
        ∀ diagnosis ∈ diagnosed call, diagnosis.issueId = call.issue.id
  bounded : ∀ earlier later, calls = earlier ++ later → ∃ excess : Rat,
    (excess = 0 ∨ ∃ call ∈ askedFrom settings 0 earlier, ∃ answer, call.answer = some answer ∧
      actualCost answer = .ok excess) ∧
      run (spendAfter settings) 0 earlier ≤ settings.observerBudgetPerCycleUsd + excess

section

variable {decoders : Decoders} {settings : ObserverSettings}

def diagnosisOf (decoders : Decoders) (call : DiagnosisCall) :
    Except PyError (Option Diagnosis) :=
  match call.answer with
  | none => .ok none
  | some responseData => do
    let cost ← actualCost responseData
    let responseContent ← getField responseData "content" (.str "")
    parseDiagnosisResponse decoders call responseContent cost

theorem estimateCost_pos : 0 < estimateCost := by norm_num [estimateCost]

theorem diagnose_of_asked {cycleSpend : Rat} {call : DiagnosisCall}
    (asked : ¬ remainingBudget settings cycleSpend < estimateCost) :
    diagnose decoders settings cycleSpend call =
      (diagnosisOf decoders call).map (·, spendAfter settings cycleSpend call) := by
  rw [diagnose, if_neg asked, spendAfter, if_neg asked, diagnosisOf]
  cases call.answer with
  | none => rfl
  | some responseData =>
    simp only [Option.map_some, actualCost, bind, Except.bind]
    cases getField responseData "cost_usd" (.num estimateCost) with
    | error error => rfl
    | ok value =>
      dsimp only
      cases costOf value with
      | error error => rfl
      | ok cost =>
        dsimp only
        cases getField responseData "content" (.str "") with
        | error error => rfl
        | ok content =>
          dsimp only
          cases parseDiagnosisResponse decoders call content cost with
          | error error => rfl
          | ok diagnosis => rfl

theorem diagnoseFrom_eq_mapM (cycleSpend : Rat) (calls : List DiagnosisCall) :
    diagnoseFrom decoders settings cycleSpend calls =
      ((askedFrom settings cycleSpend calls).mapM (diagnosisOf decoders)).map
        (List.filterMap id) := by
  induction calls generalizing cycleSpend with
  | nil => rfl
  | cons call rest ih =>
    rw [diagnoseFrom, askedFrom]
    by_cases short : remainingBudget settings cycleSpend < estimateCost
    · have kept : spendAfter settings cycleSpend call = cycleSpend := if_pos short
      rw [if_pos short, kept, ← ih]
      split
      · rfl
      · simp only [diagnose, if_pos short, bind, Except.bind]
        cases diagnoseFrom decoders settings cycleSpend rest <;> rfl
    · have some : ¬ remainingBudget settings cycleSpend ≤ 0 := fun none =>
        short (none.trans_lt estimateCost_pos)
      rw [if_neg short, if_neg some, diagnose_of_asked short, List.mapM_cons]
      cases diagnosisOf decoders call with
      | error error => rfl
      | ok diagnosis =>
        simp only [Except.map, bind, Except.bind, ih]
        cases (askedFrom settings (spendAfter settings cycleSpend call) rest).mapM
          (diagnosisOf decoders) with
        | error error => rfl
        | ok found => cases diagnosis <;> rfl

theorem returns_diagnoseBatch {calls : List DiagnosisCall} :
    Returns (diagnoseBatch decoders settings calls) ↔
      ∀ call ∈ askedFrom settings 0 calls, Returns (diagnosisOf decoders call) := by
  rw [diagnoseBatch, diagnoseFrom_eq_mapM, ← returns_mapM]
  exact returns_bind_pure

theorem forall_mem_askedFrom {allowed : DiagnosisCall → Prop} (cycleSpend : Rat)
    (calls : List DiagnosisCall) :
    (∀ call ∈ askedFrom settings cycleSpend calls, allowed call) ↔
      Allowed (spendAfter settings) (fun cycleSpend call =>
        estimateCost ≤ remainingBudget settings cycleSpend → allowed call) cycleSpend calls := by
  induction calls generalizing cycleSpend with
  | nil => simp [askedFrom, Allowed]
  | cons call rest ih =>
    rw [askedFrom, Allowed, ← ih, ← not_lt]
    by_cases short : remainingBudget settings cycleSpend < estimateCost
    · simp [short]
    · simp [short]

end

theorem fencedLines_block {block rest : List String}
    (inner : ∀ line ∈ block, Text.startsWith "```" line = false)
    (closed : ∀ line ∈ rest.head?, Text.startsWith "```" line = true) :
    fencedLines true (block ++ rest) = block := by
  induction block with
  | nil =>
    cases rest with
    | nil => rfl
    | cons closing rest => simp [fencedLines, closed closing rfl]
  | cons line block ih =>
    rw [List.forall_mem_cons] at inner
    simp [fencedLines, inner.1, ih inner.2]

theorem exists_block (lines : List String) : ∃ block rest, lines = block ++ rest ∧
    (∀ line ∈ block, Text.startsWith "```" line = false) ∧
      ∀ line ∈ rest.head?, Text.startsWith "```" line = true := by
  induction lines with
  | nil => exact ⟨[], [], rfl, nofun, nofun⟩
  | cons line lines ih =>
    cases fence : Text.startsWith "```" line with
    | true => exact ⟨[], line :: lines, rfl, nofun, by simpa using fence⟩
    | false =>
      rcases ih with ⟨block, rest, split, inner, closed⟩
      refine ⟨line :: block, rest, by rw [split, List.cons_append], ?_, closed⟩
      exact List.forall_mem_cons.mpr ⟨fence, inner⟩

theorem lines_of_startsWith {start text : String} (single : '\n' ∉ start.toList)
    (starts : Text.startsWith start text = true) :
    ∃ first rest, Text.lines text = first :: rest ∧ Text.startsWith start first = true := by
  rw [Text.startsWith, List.isPrefixOf_iff_prefix] at starts
  rcases starts with ⟨tail, whole⟩
  have inner : ∀ char ∈ start.toList, (char == '\n') = false := fun char member => by
    simpa using fun same : char = '\n' => single (same ▸ member)
  cases pieces : tail.splitOnP (· == '\n') with
  | nil => exact absurd pieces (List.splitOnP_ne_nil _ tail)
  | cons piece pieces' =>
    refine ⟨String.ofList (start.toList ++ piece), pieces'.map String.ofList, ?_, ?_⟩
    · rw [Text.lines, ← whole, List.splitOn, splitOnP_append_of_forall inner, pieces]
      rfl
    · simp [Text.startsWith]

theorem document_iff {text document : String} :
    Document text document ↔ document = unfence text := by
  rw [unfence]
  constructor
  · intro found
    cases found with
    | bare plain => simp [plain]
    | fenced opens split inner closed =>
      rcases lines_of_startsWith (by decide) opens with ⟨first, others, whole, fence⟩
      cases whole.symm.trans split
      rw [if_pos opens, whole, fencedLines, if_pos fence, fencedLines_block inner closed]
  · intro same
    cases opens : Text.startsWith "```" (Text.strip text) with
    | false =>
      rw [same, opens]
      exact .bare opens
    | true =>
      rcases lines_of_startsWith (by decide) opens with ⟨first, others, whole, fence⟩
      rcases exists_block others with ⟨block, rest, split, inner, closed⟩
      rw [same, if_pos opens, whole, fencedLines, if_pos fence, split,
        fencedLines_block inner closed]
      exact .fenced opens (split ▸ whole) inner closed

section

variable {decoders : Decoders} {settings : ObserverSettings} {call : DiagnosisCall}
  {content : Json} {cost : Rat}

theorem isParseFailure_of_floatOf {value : Json} {error : PyError}
    (raised : floatOf decoders value = .error error) :
    isParseFailure error = true ↔ error ≠ .overflowError := by
  cases value with
  | num number =>
    rw [floatOf] at raised
    split at raised
    · cases raised
      simp [isParseFailure]
    · cases raised
  | str text =>
    rw [floatOf] at raised
    split at raised
    · cases raised
    · cases raised
      simp [isParseFailure]
  | bool flag => cases raised
  | null =>
    cases raised
    simp [isParseFailure]
  | arr items =>
    cases raised
    simp [isParseFailure]
  | obj fields =>
    cases raised
    simp [isParseFailure]

theorem diagnosisOfFields_obj (decoders : Decoders) (call : DiagnosisCall) (text : String)
    (cost : Rat) (fields : List (String × Json)) :
    ∃ made : FloatValue → Diagnosis, diagnosisOfFields decoders call text cost (.obj fields) =
      (floatOf decoders (confidenceField fields)).map made := ⟨_, rfl⟩

theorem parse_document {text document : String} (found : Document text document) :
    (Returns (parseDiagnosisResponse decoders call (.str text) cost) ↔
        ReadableDocument decoders document) ∧
      ((∃ diagnosis, parseDiagnosisResponse decoders call (.str text) cost =
        .ok (some diagnosis)) ↔ WellFormedDocument decoders document) := by
  rw [document_iff.mp found, parseDiagnosisResponse, ReadableDocument, WellFormedDocument]
  cases decoders.loads (unfence text) with
  | error error => cases caught : isParseFailure error <;> simp [Except.bind, caught]
  | ok data =>
    cases data with
    | obj fields =>
      rcases diagnosisOfFields_obj decoders call text cost fields with ⟨made, fieldsRead⟩
      cases read : floatOf decoders (confidenceField fields) with
      | error error =>
        have caught := isParseFailure_of_floatOf read
        cases failure : isParseFailure error <;>
          simp_all [Except.bind, Except.map]
      | ok value => simp [Except.bind, fieldsRead, read, Except.map]
    | _ => simp [Except.bind, diagnosisOfFields, getField, bind, isParseFailure]

theorem diagnosisOf_obj {answer : List (String × Json)} (here : call.answer = some (.obj answer))
    {cost : Rat}
    (added : costOf ((Json.field? "cost_usd" answer).getD (.num estimateCost)) = .ok cost) :
    diagnosisOf decoders call = parseDiagnosisResponse decoders call
      ((Json.field? "content" answer).getD (.str "")) cost := by
  rw [diagnosisOf, here]
  simp only [actualCost, getField, Except.bind, added, ok_bind]

theorem returns_diagnosisOf :
    Returns (diagnosisOf decoders call) ↔ Readable decoders call := by
  cases here : call.answer with
  | none => simp [diagnosisOf, Readable, here]
  | some responseData =>
    cases responseData with
    | obj answer =>
      simp only [Readable, here, reduceCtorEq, false_or, Option.some.injEq, Json.obj.injEq,
        exists_eq_left']
      cases added : costOf ((Json.field? "cost_usd" answer).getD (.num estimateCost)) with
      | error error =>
        simp [diagnosisOf, here, actualCost, getField, Except.bind, added, bind]
      | ok cost =>
        rw [diagnosisOf_obj here added, HasDocument]
        cases (Json.field? "content" answer).getD (.str "") with
        | str text =>
          have parsed := (@parse_document decoders call cost text _ (document_iff.mpr rfl)).1
          simp [parsed, document_iff]
        | _ => simp [parseDiagnosisResponse]
    | _ => simp [diagnosisOf, Readable, here, actualCost, getField, Except.bind, bind]

theorem diagnosisOf_some_iff (returned : Returns (diagnosisOf decoders call)) :
    (∃ diagnosis, diagnosisOf decoders call = .ok (some diagnosis)) ↔
      WellFormed decoders call := by
  rcases returns_diagnosisOf.mp returned with none | ⟨answer, here, ⟨cost, added⟩, -⟩
  · simp [diagnosisOf, WellFormed, none]
  · rw [diagnosisOf_obj here added]
    simp only [WellFormed, here, Option.some.injEq, Json.obj.injEq, exists_eq_left', HasDocument]
    cases (Json.field? "content" answer).getD (.str "") with
    | str text =>
      have parsed := (@parse_document decoders call cost text _ (document_iff.mpr rfl)).2
      simp [parsed, document_iff]
    | _ => simp [parseDiagnosisResponse]

end

section

variable {decoders : Decoders} {settings : ObserverSettings} {calls : List DiagnosisCall}

theorem run_spendAfter (cycleSpend : Rat) (calls : List DiagnosisCall) :
    run (spendAfter settings) cycleSpend calls = cycleSpend ∨
      ∃ call ∈ askedFrom settings cycleSpend calls, ∃ answer, call.answer = some answer ∧
        ∃ cost, actualCost answer = .ok cost ∧ run (spendAfter settings) cycleSpend calls ≤
          settings.observerBudgetPerCycleUsd + cost := by
  induction calls generalizing cycleSpend with
  | nil => exact .inl rfl
  | cons call rest ih =>
    have later := ih (spendAfter settings cycleSpend call)
    rw [run_cons, askedFrom]
    by_cases short : remainingBudget settings cycleSpend < estimateCost
    · have kept : spendAfter settings cycleSpend call = cycleSpend := if_pos short
      simp only [if_pos short, kept] at later ⊢
      exact later
    · rw [if_neg short]
      rcases later with same | ⟨other, member, found⟩
      · rw [same, spendAfter, if_neg short]
        cases here : call.answer with
        | none => exact .inl rfl
        | some answer =>
          cases costs : actualCost answer with
          | error error => simp [costs]
          | ok cost =>
            refine .inr ⟨call, List.mem_cons_self, answer, here, cost, costs, ?_⟩
            have room : 0 < settings.observerBudgetPerCycleUsd - cycleSpend := by
              simpa [remainingBudget] using estimateCost_pos.trans_le (not_lt.mp short)
            simpa [costs] using (sub_pos.mp room).le
      · exact .inr ⟨other, List.mem_cons_of_mem _ member, found⟩

theorem diagnosisOf_issueId {call : DiagnosisCall} {diagnosis : Diagnosis}
    (found : diagnosisOf decoders call = .ok (some diagnosis)) :
    diagnosis.issueId = call.issue.id := by
  rw [diagnosisOf] at found
  cases here : call.answer with
  | none => simp [here] at found
  | some answer =>
    simp only [here, bind_eq_ok] at found
    rcases found with ⟨cost, -, content, -, parsed⟩
    exact parseDiagnosisResponse_issueId parsed

theorem diagnoses_eq {diagnoses : List Diagnosis}
    (returned : diagnoseBatch decoders settings calls = .ok diagnoses) :
    diagnoses = (askedFrom settings 0 calls).filterMap fun call =>
      (diagnosisOf decoders call).toOption.join := by
  rw [diagnoseBatch, diagnoseFrom_eq_mapM, map_eq_ok] at returned
  rcases returned with ⟨found, each, same⟩
  rw [← same]
  clear same
  generalize askedFrom settings 0 calls = asked at each ⊢
  induction asked generalizing found with
  | nil =>
    cases each
    rfl
  | cons call rest ih =>
    rw [List.mapM_cons, bind_eq_ok] at each
    rcases each with ⟨first, here, others⟩
    rcases bind_eq_ok.mp others with ⟨later, there, made⟩
    cases made
    rw [List.filterMap_cons, List.filterMap_cons, ih later there, here]
    rfl

theorem diagnosesWell_iff : DiagnosesWell decoders settings calls ↔
    0 ≤ settings.observerBudgetPerCycleUsd ∧ Allowed (spendAfter settings)
      (fun cycleSpend call => estimateCost ≤ remainingBudget settings cycleSpend →
        Readable decoders call) 0 calls := by
  rw [← forall_mem_askedFrom]
  constructor
  · intro well
    constructor
    · rcases well.bounded [] calls rfl with ⟨excess, rfl | ⟨call, nothing, -⟩, within⟩
      · simpa using within
      · cases nothing
    · intro call member
      exact returns_diagnosisOf.mp (returns_diagnoseBatch.mp well.returned call member)
  · rintro ⟨positive, readable⟩
    have returned := fun call member => returns_diagnosisOf.mpr (readable call member)
    constructor
    · exact returns_diagnoseBatch.mpr returned
    · intro diagnoses made
      refine ⟨_, diagnoses_eq made, fun call member => ⟨?_, ?_⟩⟩
      · rw [← diagnosisOf_some_iff (returned call member)]
        rcases returned call member with ⟨found, here⟩
        simp [here, Except.toOption, Option.isSome_iff_exists]
      · intro diagnosis found
        rcases returned call member with ⟨_ | other, here⟩
        · simp [here, Except.toOption] at found
        · apply diagnosisOf_issueId
          rw [here]
          simpa [here, Except.toOption] using found
    · intro earlier later split
      rcases @run_spendAfter settings 0 earlier with
        same | ⟨call, member, answer, here, cost, costs, within⟩
      · exact ⟨0, .inl rfl, by rw [same]; simpa using positive⟩
      · exact ⟨cost, .inr ⟨call, member, answer, here, costs⟩, within⟩

theorem not_diagnosesWell_array : ¬ DiagnosesWell
    { loads := fun text => if text = "[]" then .ok (.arr []) else .error .jsonDecodeError
      floatOfString := fun _ => none
      reprOf := fun _ => "" } {}
    [{ issue := { id := "iss_1" }, diagnosisId := "diag_1"
       answer := some (.obj [("content", .str "[]"), ("cost_usd", .num (1 / 10))]) }] := by
  intro well
  have asked : ¬ remainingBudget {} 0 < estimateCost := by norm_num [remainingBudget, estimateCost]
  have returned := returns_diagnoseBatch.mp well.returned
  simp only [askedFrom, if_neg asked, List.forall_mem_singleton] at returned
  rcases returns_diagnosisOf.mp returned with none | ⟨answer, here, -, text, document, content,
    found, read⟩
  · cases none
  · cases here
    cases content
    rw [document_iff.mp found, show unfence "[]" = "[]" by decide] at read
    exact read

end

end Onpremai.Observer
