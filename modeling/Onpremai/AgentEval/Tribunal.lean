import Mathlib.Algebra.Order.Ring.Unbundled.Rat
import Onpremai.AgentEval.State
import Onpremai.Library.Except

/-!
# Adversarial tribunal

A tribunal asks a prosecutor, possibly a defender, and a judge, each with one
LLM call, and reads the verdict out of the judge's answer.  The parsers accept
every JSON document and guard only some of the accesses to the decoded value;
an access that is not guarded raises.
-/

namespace Onpremai.AgentEval

open Onpremai.Library

/-- Why `json.loads` raises: the text is no document, a number has too many digits,
or the nesting is too deep. -/
inductive LoadsError where
  | jsonDecodeError
  | valueError
  | recursionError
  deriving DecidableEq, Repr

def LoadsError.exception : LoadsError → PyError
  | .jsonDecodeError => .jsonDecodeError
  | .valueError => .valueError
  | .recursionError => .recursionError

/-- Decoding functions of the runtime: JSON documents, and numbers written in a
string.  Of the numbers that are not finite, an infinity stands as the largest or
least finite one and `NaN` as zero; the clamp of confidences does not tell them apart. -/
structure Decoders where
  loads : String → Except LoadsError Json
  floatOfString : String → Option Rat

/-- The LLM calls made to judge one criterion.  `retry` marks the second
tribunal. -/
inductive LlmTask where
  | prosecute (retry : Bool)
  | defend (retry : Bool)
  | judge (retry : Bool)
  | single
  deriving DecidableEq, Repr

abbrev LlmAnswers := LlmTask → Except PyError String

def verdictOf (text : String) : CriterionResultEnum :=
  if text = "PASS" then .pass
  else if text = "PARTIAL" then .partialPass
  else .fail

def verdictFromText (content : String) : CriterionResultEnum :=
  let contentLower := Text.lower content
  if Text.contains "pass" contentLower then .pass
  else if Text.contains "partial" contentLower then .partialPass
  else .fail

def dropFenceLines (content : String) : String :=
  if Text.startsWith "```" content then
    Text.joinLines ((Text.lines content).filter fun line =>
      !Text.startsWith "```" line)
  else content

def stripMarkdownFences (content : String) : String :=
  let stripped := Text.strip content
  if Text.startsWith "```" stripped then Text.strip (dropFenceLines stripped)
  else stripped

/-- `data.get(key, default)`: a value that is not an object has no `get`. -/
def getField (data : Json) (key : String) (default : Json) : Except PyError Json :=
  match data with
  | .obj _ => .ok ((data.get? key).getD default)
  | _ => .error .attributeError

/-- `value.upper()`: a value that is not a string has no `upper`. -/
def upperOf : Json → Except PyError String
  | .str text => .ok (Text.upper text)
  | _ => .error .attributeError

/-- The least integer that rounds to no finite float. -/
def floatLimit : Rat := ((Nat.pow 2 1024 - Nat.pow 2 970 : Nat) : Rat)

/-- `float(value)`. -/
def floatOf (decoders : Decoders) : Json → Except PyError Rat
  | .num value =>
    if floatLimit ≤ value ∨ value ≤ -floatLimit then .error .overflowError else .ok value
  | .bool value => .ok (if value then 1 else 0)
  | .str text =>
    match decoders.floatOfString text with
    | some value => .ok value
    | none => .error .valueError
  | _ => .error .typeError

/-- Result from a tribunal evaluation. -/
structure TribunalResult where
  criterionId : String
  verdict : CriterionResultEnum
  confidence : Rat
  justification : Json
  prosecutionArgs : Json
  defenseArgs : Json
  prosecutionAccepted : Json := .arr []
  prosecutionRejected : Json := .arr []
  defenseAccepted : Json := .arr []
  defenseRejected : Json := .arr []

def TribunalResult.toCriterionResult (result : TribunalResult) (category : String) :
    Except PyError CriterionResult :=
  match result.justification with
  | .str reason =>
    .ok { criterionId := result.criterionId, category, result := result.verdict,
          method := .llmJudgment, reason, confidence := some result.confidence }
  | _ => .error (.validationError "CriterionResult" "reason")

/-- Export the tribunal's reasoning. -/
def TribunalResult.toJustificationDoc (result : TribunalResult) : TribunalDoc where
  criterionId := result.criterionId
  verdict := result.verdict
  confidence := result.confidence
  justification := result.justification
  prosecution := result.prosecutionArgs
  defense := result.defenseArgs
  prosecutionAccepted := result.prosecutionAccepted
  prosecutionRejected := result.prosecutionRejected
  defenseAccepted := result.defenseAccepted
  defenseRejected := result.defenseRejected

/-- Characters that open a bullet point. -/
def bulletChars : List Char := ['-', '•', '*']

/-- The bullet points of a text that does not decode, or its first 300
characters. -/
def argumentsFromText (content : String) : Json :=
  let bullets := (Text.lines content).filterMap fun line =>
    match (Text.strip line).toList.head? with
    | some first =>
      if bulletChars.contains first then
        some (Text.lstrip [' ', '-', '•', '*'] (Text.strip line))
      else none
    | none => none
  if bullets.isEmpty then Json.strings [Text.truncate 300 content]
  else Json.strings bullets

def parseArguments (decoders : Decoders) (content : String) : Except PyError Json :=
  let content := stripMarkdownFences content
  match decoders.loads content with
  | .ok data => getField data "arguments" (.arr [])
  | .error .jsonDecodeError => .ok (argumentsFromText content)
  | .error error => .error error.exception

/-- `"\n".join(f"- {arg}" for arg in arguments)` iterates over the arguments. -/
def iterate : Json → Except PyError Unit
  | .arr _ => .ok ()
  | .obj _ => .ok ()
  | .str _ => .ok ()
  | _ => .error .typeError

/-- The body of the guarded block of `parseJudgeResponse`. -/
def readJudgeDocument (decoders : Decoders) (data : Json) (criterionId : String)
    (prosecutionArgs defenseArgs : Json) : Except PyError TribunalResult := do
  let verdict ← getField data "verdict" (.str "FAIL")
  let verdictString ← upperOf verdict
  let confidence ← getField data "confidence" (.num (1 / 2))
  let confidence ← floatOf decoders confidence
  let justification ← getField data "justification" (.str "")
  let prosecutionAccepted ← getField data "prosecution_points_accepted" (.arr [])
  let prosecutionRejected ← getField data "prosecution_points_rejected" (.arr [])
  let defenseAccepted ← getField data "defense_points_accepted" (.arr [])
  let defenseRejected ← getField data "defense_points_rejected" (.arr [])
  return { criterionId, verdict := verdictOf verdictString
           confidence := min 1 (max 0 confidence)
           justification, prosecutionArgs, defenseArgs
           prosecutionAccepted, prosecutionRejected, defenseAccepted, defenseRejected }

/-- The result read from the text of an answer that does not decode. -/
def judgeFromText (content criterionId : String) (prosecutionArgs defenseArgs : Json) :
    TribunalResult where
  criterionId := criterionId
  verdict := verdictFromText content
  confidence := 1 / 2
  justification := .str (Text.truncate 200 content)
  prosecutionArgs := prosecutionArgs
  defenseArgs := defenseArgs

/-- Parse a judge response.  A decoding error, a `TypeError` or a `ValueError`
falls back to the text; every other exception escapes. -/
def parseJudgeResponse (decoders : Decoders) (content criterionId : String)
    (prosecutionArgs defenseArgs : Json) : Except PyError TribunalResult :=
  let content := stripMarkdownFences content
  match decoders.loads content with
  | .error .jsonDecodeError =>
    .ok (judgeFromText content criterionId prosecutionArgs defenseArgs)
  | .error .valueError =>
    .ok (judgeFromText content criterionId prosecutionArgs defenseArgs)
  | .error error => .error error.exception
  | .ok data =>
    match readJudgeDocument decoders data criterionId prosecutionArgs defenseArgs with
    | .ok result => .ok result
    | .error .typeError =>
      .ok (judgeFromText content criterionId prosecutionArgs defenseArgs)
    | .error .valueError =>
      .ok (judgeFromText content criterionId prosecutionArgs defenseArgs)
    | .error exn => .error exn

/-- Judge: weigh the arguments and deliver the verdict. -/
def runJudge (decoders : Decoders) (llm : LlmAnswers) (retry : Bool)
    (criterion : Criterion) (prosecutionArgs defenseArgs : Json) :
    Except PyError TribunalResult := do
  iterate prosecutionArgs
  iterate defenseArgs
  let content ← llm (.judge retry)
  parseJudgeResponse decoders content criterion.id prosecutionArgs defenseArgs

def runTribunal (decoders : Decoders) (llm : LlmAnswers) (retry : Bool)
    (criterion : Criterion) : Except PyError TribunalResult := do
  let prosecution ← llm (.prosecute retry)
  let prosecutionArgs ← parseArguments decoders prosecution
  let defense ← llm (.defend retry)
  let defenseArgs ← parseArguments decoders defense
  runJudge decoders llm retry criterion prosecutionArgs defenseArgs

def runSimplifiedTribunal (decoders : Decoders) (llm : LlmAnswers)
    (criterion : Criterion) : Except PyError TribunalResult := do
  let prosecution ← llm (.prosecute false)
  let prosecutionArgs ← parseArguments decoders prosecution
  runJudge decoders llm false criterion prosecutionArgs
    (Json.strings ["(Defense not called — Judge considers both sides)"])

/-- The verdicts a tribunal or a single call delivers. -/
def IsVerdict (result : CriterionResultEnum) : Prop :=
  result = .pass ∨ result = .partialPass ∨ result = .fail

theorem isVerdict_verdictOf (text : String) : IsVerdict (verdictOf text) := by
  unfold verdictOf IsVerdict
  split
  · simp
  · split <;> simp

theorem isVerdict_verdictFromText (content : String) :
    IsVerdict (verdictFromText content) := by
  simp only [verdictFromText, IsVerdict]
  split
  · simp
  · split <;> simp

section

variable {decoders : Decoders}

theorem readJudgeDocument_ok {data : Json} {criterionId : String}
    {prosecutionArgs defenseArgs : Json} {result : TribunalResult}
    (read : readJudgeDocument decoders data criterionId prosecutionArgs defenseArgs = .ok result) :
    result.criterionId = criterionId ∧ IsVerdict result.verdict := by
  simp only [readJudgeDocument, bind_eq_ok] at read
  obtain ⟨_, _, text, _, _, _, _, _, _, _, _, _, _, _, _, _, _, _, built⟩ := read
  have equal := Except.ok.inj built
  rw [← equal]
  exact ⟨rfl, isVerdict_verdictOf text⟩

theorem parseJudgeResponse_ok {content criterionId : String}
    {prosecutionArgs defenseArgs : Json} {result : TribunalResult}
    (parsed : parseJudgeResponse decoders content criterionId prosecutionArgs
      defenseArgs = .ok result) : result.criterionId = criterionId ∧ IsVerdict result.verdict := by
  unfold parseJudgeResponse at parsed
  generalize stripMarkdownFences content = text at parsed
  have fallback : ∀ {answer : TribunalResult},
      answer = judgeFromText text criterionId prosecutionArgs defenseArgs →
      answer.criterionId = criterionId ∧ IsVerdict answer.verdict := by
    rintro _ rfl
    simp only [judgeFromText, true_and]
    exact isVerdict_verdictFromText text
  cases decoded : decoders.loads text with
  | error error =>
    cases error with
    | jsonDecodeError =>
      simp only [decoded, Except.ok.injEq] at parsed
      exact fallback parsed.symm
    | valueError =>
      simp only [decoded, Except.ok.injEq] at parsed
      exact fallback parsed.symm
    | recursionError =>
      simp only [decoded] at parsed
      cases parsed
  | ok data =>
    simp only [decoded] at parsed
    split at parsed
    · next read =>
      rw [Except.ok.inj parsed] at read
      exact readJudgeDocument_ok read
    · exact fallback (Except.ok.inj parsed).symm
    · exact fallback (Except.ok.inj parsed).symm
    · cases parsed

theorem runJudge_ok {llm : LlmAnswers} {retry : Bool}
    {criterion : Criterion} {prosecutionArgs defenseArgs : Json} {result : TribunalResult}
    (ran : runJudge decoders llm retry criterion prosecutionArgs defenseArgs = .ok result) :
    result.criterionId = criterion.id ∧ IsVerdict result.verdict := by
  simp only [runJudge, bind_eq_ok] at ran
  obtain ⟨_, _, _, _, _, _, parsed⟩ := ran
  exact parseJudgeResponse_ok parsed

theorem runTribunal_ok {llm : LlmAnswers} {retry : Bool}
    {criterion : Criterion} {result : TribunalResult}
    (ran : runTribunal decoders llm retry criterion = .ok result) :
    result.criterionId = criterion.id ∧ IsVerdict result.verdict := by
  simp only [runTribunal, bind_eq_ok] at ran
  obtain ⟨_, _, _, _, _, _, _, _, judged⟩ := ran
  exact runJudge_ok judged

theorem runSimplifiedTribunal_ok {llm : LlmAnswers}
    {criterion : Criterion} {result : TribunalResult}
    (ran : runSimplifiedTribunal decoders llm criterion = .ok result) :
    result.criterionId = criterion.id ∧ IsVerdict result.verdict := by
  simp only [runSimplifiedTribunal, bind_eq_ok] at ran
  obtain ⟨_, _, _, _, judged⟩ := ran
  exact runJudge_ok judged

end

theorem TribunalResult.toCriterionResult_ok {tribunal : TribunalResult} {category : String}
    {result : CriterionResult} (converted : tribunal.toCriterionResult category = .ok result) :
    result.criterionId = tribunal.criterionId ∧ result.category = category ∧
      result.result = tribunal.verdict ∧ result.method = .llmJudgment := by
  simp only [TribunalResult.toCriterionResult] at converted
  split at converted
  · cases converted
    exact ⟨rfl, rfl, rfl, rfl⟩
  · cases converted

end Onpremai.AgentEval
