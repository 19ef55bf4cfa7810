import Onpremai.AgentEval.Layers

/-!
# Answers that layer 2 can read

The texts from which each role of a tribunal and the single call are read without an
exception, and with them the runs in which every criterion is judged.
-/

namespace Onpremai.AgentEval

open Onpremai.Library

def fieldOr (fields : List (String × Json)) (key : String) (default : Json) : Json :=
  (Json.field? key fields).getD default

def IsText : Json → Prop
  | .str _ => True
  | _ => False

/-- The value can be walked item by item. -/
def IsIterable : Json → Prop
  | .arr _ => True
  | .obj _ => True
  | .str _ => True
  | _ => False

def OverflowsFloat : Json → Prop
  | .num value => floatLimit ≤ value ∨ value ≤ -floatLimit
  | _ => False

abbrev Answers := LlmTask → String

section

variable (decoders : Decoders)

/-- The answer of a prosecutor or defender is no JSON, or an object whose arguments are
absent or can be walked. -/
def ArgumentsReadable (content : String) : Prop :=
  match decoders.loads (stripMarkdownFences content) with
  | .ok (.obj fields) => IsIterable (fieldOr fields "arguments" (.arr []))
  | .ok _ => False
  | .error error => error = .jsonDecodeError

def JudgeReadable (content : String) : Prop :=
  match decoders.loads (stripMarkdownFences content) with
  | .ok (.obj fields) =>
    IsText (fieldOr fields "verdict" (.str "FAIL")) ∧
      ¬ OverflowsFloat (fieldOr fields "confidence" (.num (1 / 2)))
  | .ok _ => False
  | .error error => error ≠ .recursionError

def SingleReadable (content : String) : Prop :=
  match decoders.loads (dropFenceLines (Text.strip content)) with
  | .ok (.obj fields) =>
    IsText (fieldOr fields "result" (.str "FAIL")) ∧ IsText (fieldOr fields "reason" (.str ""))
  | .ok _ => False
  | .error error => error = .jsonDecodeError

/-- What a readable answer of a judge says. -/
structure Opinion where
  verdict : CriterionResultEnum
  confidence : Rat
  reason : Json

def opinionFromText (content : String) : Opinion where
  verdict := verdictFromText content
  confidence := 1 / 2
  reason := .str (Text.truncate 200 content)

def namedVerdict : Json → CriterionResultEnum
  | .str text => verdictOf (Text.upper text)
  | _ => .fail

def opinionOfFields (content : String) (fields : List (String × Json)) : Opinion :=
  match floatOf decoders (fieldOr fields "confidence" (.num (1 / 2))) with
  | .ok confidence =>
    { verdict := namedVerdict (fieldOr fields "verdict" (.str "FAIL"))
      confidence := min 1 (max 0 confidence)
      reason := fieldOr fields "justification" (.str "") }
  | .error _ => opinionFromText content

/-- The opinion of a judge's answer. -/
def opinionOf (content : String) : Opinion :=
  match decoders.loads (stripMarkdownFences content) with
  | .ok (.obj fields) => opinionOfFields decoders (stripMarkdownFences content) fields
  | _ => opinionFromText (stripMarkdownFences content)

def TribunalReadable (answers : Answers) (retry : Bool) : Prop :=
  ArgumentsReadable decoders (answers (.prosecute retry)) ∧
    ArgumentsReadable decoders (answers (.defend retry)) ∧
      JudgeReadable decoders (answers (.judge retry))

def IsRepeated (settings : EvalSettings) (answers : Answers) : Prop :=
  (opinionOf decoders (answers (.judge false))).confidence <
      settings.tribunalConfidenceThreshold ∧ 0 < settings.tribunalMaxRetries

instance (settings : EvalSettings) (answers : Answers) :
    Decidable (IsRepeated decoders settings answers) :=
  inferInstanceAs (Decidable (_ ∧ _))

def RepetitionReadable (answers : Answers) : Prop :=
  let first := opinionOf decoders (answers (.judge false))
  let second := opinionOf decoders (answers (.judge true))
  TribunalReadable decoders answers true ∧
    if second.verdict = first.verdict then IsText first.reason
    else first.confidence < second.confidence → IsText second.reason

def Judgeable (settings : EvalSettings) (criterion : Criterion) (answers : Answers) : Prop :=
  if settings.consensusWeightThreshold ≤ criterion.weight then
    TribunalReadable decoders answers false ∧
      if IsRepeated decoders settings answers then RepetitionReadable decoders answers
      else IsText (opinionOf decoders (answers (.judge false))).reason
  else if 1 / 10 ≤ criterion.weight then
    ArgumentsReadable decoders (answers (.prosecute false)) ∧
      JudgeReadable decoders (answers (.judge false)) ∧
        IsText (opinionOf decoders (answers (.judge false))).reason
  else SingleReadable decoders (answers .single)

end

section

variable {decoders : Decoders} {content criterionId : String} {fields : List (String × Json)}

theorem getField_obj (key : String) (default : Json) :
    getField (.obj fields) key default = .ok (fieldOr fields key default) := rfl

theorem iterate_returns_iff {arguments : Json} :
    Returns (iterate arguments) ↔ IsIterable arguments := by
  cases arguments <;> simp [iterate, IsIterable]

theorem upperOf_returns_iff {value : Json} : Returns (upperOf value) ↔ IsText value := by
  cases value <;> simp [upperOf, IsText]

theorem isIterable_argumentsFromText (content : String) :
    IsIterable (argumentsFromText content) := by
  rw [argumentsFromText]
  split <;> trivial

theorem parseArguments_iterate_iff : (∃ arguments, parseArguments decoders content = .ok arguments ∧
      Returns (iterate arguments)) ↔ ArgumentsReadable decoders content := by
  rw [parseArguments, ArgumentsReadable]
  cases decoders.loads (stripMarkdownFences content) with
  | error error =>
    cases error with
    | jsonDecodeError =>
      simp [iterate_returns_iff, isIterable_argumentsFromText]
    | valueError => simp
    | recursionError => simp
  | ok data =>
    cases data with
    | obj fields => simp [getField_obj, iterate_returns_iff]
    | null => simp [getField]
    | bool value => simp [getField]
    | num value => simp [getField]
    | str value => simp [getField]
    | arr items => simp [getField]

theorem floatOf_cases (value : Json) :
    (OverflowsFloat value ∧ floatOf decoders value = .error .overflowError) ∨
      (¬ OverflowsFloat value ∧ ((∃ confidence, floatOf decoders value = .ok confidence) ∨
        floatOf decoders value = .error .typeError ∨
          floatOf decoders value = .error .valueError)) := by
  cases value with
  | num value =>
    by_cases large : floatLimit ≤ value ∨ value ≤ -floatLimit
    · left
      exact ⟨large, if_pos large⟩
    · right
      exact ⟨large, .inl ⟨value, if_neg large⟩⟩
  | str text =>
    right
    refine ⟨id, ?_⟩
    cases read : decoders.floatOfString text with
    | some value => exact .inl ⟨value, by simp [floatOf, read]⟩
    | none => exact .inr (.inr (by simp [floatOf, read]))
  | bool value => exact .inr ⟨id, .inl ⟨_, rfl⟩⟩
  | null => exact .inr ⟨id, .inr (.inl rfl)⟩
  | arr items => exact .inr ⟨id, .inr (.inl rfl)⟩
  | obj fields => exact .inr ⟨id, .inr (.inl rfl)⟩

/-- A parsed answer says what the opinion says. -/
def Delivers (result : TribunalResult) (criterionId : String) (opinion : Opinion) : Prop :=
  result.criterionId = criterionId ∧ result.verdict = opinion.verdict ∧
    result.confidence = opinion.confidence ∧ result.justification = opinion.reason

variable {prosecutionArgs defenseArgs : Json}

theorem readJudgeDocument_text {text : String}
    (verdict : fieldOr fields "verdict" (.str "FAIL") = .str text) :
    (readJudgeDocument decoders (.obj fields) criterionId prosecutionArgs defenseArgs) =
      floatOf decoders (fieldOr fields "confidence" (.num (1 / 2))) >>= fun confidence =>
        .ok { criterionId, verdict := verdictOf (Text.upper text)
              confidence := min 1 (max 0 confidence)
              justification := fieldOr fields "justification" (.str "")
              prosecutionArgs, defenseArgs
              prosecutionAccepted := fieldOr fields "prosecution_points_accepted" (.arr [])
              prosecutionRejected := fieldOr fields "prosecution_points_rejected" (.arr [])
              defenseAccepted := fieldOr fields "defense_points_accepted" (.arr [])
              defenseRejected := fieldOr fields "defense_points_rejected" (.arr []) } := by
  simp only [readJudgeDocument, getField_obj, verdict]
  rfl

theorem readJudgeDocument_notText
    (verdict : ¬ IsText (fieldOr fields "verdict" (.str "FAIL"))) :
    (readJudgeDocument decoders (.obj fields) criterionId prosecutionArgs defenseArgs) =
      .error .attributeError := by
  simp only [readJudgeDocument, getField_obj]
  generalize fieldOr fields "verdict" (.str "FAIL") = value at verdict
  cases value with
  | str text => exact absurd trivial verdict
  | null => rfl
  | bool value => rfl
  | num value => rfl
  | arr items => rfl
  | obj fields => rfl

theorem judgeFromText_delivers :
    Delivers (judgeFromText content criterionId prosecutionArgs defenseArgs) criterionId
      (opinionFromText content) :=
  ⟨rfl, rfl, rfl, rfl⟩

theorem parseJudgeResponse_cases : (JudgeReadable decoders content ∧
        ∃ result, parseJudgeResponse decoders content criterionId prosecutionArgs
            defenseArgs = .ok result ∧ Delivers result criterionId (opinionOf decoders content)) ∨
      (¬ JudgeReadable decoders content ∧
        ¬ Returns (parseJudgeResponse decoders content criterionId prosecutionArgs
          defenseArgs)) := by
  rw [parseJudgeResponse, JudgeReadable, opinionOf]
  generalize stripMarkdownFences content = text
  cases decoders.loads text with
  | error error =>
    cases error with
    | jsonDecodeError => exact .inl ⟨by simp, _, rfl, judgeFromText_delivers⟩
    | valueError => exact .inl ⟨by simp, _, rfl, judgeFromText_delivers⟩
    | recursionError => exact .inr ⟨by simp, not_returns_error _⟩
  | ok data =>
    cases data with
    | obj fields =>
      dsimp only
      cases named : fieldOr fields "verdict" (.str "FAIL") with
      | str verdict =>
        rw [readJudgeDocument_text named, opinionOfFields, named]
        rcases @floatOf_cases decoders
          (fieldOr fields "confidence" (.num (1 / 2))) with
          ⟨large, read⟩ | ⟨fits, ⟨confidence, read⟩ | read | read⟩
        · rw [read]
          exact .inr ⟨fun readable => readable.2 large, not_returns_error _⟩
        · rw [read]
          exact .inl ⟨⟨trivial, fits⟩, _, rfl, rfl, rfl, rfl, rfl⟩
        · rw [read]
          exact .inl ⟨⟨trivial, fits⟩, _, rfl, judgeFromText_delivers⟩
        · rw [read]
          exact .inl ⟨⟨trivial, fits⟩, _, rfl, judgeFromText_delivers⟩
      | _ =>
        have notText : ¬ IsText (fieldOr fields "verdict" (.str "FAIL")) := by
          rw [named]
          exact id
        rw [readJudgeDocument_notText notText]
        exact .inr ⟨fun readable => readable.1, not_returns_error _⟩
    | _ => exact .inr ⟨id, not_returns_error _⟩

theorem parseJudgeResponse_returns_iff :
    Returns (parseJudgeResponse decoders content criterionId prosecutionArgs defenseArgs) ↔
      JudgeReadable decoders content := by
  rcases @parseJudgeResponse_cases decoders content criterionId prosecutionArgs defenseArgs with
    ⟨readable, result, parsed, -⟩ | ⟨unreadable, raised⟩
  · exact iff_of_true ⟨result, parsed⟩ readable
  · exact iff_of_false raised unreadable

theorem parseJudgeResponse_delivers {result : TribunalResult}
    (parsed : parseJudgeResponse decoders content criterionId prosecutionArgs defenseArgs =
      .ok result) : Delivers result criterionId (opinionOf decoders content) := by
  rcases @parseJudgeResponse_cases decoders content criterionId prosecutionArgs defenseArgs with
    ⟨-, read, parsedRead, delivers⟩ | ⟨-, raised⟩
  · rw [parsed] at parsedRead
    cases parsedRead
    exact delivers
  · exact absurd ⟨result, parsed⟩ raised

end

/-! ## One criterion -/

def answering (answers : Answers) : LlmAnswers := fun task => .ok (answers task)

section

variable {decoders : Decoders} {answers : Answers} {criterion : Criterion} {retry : Bool}

theorem runJudge_returns_iff {prosecutionArgs defenseArgs : Json} :
    Returns (runJudge decoders (answering answers) retry criterion prosecutionArgs
        defenseArgs) ↔
      Returns (iterate prosecutionArgs) ∧ Returns (iterate defenseArgs) ∧
        JudgeReadable decoders (answers (.judge retry)) := by
  rw [runJudge, ← @parseJudgeResponse_returns_iff decoders (answers (.judge retry)) criterion.id
    prosecutionArgs defenseArgs]
  cases iterate prosecutionArgs with
  | error exn => simp [bind, Except.bind]
  | ok walked =>
    cases iterate defenseArgs with
    | error exn => simp [bind, Except.bind]
    | ok defenseWalked => simp [bind, Except.bind, answering]

theorem runJudge_delivers {prosecutionArgs defenseArgs : Json} {result : TribunalResult}
    (ran : runJudge decoders (answering answers) retry criterion prosecutionArgs
      defenseArgs = .ok result) :
    Delivers result criterion.id (opinionOf decoders (answers (.judge retry))) := by
  simp only [runJudge, bind_eq_ok] at ran
  rcases ran with ⟨_, _, _, _, content, answered, parsed⟩
  cases answered
  exact parseJudgeResponse_delivers parsed

theorem runTribunal_returns_iff :
    Returns (runTribunal decoders (answering answers) retry criterion) ↔
      TribunalReadable decoders answers retry := by
  rw [TribunalReadable, ← parseArguments_iterate_iff, ← parseArguments_iterate_iff]
  simp only [runTribunal, returns_bind, runJudge_returns_iff, answering, Except.ok.injEq,
    exists_eq_left']
  constructor
  · rintro ⟨prosecution, prosecuted, defense, defended, walked, defenseWalked, judged⟩
    exact ⟨⟨prosecution, prosecuted, walked⟩, ⟨defense, defended, defenseWalked⟩, judged⟩
  · rintro ⟨⟨prosecution, prosecuted, walked⟩, ⟨defense, defended, defenseWalked⟩, judged⟩
    exact ⟨prosecution, prosecuted, defense, defended, walked, defenseWalked, judged⟩

theorem runTribunal_delivers {result : TribunalResult}
    (ran : runTribunal decoders (answering answers) retry criterion = .ok result) :
    Delivers result criterion.id (opinionOf decoders (answers (.judge retry))) := by
  simp only [runTribunal, bind_eq_ok] at ran
  rcases ran with ⟨_, _, _, _, _, _, _, _, judged⟩
  exact runJudge_delivers judged

theorem runSimplifiedTribunal_returns_iff :
    Returns (runSimplifiedTribunal decoders (answering answers) criterion) ↔
      ArgumentsReadable decoders (answers (.prosecute false)) ∧
        JudgeReadable decoders (answers (.judge false)) := by
  rw [← parseArguments_iterate_iff]
  simp only [runSimplifiedTribunal, returns_bind, runJudge_returns_iff, answering,
    Except.ok.injEq, exists_eq_left', iterate_returns_iff]
  constructor
  · rintro ⟨prosecution, prosecuted, walked, -, judged⟩
    exact ⟨⟨prosecution, prosecuted, walked⟩, judged⟩
  · rintro ⟨⟨prosecution, prosecuted, walked⟩, judged⟩
    exact ⟨prosecution, prosecuted, walked, trivial, judged⟩

theorem runSimplifiedTribunal_delivers {result : TribunalResult}
    (ran : runSimplifiedTribunal decoders (answering answers) criterion = .ok result) :
    Delivers result criterion.id (opinionOf decoders (answers (.judge false))) := by
  simp only [runSimplifiedTribunal, bind_eq_ok] at ran
  rcases ran with ⟨_, _, _, _, judged⟩
  exact runJudge_delivers judged

theorem judgmentOfTribunal_returns_iff {tribunal : TribunalResult} :
    Returns (judgmentOfTribunal criterion tribunal) ↔ IsText tribunal.justification := by
  rw [judgmentOfTribunal, TribunalResult.toCriterionResult]
  cases tribunal.justification <;> simp [IsText, bind, Except.bind, pure, Except.pure]

variable {settings : EvalSettings}

theorem repetition_returns_iff {first : TribunalResult}
    (delivered : Delivers first criterion.id (opinionOf decoders (answers (.judge false)))) :
    Returns (do
        let second ← runTribunal decoders (answering answers) true criterion
        if second.verdict = first.verdict then
          judgmentOfTribunal criterion
            { first with confidence := (first.confidence + second.confidence) / 2 }
        else if first.confidence < second.confidence then
          judgmentOfTribunal criterion second
        else
          return (disagreement criterion first second, none)) ↔
      RepetitionReadable decoders answers := by
  rw [RepetitionReadable, ← @runTribunal_returns_iff decoders answers criterion]
  apply returns_bind_iff
  intro second ran
  rcases delivered with ⟨-, firstVerdict, firstConfidence, firstReason⟩
  rcases runTribunal_delivers ran with ⟨-, secondVerdict, secondConfidence, secondReason⟩
  rw [← firstVerdict, ← secondVerdict, ← firstConfidence, ← secondConfidence, ← firstReason,
    ← secondReason]
  by_cases agree : second.verdict = first.verdict
  · -- the average of the confidences leaves the reason as it is
    rw [if_pos agree, if_pos agree]
    exact @judgmentOfTribunal_returns_iff criterion
      { first with confidence := (first.confidence + second.confidence) / 2 }
  · rw [if_neg agree, if_neg agree]
    by_cases prevails : first.confidence < second.confidence
    · rw [if_pos prevails, judgmentOfTribunal_returns_iff]
      simp [prevails]
    · rw [if_neg prevails]
      exact iff_of_true (returns_ok _) fun holds => absurd holds prevails

theorem judgeByTribunal_returns_iff :
    Returns (judgeByTribunal settings decoders (answering answers) criterion) ↔
      TribunalReadable decoders answers false ∧
        if IsRepeated decoders settings answers then RepetitionReadable decoders answers
        else IsText (opinionOf decoders (answers (.judge false))).reason := by
  rw [judgeByTribunal, ← @runTribunal_returns_iff decoders answers criterion]
  apply returns_bind_iff
  intro first ran
  have delivered := runTribunal_delivers ran
  have repeatedIff : first.confidence < settings.tribunalConfidenceThreshold ∧
      0 < settings.tribunalMaxRetries ↔ IsRepeated decoders settings answers := by
    rw [IsRepeated, delivered.2.2.1]
  by_cases repeated : IsRepeated decoders settings answers
  · rw [if_pos repeated, if_pos (repeatedIff.mpr repeated)]
    exact repetition_returns_iff delivered
  · rw [if_neg repeated, if_neg (fun again => repeated (repeatedIff.mp again)),
      judgmentOfTribunal_returns_iff, delivered.2.2.2]

theorem parseJudgmentResponse_returns_iff {content : String} :
    Returns (parseJudgmentResponse decoders content criterion) ↔
      SingleReadable decoders content := by
  rw [parseJudgmentResponse, SingleReadable]
  cases decoders.loads (dropFenceLines (Text.strip content)) with
  | error error =>
    cases error with
    | jsonDecodeError => simp
    | valueError => simp
    | recursionError => simp
  | ok data =>
    cases data with
    | obj fields =>
      simp only [getField_obj, returns_bind, Except.ok.injEq, exists_eq_left',
        ← upperOf_returns_iff]
      cases fieldOr fields "reason" (.str "") with
      | str text => simp [Returns, upperOf]
      | _ => simp [upperOf]
    | _ => simp [getField, bind, Except.bind]

theorem judgeSingleCriterion_returns_iff :
    Returns (judgeSingleCriterion settings decoders (answering answers) criterion) ↔
      Judgeable decoders settings criterion answers := by
  rw [judgeSingleCriterion, Judgeable]
  by_cases full : settings.consensusWeightThreshold ≤ criterion.weight
  · rw [if_pos full, if_pos full]
    exact judgeByTribunal_returns_iff
  · rw [if_neg full, if_neg full]
    by_cases simplified : 1 / 10 ≤ criterion.weight
    · rw [if_pos simplified, if_pos simplified, ← and_assoc,
        ← @runSimplifiedTribunal_returns_iff decoders answers criterion]
      apply returns_bind_iff
      intro tribunal ran
      rw [judgmentOfTribunal_returns_iff, (runSimplifiedTribunal_delivers ran).2.2.2]
    · rw [if_neg simplified, if_neg simplified,
        ← @parseJudgmentResponse_returns_iff decoders criterion]
      exact returns_bind_pure

/-! ## What escapes the loop -/

/-- The loop over the criteria catches the two exceptions of the LLM client only. -/
def Escapes (exn : PyError) : Prop := exn.isCreditExhausted = false ∧ exn ≠ .llmUnavailable

instance : DecidablePred Escapes := fun _ => inferInstanceAs (Decidable (_ ∧ _))

theorem getField_escapes (data : Json) (key : String) (default : Json) :
    RaisesOnly Escapes (getField data key default) := by
  cases data with
  | obj fields => exact raisesOnly_ok _ _
  | _ => exact raisesOnly_error (by decide)

theorem upperOf_escapes (value : Json) : RaisesOnly Escapes (upperOf value) := by
  cases value with
  | str text => exact raisesOnly_ok _ _
  | _ => exact raisesOnly_error (by decide)

theorem iterate_escapes (arguments : Json) : RaisesOnly Escapes (iterate arguments) := by
  cases arguments with
  | arr items => exact raisesOnly_ok _ _
  | obj fields => exact raisesOnly_ok _ _
  | str text => exact raisesOnly_ok _ _
  | _ => exact raisesOnly_error (by decide)

theorem floatOf_escapes (value : Json) : RaisesOnly Escapes (floatOf decoders value) := by
  rcases @floatOf_cases decoders value with ⟨-, read⟩ | ⟨-, ⟨confidence, read⟩ | read | read⟩
  · rw [read]
    exact raisesOnly_error (by decide)
  · rw [read]
    exact raisesOnly_ok _ _
  · rw [read]
    exact raisesOnly_error (by decide)
  · rw [read]
    exact raisesOnly_error (by decide)

theorem loadsError_escapes (error : LoadsError) : Escapes error.exception := by
  cases error <;> decide

theorem parseArguments_escapes (content : String) :
    RaisesOnly Escapes (parseArguments decoders content) := by
  rw [parseArguments]
  split
  · exact getField_escapes _ _ _
  · exact raisesOnly_ok _ _
  · exact raisesOnly_error (loadsError_escapes _)

theorem readJudgeDocument_escapes (data : Json) (criterionId : String)
    (prosecutionArgs defenseArgs : Json) :
    RaisesOnly Escapes
      (readJudgeDocument decoders data criterionId prosecutionArgs defenseArgs) := by
  rw [readJudgeDocument]
  apply raisesOnly_bind (getField_escapes _ _ _)
  intro verdict
  apply raisesOnly_bind (upperOf_escapes _)
  intro verdictString
  apply raisesOnly_bind (getField_escapes _ _ _)
  intro confidenceField
  apply raisesOnly_bind (floatOf_escapes _)
  intro confidence
  -- the remaining steps read five more fields
  apply raisesOnly_bind (getField_escapes _ _ _)
  intro justification
  apply raisesOnly_bind (getField_escapes _ _ _)
  intro prosecutionAccepted
  apply raisesOnly_bind (getField_escapes _ _ _)
  intro prosecutionRejected
  apply raisesOnly_bind (getField_escapes _ _ _)
  intro defenseAccepted
  apply raisesOnly_bind (getField_escapes _ _ _)
  intro defenseRejected
  exact raisesOnly_ok _ _

theorem parseJudgeResponse_escapes (content criterionId : String)
    (prosecutionArgs defenseArgs : Json) :
    RaisesOnly Escapes
      (parseJudgeResponse decoders content criterionId prosecutionArgs defenseArgs) := by
  rw [parseJudgeResponse]
  split
  · exact raisesOnly_ok _ _
  · exact raisesOnly_ok _ _
  · exact raisesOnly_error (loadsError_escapes _)
  · split
    · exact raisesOnly_ok _ _
    · exact raisesOnly_ok _ _
    · exact raisesOnly_ok _ _
    · next exn _ _ raised =>
      exact raisesOnly_error (readJudgeDocument_escapes _ _ _ _ exn raised)

theorem runJudge_escapes (prosecutionArgs defenseArgs : Json) : RaisesOnly Escapes
      (runJudge decoders (answering answers) retry criterion prosecutionArgs defenseArgs) := by
  rw [runJudge]
  apply raisesOnly_bind (iterate_escapes _)
  intro walked
  apply raisesOnly_bind (iterate_escapes _)
  intro defenseWalked
  exact parseJudgeResponse_escapes _ _ _ _

theorem answering_escapes (task : LlmTask) : RaisesOnly Escapes (answering answers task) :=
  raisesOnly_ok _ _

theorem runTribunal_escapes :
    RaisesOnly Escapes (runTribunal decoders (answering answers) retry criterion) := by
  rw [runTribunal]
  apply raisesOnly_bind (answering_escapes _)
  intro prosecution
  apply raisesOnly_bind (parseArguments_escapes _)
  intro prosecutionArgs
  apply raisesOnly_bind (answering_escapes _)
  intro defense
  apply raisesOnly_bind (parseArguments_escapes _)
  intro defenseArgs
  exact runJudge_escapes _ _

theorem judgmentOfTribunal_escapes (tribunal : TribunalResult) :
    RaisesOnly Escapes (judgmentOfTribunal criterion tribunal) := by
  rw [judgmentOfTribunal, TribunalResult.toCriterionResult]
  apply raisesOnly_bind
  · split
    · exact raisesOnly_ok _ _
    · exact raisesOnly_error (by decide)
  · intro result
    exact raisesOnly_ok _ _

theorem judgeByTribunal_escapes :
    RaisesOnly Escapes (judgeByTribunal settings decoders (answering answers) criterion) := by
  rw [judgeByTribunal]
  apply raisesOnly_bind runTribunal_escapes
  intro first
  split
  · apply raisesOnly_bind runTribunal_escapes
    intro second
    split
    · exact judgmentOfTribunal_escapes _
    · split
      · exact judgmentOfTribunal_escapes _
      · exact raisesOnly_ok _ _
  · exact judgmentOfTribunal_escapes _

theorem parseJudgmentResponse_escapes (content : String) :
    RaisesOnly Escapes (parseJudgmentResponse decoders content criterion) := by
  rw [parseJudgmentResponse]
  split
  · exact raisesOnly_ok _ _
  · exact raisesOnly_error (loadsError_escapes _)
  · apply raisesOnly_bind (getField_escapes _ _ _)
    intro result
    apply raisesOnly_bind (upperOf_escapes _)
    intro resultString
    apply raisesOnly_bind (getField_escapes _ _ _)
    intro reason
    split
    · exact raisesOnly_ok _ _
    · exact raisesOnly_error (by decide)

theorem judgeSingleCriterion_escapes : RaisesOnly Escapes
      (judgeSingleCriterion settings decoders (answering answers) criterion) := by
  rw [judgeSingleCriterion]
  split
  · exact judgeByTribunal_escapes
  · split
    · apply raisesOnly_bind
      · rw [runSimplifiedTribunal]
        apply raisesOnly_bind (answering_escapes _)
        intro prosecution
        apply raisesOnly_bind (parseArguments_escapes _)
        intro prosecutionArgs
        exact runJudge_escapes _ _
      · intro tribunal
        exact judgmentOfTribunal_escapes _
    · apply raisesOnly_bind (answering_escapes _)
      intro content
      apply raisesOnly_bind (parseJudgmentResponse_escapes _)
      intro result
      exact raisesOnly_ok _ _

end

section

variable {criteriaMap : Dict String Criterion} {judge : Criterion → Except PyError Judgment}
  {ids rest : List String} {acc : JudgmentAcc}

theorem judgeLoop_returns_iff (escapes : ∀ criterion, RaisesOnly Escapes (judge criterion)) :
    Returns (judgeLoop criteriaMap judge ids rest acc) ↔
      ∀ id ∈ rest, ∀ criterion, criteriaMap.get? id = some criterion →
        Returns (judge criterion) := by
  induction rest generalizing acc with
  | nil => simp [judgeLoop]
  | cons id rest ih =>
    rw [judgeLoop, List.forall_mem_cons]
    cases found : criteriaMap.get? id with
    | none => simp [ih]
    | some criterion =>
      cases judged : judge criterion with
      | ok judgment => simp [ih, judged]
      | error exn =>
        have escaped := escapes criterion exn judged
        cases exn with
        | llmCreditExhausted level => simp [Escapes, PyError.isCreditExhausted] at escaped
        | llmUnavailable => simp [Escapes] at escaped
        | _ => simp [judged]

theorem judgeLoop_records (escapes : ∀ criterion, RaisesOnly Escapes (judge criterion))
    {final : JudgmentAcc} (ran : judgeLoop criteriaMap judge ids rest acc = .ok final)
    {id : String} {criterion : Criterion} {judgment : Judgment}
    (found : criteriaMap.get? id = some criterion) (judged : judge criterion = .ok judgment)
    (pending : id ∈ rest ∨ acc.judgmentResults.get? id = some judgment.1) :
    final.judgmentResults.get? id = some judgment.1 := by
  induction rest generalizing acc with
  | nil =>
    rw [← Except.ok.inj ran]
    rcases pending with inside | recorded
    · cases inside
    · exact recorded
  | cons other rest ih =>
    rw [judgeLoop] at ran
    cases otherFound : criteriaMap.get? other with
    | none =>
      rw [otherFound] at ran
      apply ih ran
      rcases pending with inside | recorded
      · rcases List.mem_cons.mp inside with rfl | later
        · rw [found] at otherFound
          cases otherFound
        · exact .inl later
      · exact .inr recorded
    | some otherCriterion =>
      cases otherJudged : judge otherCriterion with
      | ok otherJudgment =>
        simp only [otherFound, otherJudged] at ran
        apply ih ran
        by_cases same : other = id
        · subst same
          rw [found] at otherFound
          cases otherFound
          rw [judged] at otherJudged
          cases otherJudged
          exact .inr (by simp [JudgmentAcc.judged])
        · rcases pending with inside | recorded
          · rcases List.mem_cons.mp inside with here | later
            · exact absurd here.symm same
            · exact .inl later
          · exact .inr (by simpa [JudgmentAcc.judged, same] using recorded)
      | error exn =>
        have escaped := escapes otherCriterion exn otherJudged
        simp only [otherFound, otherJudged] at ran
        cases exn with
        | llmCreditExhausted level => simp [Escapes, PyError.isCreditExhausted] at escaped
        | llmUnavailable => simp [Escapes] at escaped
        | _ => cases ran

end

def neededCriteria (state : EvalGraphState) : List Criterion :=
  match state.criteria? with
  | none => []
  | some testingCriteria =>
    (state.needsJudgment.getD []).filterMap fun id =>
      (criteriaMapOf testingCriteria.criteria).get? id

def JudgesEveryCriterion (settings : EvalSettings) (decoders : Decoders)
    (answers : String → Answers) (elapsedMs : Rat) (state : EvalGraphState) : Prop :=
  ∃ update, evaluationNode (judgeWith settings decoders fun id => answering (answers id))
      elapsedMs state = .ok update ∧
    ∀ criterion ∈ neededCriteria state, ∃ result,
      (update.judgmentResults.getD .empty).get? criterion.id = some result ∧
        result.criterionId = criterion.id ∧ IsDelivered result.result

theorem id_of_get?_criteriaMapOf {criteria : List Criterion} {id : String}
    {criterion : Criterion} (found : (criteriaMapOf criteria).get? id = some criterion) :
    criterion.id = id := by
  rcases List.mem_map.mp (Dict.mem_of_get?_ofList found) with ⟨other, -, entry⟩
  cases entry
  rfl

theorem evaluationNode_returns_iff {judge : Criterion → Except PyError Judgment}
    {elapsedMs : Rat} {state : EvalGraphState}
    (escapes : ∀ criterion, RaisesOnly Escapes (judge criterion)) :
    Returns (evaluationNode judge elapsedMs state) ↔
      ∀ criterion ∈ neededCriteria state, Returns (judge criterion) := by
  rw [evaluationNode, neededCriteria]
  cases state.criteria? with
  | none => simp
  | some testingCriteria =>
    dsimp only
    generalize state.needsJudgment.getD [] = ids
    have looped := @judgeLoop_returns_iff (criteriaMapOf testingCriteria.criteria) judge ids
      ids {} escapes
    split
    · next empty => simp [empty]
    · rw [returns_bind_pure, looped]
      simp only [List.mem_filterMap]
      constructor
      · rintro judged criterion ⟨id, inside, found⟩
        exact judged id inside criterion found
      · intro judged id inside criterion found
        exact judged criterion ⟨id, inside, found⟩

/-- While the LLM answers every call, layer 2 judges all criteria exactly when the answers
for each of them are readable; one that is not raises out of the node. -/
theorem judgesEveryCriterion_iff (settings : EvalSettings) (decoders : Decoders)
    (answers : String → Answers) (elapsedMs : Rat) (state : EvalGraphState) :
    JudgesEveryCriterion settings decoders answers elapsedMs state ↔
      ∀ criterion ∈ neededCriteria state,
        Judgeable decoders settings criterion (answers criterion.id) := by
  have escapes : ∀ criterion, RaisesOnly Escapes
      (judgeWith settings decoders (fun id => answering (answers id)) criterion) :=
    fun criterion => judgeSingleCriterion_escapes
  have readable : ∀ criterion, Returns
      (judgeWith settings decoders (fun id => answering (answers id)) criterion) ↔
        Judgeable decoders settings criterion (answers criterion.id) :=
    fun criterion => judgeSingleCriterion_returns_iff
  simp only [← readable]
  constructor
  · rintro ⟨update, ran, -⟩
    exact (evaluationNode_returns_iff escapes).mp ⟨update, ran⟩
  · intro judged
    rcases (evaluationNode_returns_iff escapes).mpr judged with ⟨update, ran⟩
    refine ⟨update, ran, fun criterion needed => ?_⟩
    rcases judged criterion needed with ⟨judgment, delivered⟩
    rcases evaluationNode_eq_buildResponse ran with ⟨acc, rfl, looped⟩
    rw [neededCriteria] at needed
    split at needed
    · cases needed
    · next testingCriteria loaded =>
      rcases List.mem_filterMap.mp needed with ⟨id, inside, found⟩
      have sameId := id_of_get?_criteriaMapOf found
      subst sameId
      have recorded := judgeLoop_records escapes (looped testingCriteria loaded) found
        delivered (.inl inside)
      rcases judgeSingleCriterion_ok delivered with ⟨resultId, -, result⟩
      exact ⟨judgment.1, recorded, resultId, result⟩

def arrayDecoders : Decoders where
  loads := fun text => if text = "[]" then .ok (.arr []) else .error .jsonDecodeError
  floatOfString := fun _ => none

def arrayAnswers (id : String) : Answers := fun task =>
  if id = "CC6.1-1" ∧ task = .prosecute false then "[]" else "PASS"

def twoOpenCriteria : EvalGraphState where
  needsJudgment := some ["CC6.1-1", "CC6.1-2"]
  testingCriteria := some (some
    { controlId := "CC6.1"
      framework := "SOC2"
      criteria :=
        [{ id := "CC6.1-1", category := "access", weight := 1 / 4 },
          { id := "CC6.1-2", category := "access", weight := 1 / 20 }] })

/-- An array instead of an object for one criterion ends the judging of both. -/
theorem array_answer_ends_node :
    ¬ JudgesEveryCriterion {} arrayDecoders arrayAnswers 0 twoOpenCriteria := by
  rintro ⟨update, ran, -⟩
  have raised : (evaluationNode
      (judgeWith {} arrayDecoders fun id => answering (arrayAnswers id)) 0
        twoOpenCriteria).toBool = false := by
    decide +kernel
  rw [ran] at raised
  cases raised

end Onpremai.AgentEval
