import Onpremai.AgentEval.Responses
import Onpremai.Library.Blocks
import Onpremai.Library.JsonText
import Onpremai.Library.VisibleLines

/-!
# Cut and framed answers

An answer with a verdict is decoded, and where that fails its text is searched for the words of
the verdicts.  A cut of a JSON object never decodes to anything else, so a FAIL is turned into a
PASS by the search only: in the cuts of an answer that holds the word somewhere.
-/

namespace Onpremai.AgentEval

open Onpremai.Library

/-- The exception that the runtime raises for a text that it does not decode. -/
def loadsError : JsonText.Failure → LoadsError
  | .noDocument => .jsonDecodeError
  | .tooManyDigits => .valueError
  | .tooDeep => .recursionError

/-- The decoding functions of the runtime: `json.loads` within its limits, and `float`. -/
def runtimeDecoders (reader : JsonText.Reader) (floatOfString : String → Option Rat) :
    Decoders where
  loads := fun text => (JsonText.loads reader text.toList).mapError loadsError
  floatOfString := floatOfString

/-- The calls whose answers hold a verdict. -/
inductive VerdictCall where
  | judge
  | single
  deriving DecidableEq

namespace VerdictCall

/-- The field that holds the verdict. -/
def key : VerdictCall → String
  | .judge => "verdict"
  | .single => "result"

def document : VerdictCall → String → String
  | .judge => stripMarkdownFences
  | .single => fun content => dropFenceLines (Text.strip content)

/-- The text that is searched for words. -/
def searched : VerdictCall → String → String
  | .judge => stripMarkdownFences
  | .single => id

def searches : VerdictCall → JsonText.Failure → Bool
  | _, .noDocument => true
  | .judge, .tooManyDigits => true
  | _, _ => false

end VerdictCall

section

variable (reader : JsonText.Reader) (floatOfString : String → Option Rat) (criterion : Criterion)
  (prosecutionArgs defenseArgs : Json)

def ParsedAs (call : VerdictCall) (content : String) (verdict : CriterionResultEnum) : Prop :=
  match call with
  | .judge => ∃ result, parseJudgeResponse (runtimeDecoders reader floatOfString) content
      criterion.id prosecutionArgs defenseArgs = .ok result ∧ result.verdict = verdict
  | .single => ∃ result, parseJudgmentResponse (runtimeDecoders reader floatOfString) content
      criterion = .ok result ∧ result.result = verdict

def NamesFail (call : VerdictCall) (fields : List (String × Json)) : Prop :=
  (∃ named, Json.field? call.key fields = some (.str named) ∧ Text.upper named = "FAIL") ∧
    (call = .judge → ∃ confidence, fieldOr fields "confidence" (.num (1 / 2)) = .num confidence)

def FailingAnswer (call : VerdictCall) (answer : String) : Prop :=
  ∃ fields, JsonText.loads reader answer.toList = .ok (.obj fields) ∧ NamesFail call fields

/-- The answer stands in a text with prose around it: the text does not decode to anything but
the answer's own object. -/
def Framed (call : VerdictCall) (answer text : String) : Prop := answer.toList <:+: text.toList ∧
    ∀ value, JsonText.loads reader (call.document text).toList = .ok value →
      JsonText.loads reader answer.toList = .ok value

def IsSearched (call : VerdictCall) (text : String) : Prop :=
  ∃ failure, JsonText.loads reader (call.document text).toList = .error failure ∧
    call.searches failure = true

end

/-! ## The parsers -/

section

variable {reader : JsonText.Reader} {floatOfString : String → Option Rat} {criterion : Criterion}
  {prosecutionArgs defenseArgs : Json} {call : VerdictCall} {content : String}

theorem verdictFromText_eq_pass_iff {text : String} :
    verdictFromText text = .pass ↔ Text.contains "pass" (Text.lower text) = true := by
  rw [verdictFromText]
  split
  · next found => exact iff_of_true rfl found
  · next absent => exact iff_of_false (by split <;> simp) absent

theorem verdictOf_fail : verdictOf "FAIL" = .fail := by decide

theorem loads_of_decoded {text : String} {value : Json}
    (decoded : JsonText.loads reader text.toList = .ok value) :
    (runtimeDecoders reader floatOfString).loads text = .ok value := by
  change (JsonText.loads reader text.toList).mapError loadsError = .ok value
  rw [decoded]
  rfl

theorem loads_of_undecoded {text : String} {failure : JsonText.Failure}
    (undecoded : JsonText.loads reader text.toList = .error failure) :
    (runtimeDecoders reader floatOfString).loads text = .error (loadsError failure) := by
  change (JsonText.loads reader text.toList).mapError loadsError = _
  rw [undecoded]
  rfl

theorem floatOf_num (decoders : Decoders) (value : Rat) :
    OverflowsFloat (.num value) ∨ floatOf decoders (.num value) = .ok value := by
  by_cases large : floatLimit ≤ value ∨ value ≤ -floatLimit
  · exact .inl large
  · exact .inr (if_neg large)

section

variable {decoders : Decoders} {fields : List (String × Json)} {named : String}

theorem judge_ne_pass {confidence : Rat} {criterionId : String} {result : TribunalResult}
    (loaded : decoders.loads (stripMarkdownFences content) = .ok (.obj fields))
    (verdict : fieldOr fields "verdict" (.str "FAIL") = .str named)
    (failing : Text.upper named = "FAIL")
    (number : fieldOr fields "confidence" (.num (1 / 2)) = .num confidence)
    (parsed : parseJudgeResponse decoders content criterionId prosecutionArgs defenseArgs =
      .ok result) : result.verdict ≠ .pass := by
  have readable := parseJudgeResponse_returns_iff.mp ⟨result, parsed⟩
  have opinion := (parseJudgeResponse_delivers parsed).2.1
  simp only [JudgeReadable, loaded, number] at readable
  have read := (floatOf_num decoders confidence).resolve_left readable.2
  simp only [opinionOf, loaded, opinionOfFields, number, read] at opinion
  rw [verdict, namedVerdict, failing, verdictOf_fail] at opinion
  rw [opinion]
  decide

theorem single_ne_pass {result : CriterionResult}
    (loaded : decoders.loads (dropFenceLines (Text.strip content)) = .ok (.obj fields))
    (verdict : fieldOr fields "result" (.str "FAIL") = .str named)
    (failing : Text.upper named = "FAIL")
    (parsed : parseJudgmentResponse decoders content criterion = .ok result) :
    result.result ≠ .pass := by
  rw [parseJudgmentResponse] at parsed
  simp only [loaded, getField_obj, ok_bind, verdict, upperOf, failing, verdictOf_fail] at parsed
  split at parsed
  · cases parsed
    intro passed
    cases passed
  · cases parsed

end

theorem not_parsedAs_of_namesFail {fields : List (String × Json)}
    (decoded : JsonText.loads reader (call.document content).toList = .ok (.obj fields))
    (names : NamesFail call fields) :
    ¬ ParsedAs reader floatOfString criterion prosecutionArgs defenseArgs call content .pass := by
  obtain ⟨⟨named, found, failing⟩, confident⟩ := names
  have verdict : fieldOr fields call.key (.str "FAIL") = .str named := by
    rw [fieldOr, found]
    rfl
  have loaded := @loads_of_decoded reader floatOfString _ _ decoded
  cases call with
  | judge =>
    rintro ⟨result, parsed, passed⟩
    obtain ⟨confidence, number⟩ := confident rfl
    rw [VerdictCall.document] at loaded
    exact judge_ne_pass loaded verdict failing number parsed passed
  | single =>
    rintro ⟨result, parsed, passed⟩
    exact single_ne_pass loaded verdict failing parsed passed

theorem parsedAs_of_error {failure : JsonText.Failure}
    (undecoded : JsonText.loads reader (call.document content).toList = .error failure) :
    ParsedAs reader floatOfString criterion prosecutionArgs defenseArgs call content .pass ↔
      call.searches failure = true ∧
        Text.contains "pass" (Text.lower (call.searched content)) = true := by
  have loaded := @loads_of_undecoded reader floatOfString _ _ undecoded
  rw [← verdictFromText_eq_pass_iff]
  cases call with
  | judge =>
    change (runtimeDecoders reader floatOfString).loads (stripMarkdownFences content) = _
      at loaded
    rw [ParsedAs, parseJudgeResponse]
    cases failure with
    | noDocument =>
      simp [loaded, loadsError, judgeFromText, VerdictCall.searches, VerdictCall.searched]
    | tooManyDigits =>
      simp [loaded, loadsError, judgeFromText, VerdictCall.searches, VerdictCall.searched]
    | tooDeep => simp [loaded, loadsError, VerdictCall.searches]
  | single =>
    change (runtimeDecoders reader floatOfString).loads (dropFenceLines (Text.strip content)) = _
      at loaded
    rw [ParsedAs, parseJudgmentResponse]
    cases failure with
    | noDocument =>
      simp [loaded, loadsError, judgmentFromText, VerdictCall.searches, VerdictCall.searched]
    | tooManyDigits => simp [loaded, loadsError, VerdictCall.searches]
    | tooDeep => simp [loaded, loadsError, VerdictCall.searches]

end

/-- A character that stands around the object of an answer: a space or its last brace. -/
def IsOuter (char : Char) : Prop := Text.isSpace char = true ∨ char = '\x7d'

section

variable {char : Char}

theorem isSpace_code (space : Text.isSpace char = true) :
    char.toNat ≤ 32 ∨ 133 ≤ char.toNat ∧ char.toNat ≠ 0x130 ∧ char.toNat ≠ 0x212a := by
  simp only [Text.isSpace, Bool.or_eq_true, Bool.and_eq_true, decide_eq_true_eq, beq_iff_eq]
    at space
  omega

theorem not_mem_of_isSpace {others : List Char} (space : Text.isSpace char = true)
    (visible : (others.all fun other => !Text.isSpace other) = true) : char ∉ others := by
  intro member
  have refused := List.all_eq_true.mp visible char member
  rw [space] at refused
  cases refused

theorem isDigit_of_isSpace (space : Text.isSpace char = true) : JsonText.isDigit char = false := by
  have code := isSpace_code space
  rw [JsonText.isDigit, Bool.and_eq_false_iff, decide_eq_false_iff_not, decide_eq_false_iff_not,
    Char.le_def, Char.le_def, UInt32.le_iff_toNat_le, UInt32.le_iff_toNat_le]
  have same : char.val.toNat = char.toNat := rfl
  have low : '0'.val.toNat = 48 := rfl
  have high : '9'.val.toNat = 57 := rfl
  omega

theorem opens_of_isSpace (space : Text.isSpace char = true) : JsonText.opens char = false := by
  rw [JsonText.opens, isDigit_of_isSpace space, Bool.false_or, List.contains_eq_mem,
    decide_eq_false_iff_not]
  exact not_mem_of_isSpace space (by decide)

theorem breaks_of_isSpace (space : Text.isSpace char = true) : JsonText.Breaks char := by
  exact ⟨isDigit_of_isSpace space, not_mem_of_isSpace space (by decide)⟩

theorem isSpace_of_isBlank (blank : JsonText.isBlank char = true) : Text.isSpace char = true := by
  simp only [JsonText.isBlank, Bool.or_eq_true, decide_eq_true_eq] at blank
  rcases blank with ((rfl | rfl) | rfl) | rfl <;> decide

theorem lowerChar_of_isOuter (outer : IsOuter char) : Text.lowerChar char = [char] := by
  rcases outer with space | rfl
  · have code := isSpace_code space
    have small : ¬ (char.val ≥ 'A'.val ∧ char.val ≤ 'Z'.val) := by
      rw [ge_iff_le, UInt32.le_iff_toNat_le, UInt32.le_iff_toNat_le]
      have same : char.val.toNat = char.toNat := rfl
      have low : 'A'.val.toNat = 65 := rfl
      have high : 'Z'.val.toNat = 90 := rfl
      omega
    have kept : char.toLower = char := dif_neg small
    rw [Text.lowerChar, if_neg (by omega), if_neg (by omega), kept]
  · decide

end

theorem lower_outer {chars : List Char} (outer : ∀ char ∈ chars, IsOuter char) :
    ∀ char ∈ chars.flatMap Text.lowerChar, char ∉ "pass".toList := by
  intro char lowered
  obtain ⟨source, member, from_source⟩ := List.mem_flatMap.mp lowered
  rw [lowerChar_of_isOuter (outer source member), List.mem_singleton] at from_source
  subst from_source
  rcases outer char member with space | rfl
  · exact not_mem_of_isSpace space (by decide)
  · decide

theorem contains_pass_inner {first inner last : List Char}
    (outerFirst : ∀ char ∈ first, IsOuter char) (outerLast : ∀ char ∈ last, IsOuter char)
    (found : Text.contains "pass" (Text.lower (String.ofList (first ++ inner ++ last))) = true) :
    Text.contains "pass" (Text.lower (String.ofList inner)) = true := by
  simp only [Text.contains_iff, Text.lower, String.toList_ofList, List.flatMap_append]
    at found ⊢
  apply infix_of_infix_append_left (by decide) (lower_outer outerFirst)
  exact infix_of_infix_append_right (by decide) (lower_outer outerLast) found

theorem contains_lower_of_part {word part text : String} (inside : part.toList <:+: text.toList)
    (found : Text.contains word (Text.lower part) = true) :
    Text.contains word (Text.lower text) = true := by
  rw [Text.contains_iff, Text.lower, String.toList_ofList] at found ⊢
  obtain ⟨before, after, split⟩ := inside
  rw [← split, List.flatMap_append, List.flatMap_append]
  exact found.trans ⟨_, _, rfl⟩

section

variable {reader : JsonText.Reader} {floatOfString : String → Option Rat} {criterion : Criterion}
  {prosecutionArgs defenseArgs : Json} {call : VerdictCall} {answer : String}
  {fields : List (String × Json)}

theorem exists_loads_strip {cut : String}
    (whole : JsonText.loads reader answer.toList = .ok (.obj fields))
    (starts : cut.toList <+: answer.toList) :
    ∃ rest, JsonText.loads reader ((Text.strip cut).toList ++ rest) = .ok (.obj fields) := by
  obtain ⟨first, last, parts, spaces, -⟩ := Text.exists_stripChars Text.isSpace cut.toList
  obtain ⟨rest, joined⟩ := starts
  refine ⟨last ++ rest, ?_⟩
  rw [← joined, parts, List.append_assoc, List.append_assoc] at whole
  rw [Text.strip, String.toList_ofList]
  exact JsonText.loads_of_not_opens_append
    (fun char member => opens_of_isSpace (spaces char member)) whole

theorem document_eq_strip {cut : String}
    (whole : JsonText.loads reader answer.toList = .ok (.obj fields))
    (starts : cut.toList <+: answer.toList) : call.document cut = Text.strip cut := by
  obtain ⟨rest, decoded⟩ := exists_loads_strip whole starts
  have unfenced : Text.startsWith "```" (Text.strip cut) = false := by
    rw [Bool.eq_false_iff, Text.startsWith]
    intro fenced
    obtain ⟨tail, opened⟩ := List.isPrefixOf_iff_prefix.mp fenced
    rw [← opened] at decoded
    have failed := @JsonText.loads_cons_of_not_opens reader '`' (by decide) (by decide)
      ('`' :: '`' :: (tail ++ rest))
    have marks : "```".toList ++ tail ++ rest = '`' :: '`' :: '`' :: (tail ++ rest) := rfl
    rw [marks, failed] at decoded
    cases decoded
  cases call with
  | judge =>
    change stripMarkdownFences cut = _
    rw [stripMarkdownFences]
    simp [unfenced]
  | single =>
    change dropFenceLines (Text.strip cut) = _
    rw [dropFenceLines, unfenced, if_neg Bool.false_ne_true]

theorem strip_part (text : String) : (Text.strip text).toList <:+: text.toList := by
  obtain ⟨first, last, parts, -, -⟩ := Text.exists_stripChars Text.isSpace text.toList
  rw [Text.strip, String.toList_ofList]
  exact ⟨first, last, parts.symm⟩

theorem searched_cut {cut : String}
    (whole : JsonText.loads reader answer.toList = .ok (.obj fields))
    (starts : cut.toList <+: answer.toList) :
    (Text.strip cut).toList <:+: (call.searched cut).toList ∧
      (call.searched cut).toList <:+: cut.toList := by
  cases call with
  | judge =>
    rw [show VerdictCall.judge.searched cut = Text.strip cut from
      @document_eq_strip reader .judge answer fields cut whole starts]
    exact ⟨List.infix_rfl, strip_part cut⟩
  | single => exact ⟨strip_part cut, List.infix_rfl⟩

theorem cuts_iff (failing : FailingAnswer reader call answer) :
    (∀ cut : String, cut.toList <+: answer.toList →
        ¬ ParsedAs reader floatOfString criterion prosecutionArgs defenseArgs call cut .pass) ↔
      Text.contains "pass" (Text.lower answer) = false := by
  obtain ⟨fields, whole, names⟩ := failing
  constructor
  · intro kept
    rw [Bool.eq_false_iff]
    intro found
    obtain ⟨before, blanks, ends, blank⟩ := JsonText.exists_brace_of_loads whole
    obtain ⟨first, last, parts, spaces, spacesLast⟩ := Text.exists_stripChars Text.isSpace before
    have starts : (String.ofList before).toList <+: answer.toList := by
      rw [String.toList_ofList, ends]
      exact ⟨_, rfl⟩
    have stripped : (call.document (String.ofList before)).toList =
        Text.stripChars Text.isSpace before := by
      rw [document_eq_strip whole starts, Text.strip, String.toList_ofList, String.toList_ofList]
    have undecoded : JsonText.loads reader (call.document (String.ofList before)).toList =
        .error .noDocument := by
      rw [stripped]
      rw [ends, parts, List.append_assoc, List.append_assoc] at whole
      exact JsonText.loads_before_brace
        (JsonText.loads_of_not_opens_append
          (fun char member => opens_of_isSpace (spaces char member)) whole)
        fun char member => breaks_of_isSpace (spacesLast char member)
    apply kept (String.ofList before) starts
    rw [parsedAs_of_error undecoded]
    refine ⟨by cases call <;> rfl, ?_⟩
    apply contains_lower_of_part (searched_cut whole starts).1
    rw [Text.strip, String.toList_ofList]
    apply @contains_pass_inner first _ (last ++ '\x7d' :: blanks)
      (fun char member => .inl (spaces char member))
    · intro char member
      rcases List.mem_append.mp member with trailing | brace
      · exact .inl (spacesLast char trailing)
      · rcases List.mem_cons.mp brace with rfl | behind
        · exact .inr rfl
        · exact .inl (isSpace_of_isBlank (blank char behind))
    · rw [← List.append_assoc, ← parts, ← ends, String.ofList_toList]
      exact found
  · intro absent cut starts parsed
    have unfound : Text.contains "pass" (Text.lower (call.searched cut)) = false := by
      rw [Bool.eq_false_iff] at absent ⊢
      intro found
      exact absent (contains_lower_of_part
        ((searched_cut whole starts).2.trans starts.isInfix) found)
    cases decoded : JsonText.loads reader (call.document cut).toList with
    | error failure =>
      rw [parsedAs_of_error decoded, unfound] at parsed
      cases parsed.2
    | ok value =>
      obtain ⟨rest, joined⟩ := exists_loads_strip whole starts
      have same : value = .obj fields := by
        rw [document_eq_strip whole starts] at decoded
        exact JsonText.loads_of_append joined decoded
      rw [same] at decoded
      exact not_parsedAs_of_namesFail decoded names parsed

theorem framed_iff {text : String} (failing : FailingAnswer reader call answer)
    (framed : Framed reader call answer text) :
    ¬ ParsedAs reader floatOfString criterion prosecutionArgs defenseArgs call text .pass ↔
      ¬ IsSearched reader call text ∨
        Text.contains "pass" (Text.lower (call.searched text)) = false := by
  obtain ⟨fields, whole, names⟩ := failing
  rw [IsSearched]
  cases decoded : JsonText.loads reader (call.document text).toList with
  | error failure =>
    rw [parsedAs_of_error decoded, not_and_or]
    simp
  | ok value =>
    have same := (framed.2 value decoded).symm.trans whole
    cases same
    refine iff_of_true (not_parsedAs_of_namesFail decoded names) (.inl ?_)
    rintro ⟨failure, undecoded, -⟩
    cases undecoded

/-- An answer with FAIL is kept from a PASS in all its cuts exactly where it does not hold the word
in any letter case, and with prose around it exactly where the parser does not search the text, or
does not find the word in it. -/
theorem failing_kept_iff (reader : JsonText.Reader) (floatOfString : String → Option Rat)
    (criterion : Criterion) (prosecutionArgs defenseArgs : Json) (call : VerdictCall)
    (answer : String) (failing : FailingAnswer reader call answer) :
    ((∀ cut : String, cut.toList <+: answer.toList →
        ¬ ParsedAs reader floatOfString criterion prosecutionArgs defenseArgs call cut .pass) ↔
      Text.contains "pass" (Text.lower answer) = false) ∧
    ∀ text, Framed reader call answer text →
      (¬ ParsedAs reader floatOfString criterion prosecutionArgs defenseArgs call text .pass ↔
        ¬ IsSearched reader call text ∨
          Text.contains "pass" (Text.lower (call.searched text)) = false) :=
  ⟨cuts_iff failing, fun _ framed => framed_iff failing framed⟩

end

section

variable (reader : JsonText.Reader) (floatOfString : String → Option Rat) (criterion : Criterion)
  (prosecutionArgs defenseArgs : Json)

theorem exists_of_any {Error Result : Type} {outcome : Except Error Result}
    {accepts : Result → Bool} (some : outcome.toOption.any accepts = true) :
    ∃ result, outcome = .ok result ∧ accepts result = true := by
  cases outcome with
  | error exn => cases some
  | ok result => exact ⟨result, rfl, some⟩

def isFail : Json → Bool
  | .str named => decide (Text.upper named = "FAIL")
  | _ => false

def isNumber : Json → Bool
  | .num _ => true
  | _ => false

/-- Is the value an object that names FAIL? -/
def isFailing (call : VerdictCall) : Json → Bool
  | .obj fields => (Json.field? call.key fields).any isFail &&
      (call != .judge || isNumber (fieldOr fields "confidence" (.num (1 / 2))))
  | _ => false

variable {reader} in
theorem failingAnswer_of_isFailing {call : VerdictCall} {answer : String}
    (failing : (JsonText.loads reader answer.toList).toOption.any (isFailing call) = true) :
    FailingAnswer reader call answer := by
  obtain ⟨value, decoded, names⟩ := exists_of_any failing
  cases value with
  | obj fields =>
    refine ⟨fields, decoded, ?_⟩
    · simp only [isFailing, Bool.and_eq_true, Bool.or_eq_true, bne_iff_ne] at names
      constructor
      · obtain ⟨named, found, fail⟩ := (Option.any_eq_true ..).mp names.1
        cases named with
        | str named => exact ⟨named, found, of_decide_eq_true fail⟩
        | _ => cases fail
      · intro judge
        have number := names.2.resolve_left (not_not.mpr judge)
        cases held : fieldOr fields "confidence" (.num (1 / 2)) with
        | num confidence => exact ⟨confidence, rfl⟩
        | _ =>
          rw [held] at number
          cases number
  | _ => cases names

def parsesAsPass (call : VerdictCall) (content : String) : Bool :=
  match call with
  | .judge => (parseJudgeResponse (runtimeDecoders reader floatOfString) content criterion.id
      prosecutionArgs defenseArgs).toOption.any fun result => decide (result.verdict = .pass)
  | .single => (parseJudgmentResponse (runtimeDecoders reader floatOfString) content
      criterion).toOption.any fun result => decide (result.result = .pass)

variable {reader floatOfString criterion prosecutionArgs defenseArgs} in
theorem parsedAs_of_parsesAsPass {call : VerdictCall} {content : String}
    (passes : parsesAsPass reader floatOfString criterion prosecutionArgs defenseArgs call content =
      true) :
    ParsedAs reader floatOfString criterion prosecutionArgs defenseArgs call content .pass := by
  cases call with
  | judge =>
    simp only [parsesAsPass] at passes
    obtain ⟨result, parsed, passed⟩ := exists_of_any passes
    simp only [ParsedAs]
    exact ⟨result, parsed, of_decide_eq_true passed⟩
  | single =>
    simp only [parsesAsPass] at passes
    obtain ⟨result, parsed, passed⟩ := exists_of_any passes
    simp only [ParsedAs]
    exact ⟨result, parsed, of_decide_eq_true passed⟩

end

/-- The decoder's limits, with a reader for the one fraction below. -/
def halfReader : JsonText.Reader where
  maxDigits := 4300
  maxDepth := 1000
  float := fun _ => 1 / 2

def failAnswer : String :=
  "\x7b\"verdict\": \"FAIL\", \"justification\": \"It does not meet the pass condition.\", " ++
    "\"confidence\": 0.5\x7d"

def cutAnswer : String :=
  "\x7b\"verdict\": \"FAIL\", \"justification\": \"It does not meet the pass cond"

/-- The answer, with a sentence in front of it. -/
def framedAnswer : String := "The criterion is not passed. " ++ failAnswer

def mfaCriterion : Criterion where
  id := "CC6.1-1"
  category := "access"

theorem failingAnswer_failAnswer : FailingAnswer halfReader .judge failAnswer :=
  failingAnswer_of_isFailing (by decide +kernel)

theorem failing_kept_iff_failAnswer : ((∀ cut : String, cut.toList <+: failAnswer.toList →
        ¬ ParsedAs halfReader (fun _ => none) mfaCriterion (.arr []) (.arr []) .judge cut .pass) ↔
      Text.contains "pass" (Text.lower failAnswer) = false) ∧
    ∀ text, Framed halfReader .judge failAnswer text →
      (¬ ParsedAs halfReader (fun _ => none) mfaCriterion (.arr []) (.arr []) .judge text .pass ↔
        ¬ IsSearched halfReader .judge text ∨
          Text.contains "pass" (Text.lower (VerdictCall.judge.searched text)) = false) :=
  failing_kept_iff halfReader (fun _ => none) mfaCriterion (.arr []) (.arr []) .judge failAnswer
    failingAnswer_failAnswer

/-- A FAIL that is cut within its justification, and one that follows a sentence, are parsed as a
PASS. -/
theorem failAnswer_parsed_as_pass : FailingAnswer halfReader .judge failAnswer ∧
      cutAnswer.toList <+: failAnswer.toList ∧
      ParsedAs halfReader (fun _ => none) mfaCriterion (.arr []) (.arr []) .judge cutAnswer
        .pass ∧
      Framed halfReader .judge failAnswer framedAnswer ∧
      ParsedAs halfReader (fun _ => none) mfaCriterion (.arr []) (.arr []) .judge framedAnswer
        .pass := by
  refine ⟨failingAnswer_failAnswer, ?_, parsedAs_of_parsesAsPass (by decide +kernel), ⟨?_, ?_⟩,
    parsedAs_of_parsesAsPass (by decide +kernel)⟩
  · rw [← List.isPrefixOf_iff_prefix]
    decide +kernel
  · have joined : framedAnswer.toList =
        "The criterion is not passed. ".toList ++ failAnswer.toList := String.toList_append
    refine ⟨"The criterion is not passed. ".toList, [], ?_⟩
    rw [List.append_nil]
    exact joined.symm
  · intro value decoded
    have undecoded : (JsonText.loads halfReader
        (VerdictCall.judge.document framedAnswer).toList).toOption.isNone = true := by
      decide +kernel
    rw [decoded] at undecoded
    cases undecoded

end Onpremai.AgentEval
