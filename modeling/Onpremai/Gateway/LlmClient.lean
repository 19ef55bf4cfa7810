import Mathlib.Tactic.Linarith
import Onpremai.Gateway.Wire
import Onpremai.Library.Except

/-!
# Client of the gateway

What the agents' client makes of an answer of the completion endpoint.  The fields of its
response hold whatever document the answer has in their place.  A request that timed out is sent
once more.
-/

namespace Onpremai.Gateway.Wire

open Onpremai.Library

/-- Structured response from the gateway. -/
structure LlmResponse where
  content : Json
  modelUsed : Json
  tierUsed : Json
  escalated : Json
  inputTokens : Json
  outputTokens : Json
  latencyMs : Json
  confidence : Json
  toolCalls : Json

/-- All budget exhausted for a tenant. -/
structure CreditExhausted where
  message : Json
  degradationLevel : Json
  tierAvailability : Json
  estimatedRecovery : Json
  canQueue : Json
  queuedPosition : Json
  tenantId : Option String
  task : String

/-- What a call of the client ends with. -/
inductive ClientResult where
  | response (response : LlmResponse)
  | creditExhausted (error : CreditExhausted)
  | unavailable (status : Nat)
  | raised

/-- The tiers that are available when the answer does not tell. -/
def defaultAvailability : Json :=
  .obj [("fast", .str "available"), ("mid", .str "available"), ("strong", .str "exhausted")]

/-- The error that an answer of status 429 is raised as. -/
def creditExhaustedError (body : Json) (tenantId : Option String) (task : String) :
    Except String CreditExhausted := do
  let degradation ← Python.getOr "degradation" (.obj []) body
  let message ← Python.getOr "message" (.str "Credit budget exhausted for tenant") body
  let degradationLevel ← Python.getOr "level" (.num 1) degradation
  let tierAvailability ← Python.getOr "tier_availability" .null degradation
  let estimatedRecovery ← Python.getOr "estimated_recovery" .null degradation
  let canQueue ← Python.getOr "can_queue" (.bool false) degradation
  let queuedPosition ← Python.getOr "queued_position" .null degradation
  return {
    message, degradationLevel, estimatedRecovery, canQueue, queuedPosition, tenantId, task
    tierAvailability :=
      if Python.truthy tierAvailability then tierAvailability else defaultAvailability }

/-- The response that an answer is read as. -/
def decodeResponse (data : Json) : Except String LlmResponse := do
  let content ← Python.getOr "content" (.str "") data
  let modelUsed ← Python.getOr "model_used" (.str "unknown") data
  let tierUsed ← Python.getOr "tier_used" (.str "unknown") data
  let escalated ← Python.getOr "escalated" (.bool false) data
  let inputTokens ← Python.getOr "input_tokens" (.num 0) data
  let outputTokens ← Python.getOr "output_tokens" (.num 0) data
  let latencyMs ← Python.getOr "latency_ms" (.num 0) data
  let confidence ← Python.getOr "confidence" .null data
  let toolCalls ← Python.getOr "tool_calls" (.arr []) data
  return {
    content, modelUsed, tierUsed, escalated, inputTokens, outputTokens, latencyMs, confidence
    toolCalls }

/-- What the client makes of an answer; an answer without content has no body. -/
def receive (status : Nat) (body : Option Json) (tenantId : Option String) (task : String) :
    ClientResult :=
  if status = 429 then
    match creditExhaustedError (body.getD (.obj [])) tenantId task with
    | .ok error => .creditExhausted error
    | .error _ => .raised
  else if 500 ≤ status then .unavailable status
  else if status < 200 ∨ 300 ≤ status then .raised
  else
    match body with
    | none => .raised
    | some data =>
      match decodeResponse data with
      | .ok response => .response response
      | .error _ => .raised

/-- What a response that was read has of the response that was sent. -/
structure DecodedFrom (sent : CompletionResponse) (response : LlmResponse) : Prop where
  content : response.content = textCodec.encode sent.content
  modelUsed : response.modelUsed = .str sent.modelUsed
  tierUsed : response.tierUsed = .str sent.tierUsed
  escalated : response.escalated = .bool sent.escalated
  latencyMs : response.latencyMs = .num sent.latencyMs
  confidence : response.confidence = .num sent.confidence
  toolCalls : ∀ calls, sent.toolCalls = some calls →
    response.toolCalls = .arr (calls.map ToolCall.codec.encode)

theorem decodeResponse_body (sent : CompletionResponse) :
    ∃ response, decodeResponse sent.body = .ok response ∧ DecodedFrom sent response := by
  refine ⟨{
    content := textCodec.encode sent.content
    modelUsed := .str sent.modelUsed
    tierUsed := .str sent.tierUsed
    escalated := .bool sent.escalated
    inputTokens := .num 0
    outputTokens := .num 0
    latencyMs := .num sent.latencyMs
    confidence := .num sent.confidence
    toolCalls := toolCallsCodec.encode sent.toolCalls }, ?_, ?_⟩
  · simp [decodeResponse, Python.getOr, CompletionResponse.body, bind, Except.bind, pure,
      Except.pure]
  · constructor
    case toolCalls =>
      intro calls carried
      rw [carried]
      rfl
    all_goals rfl

theorem creditExhaustedError_body (refusal : BudgetRefusal) (tenantId : Option String)
    (task : String) :
    ∃ error, creditExhaustedError refusal.body tenantId task = .ok error ∧
      error.tenantId = tenantId ∧ error.task = task :=
  ⟨_, rfl, rfl, rfl⟩

/-- Every completion response is read with its content, model, tier, escalation, latency and
confidence, and with its tool calls when it has a list of them; every refusal for want of a
budget is raised as such for the tenant and the task of the call. -/
theorem receive_faithful (tenantId : Option String) (task : String) :
    (∀ sent : CompletionResponse, ∃ response,
      receive 200 (some sent.body) tenantId task = .response response ∧ DecodedFrom sent response) ∧
    ∀ refusal : BudgetRefusal, ∃ error,
      receive 429 (some refusal.body) tenantId task = .creditExhausted error ∧
        error.tenantId = tenantId ∧ error.task = task := by
  constructor
  · intro sent
    obtain ⟨response, read, decoded⟩ := decodeResponse_body sent
    refine ⟨response, ?_, decoded⟩
    simp [receive, read]
  · intro refusal
    obtain ⟨error, raised, named⟩ := creditExhaustedError_body refusal tenantId task
    refine ⟨error, ?_, named⟩
    simp [receive, raised]

/-- What an agent would read from an answer of the gateway that nothing is lost of. -/
structure ReadInFull (costOf : LlmResponse → Json) (sent : CompletionResponse)
    (response : LlmResponse) : Prop extends DecodedFrom sent response where
  inputTokens : response.inputTokens = .num sent.usage.inputTokens
  outputTokens : response.outputTokens = .num sent.usage.outputTokens
  callsListed : response.toolCalls = .arr ((sent.toolCalls.getD []).map ToolCall.codec.encode)
  cost : costOf response = .num sent.costUsd

def plainAnswer : CompletionResponse where
  content := some "The control is implemented."
  modelUsed := "local"
  tierUsed := "mid"
  usage := { inputTokens := 120, outputTokens := 30 }
  confidence := 8 / 10

/-- No attribute of the response has the cost of a free and of a charged answer, and none of
the error has the ids of two queued requests.  The tokens of an answer are read as zero, its
missing tool calls as null, and the level of a queued request as one. -/
theorem cost_and_queue_unread :
    (¬ ∃ costOf, ∀ sent response, receive 200 (some (CompletionResponse.body sent)) none "chat" =
      .response response → ReadInFull costOf sent response) ∧
    (¬ ∃ queueIdOf : CreditExhausted → Json, ∀ queueId error,
      receive 429 (some (BudgetRefusal.queued queueId 4).body) none "chat" =
        .creditExhausted error →
      queueIdOf error = .str queueId) ∧
    (∃ response, receive 200 (some plainAnswer.body) none "chat" = .response response ∧
      response.inputTokens = .num 0 ∧ response.outputTokens = .num 0 ∧
      response.toolCalls = .null) ∧
    ∃ error, receive 429 (some (BudgetRefusal.queued "first" 4).body) none "chat" =
      .creditExhausted error ∧ error.degradationLevel = .num 1 := by
  refine ⟨?_, ?_, ⟨_, rfl, rfl, rfl, rfl⟩, ⟨_, rfl, rfl⟩⟩
  · intro ⟨costOf, inFull⟩
    have free := (inFull plainAnswer _ rfl).cost
    have charged := (inFull { plainAnswer with costUsd := 1 } _ rfl).cost
    have same := free.symm.trans charged
    exact absurd (Json.num.inj same) (by decide)
  · intro ⟨queueIdOf, told⟩
    have first := told "first" _ rfl
    have second := told "second" _ rfl
    have same := first.symm.trans second
    exact absurd (Json.str.inj same) (by decide)

/-! ## Calls that are tried again -/

structure RetryPolicy where
  maxAttempts : Nat := 3
  baseDelay : Rat := 1
  maxDelay : Rat := 30
  jitter : Bool := true

/-- What a decorated call ends with; without an attempt there is no error to raise. -/
structure Retried (Err Value : Type) where
  result : Except (Option Err) Value
  attempts : Nat
  delays : List Rat

section

variable {Err Value : Type} (policy : RetryPolicy) (random : Nat → Rat) (exceptions : Err → Bool)
  (call : Nat → Except Err Value)

def RetryPolicy.delay (attempt : Nat) : Rat :=
  min (policy.baseDelay * 2 ^ attempt) policy.maxDelay *
    if policy.jitter then 1 / 2 + random attempt else 1

/-- The attempts from one on, of which so many are left. -/
def retryFrom (attempt : Nat) : Nat → Retried Err Value
  | 0 => { result := .error none, attempts := 0, delays := [] }
  | left + 1 =>
    match call attempt with
    | .ok value => { result := .ok value, attempts := 1, delays := [] }
    | .error exn =>
      if exceptions exn = false ∨ attempt + 1 = policy.maxAttempts then
        { result := .error (some exn), attempts := 1, delays := [] }
      else
        let rest := retryFrom (attempt + 1) left
        { rest with
          attempts := rest.attempts + 1
          delays := policy.delay random attempt :: rest.delays }

def retry : Retried Err Value := retryFrom policy random exceptions call 0 policy.maxAttempts

/-- The attempts from one on end with the last of them: those before it failed with errors that
are retried, and it succeeds, fails otherwise, or is the last one that is allowed. -/
structure EndsWith (attempt last : Nat) (retried : Retried Err Value) : Prop where
  failed : ∀ earlier, attempt ≤ earlier → earlier < last →
    ∃ exn, call earlier = .error exn ∧ exceptions exn
  settled : last + 1 = policy.maxAttempts ∨ ∀ exn, call last = .error exn → exceptions exn = false
  result : retried.result = (call last).mapError some
  attempts : retried.attempts = last + 1 - attempt
  delays : retried.delays = (List.range' attempt (last - attempt)).map (policy.delay random)

theorem retryFrom_endsWith {attempt left : Nat} (some : left ≠ 0)
    (total : attempt + left = policy.maxAttempts) :
    ∃ last, attempt ≤ last ∧ last < policy.maxAttempts ∧ EndsWith policy random exceptions call
      attempt last (retryFrom policy random exceptions call attempt left) := by
  induction left generalizing attempt with
  | zero => exact absurd rfl some
  | succ left ih =>
    rw [retryFrom]
    cases ended : call attempt with
    | ok value =>
      refine ⟨attempt, le_rfl, by omega, by grind, ?_, ?_, by simp, by simp⟩
      · simp [ended]
      · simp [ended, Except.mapError]
    | error exn =>
      dsimp only
      split
      · next raised =>
        refine ⟨attempt, le_rfl, by omega, by grind, ?_, ?_, by simp, by simp⟩
        · simpa [ended, or_comm] using raised
        · simp [ended, Except.mapError]
      · next again =>
        rw [not_or, Bool.not_eq_false] at again
        obtain ⟨last, after, allowed, ends⟩ :=
          @ih (attempt + 1) (by omega) (by omega)
        refine ⟨last, by omega, allowed, ?_, ends.settled, ends.result, ?_, ?_⟩
        · intro earlier least before
          by_cases same : attempt = earlier
          · exact ⟨exn, same ▸ ended, again.1⟩
          · exact ends.failed earlier (by omega) before
        · change (retryFrom _ _ _ _ (attempt + 1) left).attempts + 1 = _
          rw [ends.attempts]
          omega
        · rw [ends.delays, show last - attempt = last - (attempt + 1) + 1 by omega,
            List.range'_succ, List.map_cons]

end

/-- What becomes of a completion request that the client sends. -/
inductive Exchange where
  | answered (status : Nat) (body : Option Json)
  | timedOut
  | unreachable
  | raised

inductive ClientError where
  | timeout
  | unreachable
  | received (result : ClientResult)

section

variable (tenantId : Option String) (task : String)

def completeOnce : Exchange → Except ClientError LlmResponse
  | .timedOut => .error .timeout
  | .unreachable => .error .unreachable
  | .raised => .error (.received .raised)
  | .answered status body =>
    match receive status body tenantId task with
    | .response response => .ok response
    | result => .error (.received result)

/-- Send a completion request to the gateway, and once more when it timed out. -/
def clientComplete (random : Nat → Rat) (exchange : Nat → Exchange) :
    Retried ClientError LlmResponse :=
  retry { maxAttempts := 2 } random (· matches .timeout)
    fun attempt => completeOnce tenantId task (exchange attempt)

theorem completeOnce_timeout {exchange : Exchange} :
    completeOnce tenantId task exchange = .error .timeout ↔ exchange = .timedOut := by
  cases exchange with
  | answered status body =>
    rw [completeOnce]
    split
    · simp
    · simp
  | timedOut => simp [completeOnce]
  | unreachable => simp [completeOnce]
  | raised => simp [completeOnce]

/-- A second request is sent exactly when the first timed out, after half a second to one and a
half, and the last request decides. -/
structure TriesTwice (random : Nat → Rat) (exchange : Nat → Exchange) (last : Nat) : Prop where
  second : last = 1 ↔ exchange 0 = .timedOut
  result : (clientComplete tenantId task random exchange).result =
    (completeOnce tenantId task (exchange last)).mapError some
  attempts : (clientComplete tenantId task random exchange).attempts = last + 1
  waits : (clientComplete tenantId task random exchange).delays.length = last
  delays : ∀ delay ∈ (clientComplete tenantId task random exchange).delays,
    1 / 2 ≤ delay ∧ delay < 3 / 2

theorem clientComplete_tries {random : Nat → Rat}
    (draws : ∀ attempt, 0 ≤ random attempt ∧ random attempt < 1) (exchange : Nat → Exchange) :
    ∃ last ≤ 1, TriesTwice tenantId task random exchange last := by
  obtain ⟨last, -, allowed, ends⟩ := @retryFrom_endsWith ClientError LlmResponse
    { maxAttempts := 2 } random (· matches .timeout)
    (fun attempt => completeOnce tenantId task (exchange attempt)) 0 2 (by simp) rfl
  have few : last ≤ 1 := Nat.lt_succ_iff.mp allowed
  refine ⟨last, few, ?_, ends.result, ends.attempts, ?_, ?_⟩
  · constructor
    · intro second
      obtain ⟨exn, failed, timedOut⟩ := ends.failed 0 le_rfl (by omega)
      cases exn with
      | timeout => exact (completeOnce_timeout tenantId task).mp failed
      | unreachable => cases timedOut
      | received result => cases timedOut
    · intro timedOut
      rcases ends.settled with final | settled
      · simpa using final
      · by_contra first
        obtain rfl : last = 0 := by omega
        cases settled .timeout ((completeOnce_timeout tenantId task).mpr timedOut)
  · change (retryFrom _ _ _ _ 0 2).delays.length = last
    rw [ends.delays, List.length_map, List.length_range', Nat.sub_zero]
  · intro delay member
    rw [clientComplete, retry, ends.delays, List.mem_map] at member
    obtain ⟨attempt, before, rfl⟩ := member
    obtain rfl : attempt = 0 := by
      rw [List.mem_range'_1] at before
      omega
    have drawn := draws 0
    have waited : ({ maxAttempts := 2 } : RetryPolicy).delay random 0 = 1 / 2 + random 0 := by
      norm_num [RetryPolicy.delay]
    rw [waited]
    constructor
    · linarith
    · linarith

end

theorem always_timed_out_tries :
    ∃ last ≤ 1, TriesTwice none "chat" (fun _ => 0) (fun _ => .timedOut) last :=
  clientComplete_tries none "chat" (fun _ => by norm_num) _

end Onpremai.Gateway.Wire
