import Onpremai.Gateway.Models
import Onpremai.Library.Codec

/-!
# Wire format

The bodies of the completion endpoint with all their fields, as they are sent, stored and
read back: validated when they are read, and written with every field.
-/

namespace Onpremai.Gateway.Wire

open Onpremai.Library

/-- Message roles in a conversation. -/
inductive MessageRole where
  | system
  | user
  | assistant
  | tool
  deriving DecidableEq, Repr

namespace MessageRole

def value : MessageRole → String
  | .system => "system"
  | .user => "user"
  | .assistant => "assistant"
  | .tool => "tool"

def ofValue? (text : String) : Option MessageRole :=
  [system, user, assistant, tool].find? fun role => decide (role.value = text)

theorem ofValue?_value (role : MessageRole) : ofValue? role.value = some role := by
  cases role <;> rfl

/-- Roles, written as their values. -/
def codec : Codec MessageRole := Codec.str.via value ofValue? ofValue?_value

end MessageRole

/-- A function call returned by the model. -/
structure ToolCallFunction where
  name : String
  arguments : String
  deriving DecidableEq, Repr

def ToolCallFunction.codec : Codec ToolCallFunction where
  encode := fun call => .obj
    [("name", Codec.str.encode call.name), ("arguments", Codec.str.encode call.arguments)]
  decode := fun value => do
    let entries ← Codec.fields.decode value
    let name ← Codec.str.required "name" entries
    let arguments ← Codec.str.required "arguments" entries
    return { name, arguments }
  decode_encode := by
    intro call
    simp [Codec.fields, Codec.required]

/-- A tool call from a model response. -/
structure ToolCall where
  id : String
  type : String := "function"
  function : ToolCallFunction
  deriving DecidableEq, Repr

def ToolCall.codec : Codec ToolCall where
  encode := fun call => .obj
    [("id", Codec.str.encode call.id), ("type", Codec.str.encode call.type),
     ("function", ToolCallFunction.codec.encode call.function)]
  decode := fun value => do
    let entries ← Codec.fields.decode value
    let id ← Codec.str.required "id" entries
    let type ← Codec.str.withDefault "type" "function" entries
    let function ← ToolCallFunction.codec.required "function" entries
    return { id, type, function }
  decode_encode := by
    intro call
    simp [Codec.fields, Codec.required, Codec.withDefault]

def toolCallsCodec : Codec (Option (List ToolCall)) :=
  ToolCall.codec.list.nullable (Codec.solid_list _)

def textCodec : Codec (Option String) := Codec.str.nullable Codec.solid_str

def messageFields : List String := ["role", "content", "name", "tool_calls", "tool_call_id"]

/-- A single message in a conversation; fields of other names are kept beside the declared
ones. -/
structure Message where
  role : MessageRole
  content : Option String := none
  name : Option String := none
  toolCalls : Option (List ToolCall) := none
  toolCallId : Option String := none
  extra : List (String × Json) := []
  apart : ∀ entry ∈ extra, entry.1 ∉ messageFields

def extraFields (entries : List (String × Json)) : List (String × Json) :=
  entries.filter fun entry => decide (entry.1 ∉ messageFields)

theorem apart_extraFields (entries : List (String × Json)) :
    ∀ entry ∈ extraFields entries, entry.1 ∉ messageFields := by
  intro entry member
  exact of_decide_eq_true (List.mem_filter.mp member).2

def Message.declared (message : Message) : List (String × Json) :=
  [("role", MessageRole.codec.encode message.role),
   ("content", textCodec.encode message.content), ("name", textCodec.encode message.name),
   ("tool_calls", toolCallsCodec.encode message.toolCalls),
   ("tool_call_id", textCodec.encode message.toolCallId)]

theorem extraFields_declared (message : Message) :
    extraFields (message.declared ++ message.extra) = message.extra := by
  have kept : extraFields message.extra = message.extra := by
    apply List.filter_eq_self.mpr
    intro entry member
    exact decide_eq_true (message.apart entry member)
  have dropped : extraFields message.declared = [] := by
    simp [extraFields, Message.declared, messageFields]
  rw [extraFields, List.filter_append]
  change extraFields message.declared ++ extraFields message.extra = message.extra
  rw [dropped, kept, List.nil_append]

def Message.codec : Codec Message where
  encode := fun message => .obj (message.declared ++ message.extra)
  decode := fun value => do
    let entries ← Codec.fields.decode value
    let role ← MessageRole.codec.required "role" entries
    let content ← textCodec.withDefault "content" none entries
    let name ← textCodec.withDefault "name" none entries
    let toolCalls ← toolCallsCodec.withDefault "tool_calls" none entries
    let toolCallId ← textCodec.withDefault "tool_call_id" none entries
    return {
      role, content, name, toolCalls, toolCallId
      extra := extraFields entries
      apart := apart_extraFields entries }
  decode_encode := by
    intro message
    have extra := extraFields_declared message
    cases message
    simp_all [Codec.fields, Codec.required, Codec.withDefault, Message.declared]

/-- Function definition within a tool. -/
structure ToolFunction where
  name : String
  description : String := ""
  parameters : List (String × Json) := []

def ToolFunction.codec : Codec ToolFunction where
  encode := fun function => .obj
    [("name", Codec.str.encode function.name),
     ("description", Codec.str.encode function.description),
     ("parameters", Codec.fields.encode function.parameters)]
  decode := fun value => do
    let entries ← Codec.fields.decode value
    let name ← Codec.str.required "name" entries
    let description ← Codec.str.withDefault "description" "" entries
    let parameters ← Codec.fields.withDefault "parameters" [] entries
    return { name, description, parameters }
  decode_encode := by
    intro function
    have opened (entries : List (String × Json)) :
        Codec.fields.decode (.obj entries) = some entries := rfl
    simp [opened, Codec.required, Codec.withDefault]

/-- Tool definition in the function-calling format. -/
structure Tool where
  type : String := "function"
  function : ToolFunction

def Tool.codec : Codec Tool where
  encode := fun tool => .obj
    [("type", Codec.str.encode tool.type), ("function", ToolFunction.codec.encode tool.function)]
  decode := fun value => do
    let entries ← Codec.fields.decode value
    let type ← Codec.str.withDefault "type" "function" entries
    let function ← ToolFunction.codec.required "function" entries
    return { type, function }
  decode_encode := by
    intro tool
    simp [Codec.fields, Codec.required, Codec.withDefault]

/-- Requested response format. -/
structure ResponseFormat where
  type : String := "text"
  schema : Option (List (String × Json)) := none

def ResponseFormat.codec : Codec ResponseFormat where
  encode := fun format => .obj
    [("type", Codec.str.encode format.type),
     ("schema_", (Codec.fields.nullable Codec.solid_fields).encode format.schema)]
  decode := fun value => do
    let entries ← Codec.fields.decode value
    let type ← Codec.str.withDefault "type" "text" entries
    let schema ←
      match Json.field? "schema" entries with
      | some written => (Codec.fields.nullable Codec.solid_fields).decode written
      | none => (Codec.fields.nullable Codec.solid_fields).withDefault "schema_" none entries
    return { type, schema }
  decode_encode := by
    intro format
    have opened (entries : List (String × Json)) :
        Codec.fields.decode (.obj entries) = some entries := rfl
    simp [opened, Codec.withDefault]

/-- The fields of a request to the completion endpoint. -/
structure RequestFields where
  messages : List Message
  task : String
  agent : String := "unknown"
  tenantId : String
  traceId : String := ""
  confidenceThreshold : Rat := 0
  maxTokens : Int := 4096
  temperature : Rat := 0
  responseFormat : Option ResponseFormat := none
  tools : Option (List Tool) := none
  stop : Option (List String) := none

theorem ResponseFormat.solid_codec : ResponseFormat.codec.Solid := fun _ => Json.noConfusion

def formatCodec : Codec (Option ResponseFormat) :=
  ResponseFormat.codec.nullable ResponseFormat.solid_codec

def toolsCodec : Codec (Option (List Tool)) := Tool.codec.list.nullable (Codec.solid_list _)

/-- Stop sequences that may be missing. -/
def stopCodec : Codec (Option (List String)) := Codec.str.list.nullable (Codec.solid_list _)

def RequestFields.written (request : RequestFields) : List (String × Json) :=
  [("messages", Message.codec.list.encode request.messages),
   ("task", Codec.str.encode request.task), ("agent", Codec.str.encode request.agent),
   ("tenant_id", Codec.str.encode request.tenantId),
   ("trace_id", Codec.str.encode request.traceId),
   ("confidence_threshold", Codec.rat.encode request.confidenceThreshold),
   ("max_tokens", Codec.int.encode request.maxTokens),
   ("temperature", Codec.rat.encode request.temperature),
   ("response_format", formatCodec.encode request.responseFormat),
   ("tools", toolsCodec.encode request.tools), ("stop", stopCodec.encode request.stop)]

def RequestFields.codec : Codec RequestFields where
  encode := fun request => .obj request.written
  decode := fun value => do
    let entries ← Codec.fields.decode value
    let messages ← Message.codec.list.required "messages" entries
    let task ← Codec.str.required "task" entries
    let agent ← Codec.str.withDefault "agent" "unknown" entries
    let tenantId ← Codec.str.required "tenant_id" entries
    let traceId ← Codec.str.withDefault "trace_id" "" entries
    let confidenceThreshold ← Codec.rat.withDefault "confidence_threshold" 0 entries
    let maxTokens ← Codec.int.withDefault "max_tokens" 4096 entries
    let temperature ← Codec.rat.withDefault "temperature" 0 entries
    let responseFormat ← formatCodec.withDefault "response_format" none entries
    let tools ← toolsCodec.withDefault "tools" none entries
    let stop ← stopCodec.withDefault "stop" none entries
    return {
      messages, task, agent, tenantId, traceId, confidenceThreshold, maxTokens, temperature
      responseFormat, tools, stop }
  decode_encode := by
    intro request
    have opened : Codec.fields.decode (.obj request.written) = some request.written := rfl
    have messages : Message.codec.list.required "messages" request.written =
        some request.messages := Codec.required_eq (by simp [written])
    have task : Codec.str.required "task" request.written = some request.task :=
      Codec.required_eq (by simp [written])
    have agent : Codec.str.withDefault "agent" "unknown" request.written = some request.agent :=
      Codec.withDefault_eq _ (by simp [written])
    have tenantId : Codec.str.required "tenant_id" request.written = some request.tenantId :=
      Codec.required_eq (by simp [written])
    have traceId : Codec.str.withDefault "trace_id" "" request.written = some request.traceId :=
      Codec.withDefault_eq _ (by simp [written])
    have confidenceThreshold : Codec.rat.withDefault "confidence_threshold" 0 request.written =
        some request.confidenceThreshold := Codec.withDefault_eq _ (by simp [written])
    have maxTokens : Codec.int.withDefault "max_tokens" 4096 request.written =
        some request.maxTokens := Codec.withDefault_eq _ (by simp [written])
    have temperature : Codec.rat.withDefault "temperature" 0 request.written =
        some request.temperature := Codec.withDefault_eq _ (by simp [written])
    have responseFormat : formatCodec.withDefault "response_format" none request.written =
        some request.responseFormat := Codec.withDefault_eq _ (by simp [written])
    have tools : toolsCodec.withDefault "tools" none request.written = some request.tools :=
      Codec.withDefault_eq _ (by simp [written])
    have stop : stopCodec.withDefault "stop" none request.written = some request.stop :=
      Codec.withDefault_eq _ (by simp [written])
    simp only [opened, messages, task, agent, tenantId, traceId, confidenceThreshold, maxTokens,
      temperature, responseFormat, tools, stop, Option.bind_eq_bind, Option.bind_some,
      Option.pure_def]

def RequestFields.Bounded (request : RequestFields) : Prop :=
  (0 ≤ request.confidenceThreshold ∧ request.confidenceThreshold ≤ 1) ∧
    (1 ≤ request.maxTokens ∧ request.maxTokens ≤ 128000) ∧
    0 ≤ request.temperature ∧ request.temperature ≤ 2

instance (request : RequestFields) : Decidable request.Bounded :=
  inferInstanceAs (Decidable (_ ∧ _ ∧ _))

/-- Request to the completion endpoint. -/
structure CompletionRequest extends RequestFields where
  bounded : toRequestFields.Bounded

def RequestFields.validate (request : RequestFields) : Option CompletionRequest :=
  if bounded : request.Bounded then some { request with bounded } else none

theorem validate_toRequestFields (request : CompletionRequest) :
    request.toRequestFields.validate = some request :=
  dif_pos request.bounded

def CompletionRequest.codec : Codec CompletionRequest :=
  RequestFields.codec.via CompletionRequest.toRequestFields RequestFields.validate
    validate_toRequestFields

/-- Response of the completion endpoint. -/
structure CompletionResponse where
  content : Option String := none
  modelUsed : String := ""
  tierUsed : String := ""
  escalated : Bool := false
  escalationPath : List String := []
  usage : Usage := {}
  latencyMs : Int := 0
  confidence : Rat := 0
  toolCalls : Option (List ToolCall) := none
  costUsd : Rat := 0
  traceId : String := ""
  deriving DecidableEq, Repr

def CompletionResponse.body (response : CompletionResponse) : Json := .obj
  [("content", textCodec.encode response.content), ("model_used", .str response.modelUsed),
   ("tier_used", .str response.tierUsed), ("escalated", .bool response.escalated),
   ("escalation_path", Json.strings response.escalationPath),
   ("usage", .obj
     [("input_tokens", .num response.usage.inputTokens),
      ("output_tokens", .num response.usage.outputTokens)]),
   ("latency_ms", .num response.latencyMs), ("confidence", .num response.confidence),
   ("tool_calls", toolCallsCodec.encode response.toolCalls), ("cost_usd", .num response.costUsd),
   ("trace_id", .str response.traceId)]

/-- Answers to requests of tenants without a budget. -/
inductive BudgetRefusal where
  | queued (queueId : String) (level : Nat)
  | rejected (level : Nat)
  deriving DecidableEq, Repr

def BudgetRefusal.detail : BudgetRefusal → Json
  | .queued queueId level => .obj
      [("error", .str "budget_exhausted"),
       ("message", .str "Daily budget exhausted. Request queued."), ("queue_id", .str queueId),
       ("degradation_level", .num level)]
  | .rejected level => .obj
      [("error", .str "llm_budget_exhausted"),
       ("message", .str "LLM budget exhausted. Only deterministic operations available."),
       ("degradation_level", .num level)]

def BudgetRefusal.body (refusal : BudgetRefusal) : Json := .obj [("detail", refusal.detail)]

end Onpremai.Gateway.Wire
