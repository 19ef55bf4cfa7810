import Onpremai.Gateway.Wire
import Onpremai.Observer.Diagnosis

/-!
# Payloads without the shared client

The observer and the memory service write their requests to the gateway by hand.  Neither
payload names a tenant, which both request models of the gateway require, and the embeddings of
an answer are looked for under another key.
-/

namespace Onpremai.Observer

open Onpremai.Library
open Onpremai.Gateway.Wire (CompletionRequest CompletionResponse RequestFields Message textCodec)

/-- Request to the embedding endpoint. -/
structure EmbedRequest where
  texts : List String
  tenantId : String
  traceId : String := ""
  nonempty : texts ≠ []

/-- Validate a request to the embedding endpoint. -/
def EmbedRequest.parse (body : Json) : Option EmbedRequest := do
  let entries ← Codec.fields.decode body
  let texts ← Codec.str.list.required "texts" entries
  let tenantId ← Codec.str.required "tenant_id" entries
  let traceId ← Codec.str.withDefault "trace_id" "" entries
  if nonempty : texts ≠ [] then some { texts, tenantId, traceId, nonempty } else none

/-- Response of the embedding endpoint. -/
structure EmbedResponse where
  embeddings : List (List Rat)
  modelUsed : String := ""
  latencyMs : Int := 0

def EmbedResponse.body (response : EmbedResponse) : Json :=
  .obj [("embeddings", .arr (response.embeddings.map fun embedding => .arr (embedding.map .num))),
    ("model_used", .str response.modelUsed), ("latency_ms", .num response.latencyMs)]

/-- A gateway that serves what it accepts. -/
structure GatewayHost where
  serviceAuthEnabled : Bool
  complete : CompletionRequest → CompletionResponse
  embed : EmbedRequest → EmbedResponse

/-- A status with a body. -/
structure GatewayReply where
  statusCode : Nat
  body : Json

def missingCredentials : GatewayReply :=
  ⟨401, .obj [("detail", .str "Missing service credentials")]⟩

def unprocessable : GatewayReply := ⟨422, .obj [("detail", .arr [])]⟩

def answer {Request : Type} (gateway : GatewayHost) (parse : Json → Option Request)
    (serve : Request → Json) (payload : Json) : GatewayReply :=
  if gateway.serviceAuthEnabled then missingCredentials
  else
    match parse payload with
    | none => unprocessable
    | some request => ⟨200, serve request⟩

/-- `POST /v1/complete`. -/
def postComplete (gateway : GatewayHost) (payload : Json) : GatewayReply :=
  answer gateway CompletionRequest.codec.decode (fun request => (gateway.complete request).body)
    payload

/-- `POST /v1/embed`. -/
def postEmbed (gateway : GatewayHost) (payload : Json) : GatewayReply :=
  answer gateway EmbedRequest.parse (fun request => (gateway.embed request).body) payload

/-- `DIAGNOSIS_SYSTEM_PROMPT`; the braces are written by their codes. -/
def diagnosisSystemPrompt : String := Text.joinLines
  ["You are an expert AI system diagnostician analyzing performance issues " ++
     "in an LLM routing system.",
   "",
   "Given an issue with its metrics and sample data, diagnose the root cause and propose a fix.",
   "",
   "Your response MUST be valid JSON with exactly these fields:",
   "\x7b",
   "  \"root_cause\": \"Clear description of why this issue is occurring\",",
   "  \"fix_type\": \"routing|prompt|threshold|model|pattern\",",
   "  \"fix_description\": \"Specific actionable fix to apply\",",
   "  \"confidence\": 0.0 to 1.0,",
   "  \"requires_prompt_rewrite\": true or false",
   "\x7d",
   "",
   "Fix types:",
   "- routing: Move task to a different model tier (fast/mid/strong)",
   "- prompt: Rewrite or adjust the prompt template for the task",
   "- threshold: Adjust the confidence threshold that triggers escalation",
   "- model: Add, swap, or reconfigure a model in a tier",
   "- pattern: Record or remove a pattern in the memory service",
   "",
   "Be specific and actionable. Base your confidence on how certain you are about the root cause.",
   ""]

def diagnosisPayload (userPrompt : String) : Json := .obj
    [("messages", .arr
      [.obj [("role", .str "system"), ("content", .str diagnosisSystemPrompt)],
       .obj [("role", .str "user"), ("content", .str userPrompt)]]),
     ("task", .str "complex_reasoning"), ("agent", .str "observer"), ("max_tokens", .num 1000)]

def callLlm (gateway : GatewayHost) (userPrompt : String) : Option Json :=
  let response := postComplete gateway (diagnosisPayload userPrompt)
  if response.statusCode ≠ 200 then none else some response.body

def embedPayload (text : String) : Json :=
  .obj [("text", .str text), ("model", .str "nomic-embed-text")]

def embeddingOf (data : Json) : Option (List Json) :=
  match data.get? "embedding" with
  | some (.arr items) => if items = [] then none else some items
  | _ => none

def embed (gateway : GatewayHost) (text : String) : Option (List Json) :=
  let response := postEmbed gateway (embedPayload text)
  if response.statusCode = 200 then embeddingOf response.body else none

def embedBatch (gateway : GatewayHost) (texts : List String) : List (Option (List Json)) :=
  texts.map (embed gateway)

/-- What the two services ask the gateway for. -/
inductive GatewayUse where
  | diagnose (userPrompt : String)
  | embed (text : String)
  | embedBatch (texts : List String)
  deriving DecidableEq, Repr

def EmbeddedAs (gateway : GatewayHost) (text : String) (vector : Option (List Json)) : Prop :=
  ∃ request embedding, EmbedRequest.parse (embedPayload text) = some request ∧
    (gateway.embed request).embeddings = [embedding] ∧ vector = some (embedding.map .num)

/-- The payloads are valid, and the answers are read as what the gateway gives. -/
def Understood (gateway : GatewayHost) : GatewayUse → Prop
  | .diagnose userPrompt =>
    ∃ request body, CompletionRequest.codec.decode (diagnosisPayload userPrompt) = some request ∧
      callLlm gateway userPrompt = some body ∧
      body.get? "content" = some (textCodec.encode (gateway.complete request).content)
  | .embed text => EmbeddedAs gateway text (embed gateway text)
  | .embedBatch texts => List.Forall₂ (EmbeddedAs gateway) texts (embedBatch gateway texts)

theorem decode_of_no_tenant {entries : List (String × Json)}
    (absent : Json.field? "tenant_id" entries = none) :
    CompletionRequest.codec.decode (.obj entries) = none := by
  have opened : Codec.fields.decode (.obj entries) = some entries := rfl
  have tenant : Codec.str.required "tenant_id" entries = none := by
    rw [Codec.required, absent, Option.bind_none]
  have fields : RequestFields.codec.decode (.obj entries) = none := by
    simp only [RequestFields.codec, opened, tenant, Option.bind_eq_bind, Option.bind_some,
      Option.bind_none, Option.bind_fun_none]
  change (RequestFields.codec.decode (.obj entries)).bind RequestFields.validate = none
  rw [fields, Option.bind_none]

theorem decode_diagnosisPayload (userPrompt : String) :
    CompletionRequest.codec.decode (diagnosisPayload userPrompt) = none :=
  decode_of_no_tenant rfl

theorem parse_embedPayload (text : String) : EmbedRequest.parse (embedPayload text) = none := rfl

theorem understood_iff_empty_batch (gateway : GatewayHost) (use : GatewayUse) :
    Understood gateway use ↔ use = .embedBatch [] := by
  cases use with
  | diagnose userPrompt =>
    refine iff_of_false ?_ GatewayUse.noConfusion
    intro understood
    obtain ⟨request, body, decoded, -⟩ := understood
    rw [decode_diagnosisPayload] at decoded
    cases decoded
  | embed text =>
    refine iff_of_false ?_ GatewayUse.noConfusion
    intro understood
    obtain ⟨request, embedding, parsed, -⟩ := understood
    rw [parse_embedPayload] at parsed
    cases parsed
  | embedBatch texts =>
    cases texts with
    | nil => exact iff_of_true .nil rfl
    | cons text rest =>
      refine iff_of_false ?_ (fun same => List.cons_ne_nil _ _ (GatewayUse.embedBatch.inj same))
      intro understood
      obtain ⟨⟨request, embedding, parsed, -⟩, -⟩ := List.forall₂_cons.mp understood
      rw [parse_embedPayload] at parsed
      cases parsed

/-- A gateway without service authentication that serves everything it accepts. -/
def openGateway : GatewayHost where
  serviceAuthEnabled := false
  complete := fun _ => { content := some "The tier is too weak." }
  embed := fun request => { embeddings := request.texts.map fun _ => [1] }

/-- It answers neither of the payloads. -/
theorem tenantless_payloads_unanswered :
    callLlm openGateway "## Issue Details" = none ∧ embed openGateway "SOC2 controls" = none ∧
      ¬ Understood openGateway (.diagnose "## Issue Details") ∧
      ¬ Understood openGateway (.embed "SOC2 controls") := by
  have unanswered : callLlm openGateway "## Issue Details" = none := by
    rw [callLlm, postComplete, answer, decode_diagnosisPayload]
    rfl
  refine ⟨unanswered, rfl, ?_, ?_⟩
  · intro understood
    obtain ⟨request, body, -, called, -⟩ := understood
    rw [unanswered] at called
    cases called
  · intro understood
    obtain ⟨request, embedding, parsed, -⟩ := understood
    rw [parse_embedPayload] at parsed
    cases parsed

end Onpremai.Observer
