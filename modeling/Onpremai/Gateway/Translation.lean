import Onpremai.Gateway.Wire
import Onpremai.Library.Except

/-!
# Translation for the providers

The Anthropic and the Bedrock adapter each translate the messages of a request into the blocks
of their provider, and the blocks of a response back.  The decoder and the encoder of JSON
texts and the source of fresh identifiers are parameters.
-/

namespace Onpremai.Gateway.Wire

open Onpremai.Library

def present (text : Option String) : Option String := text.filter fun text => decide (text ≠ "")

/-- A block of a conversation, in neither provider's words. -/
inductive Block where
  | text (text : String)
  | toolUse (id name : String) (input : Json)
  | toolResult (toolUseId content : String)

/-- A message of a conversation, in neither provider's words. -/
structure ProviderTurn where
  role : String
  blocks : List Block

def Block.anthropic : Block → Json
  | .text content => .obj [("type", .str "text"), ("text", .str content)]
  | .toolUse id name input =>
    .obj [("type", .str "tool_use"), ("id", .str id), ("name", .str name), ("input", input)]
  | .toolResult toolUseId content =>
    .obj [("type", .str "tool_result"), ("tool_use_id", .str toolUseId), ("content", .str content)]

def Block.bedrock : Block → Json
  | .text content => .obj [("text", .str content)]
  | .toolUse id name input =>
    .obj [("toolUse", .obj [("toolUseId", .str id), ("name", .str name), ("input", input)])]
  | .toolResult toolUseId content =>
    .obj [("toolResult",
      .obj [("toolUseId", .str toolUseId), ("content", .arr [.obj [("text", .str content)]])])]

def ProviderTurn.write (words : Block → Json) (turn : ProviderTurn) : Json :=
  .obj [("role", .str turn.role), ("content", .arr (turn.blocks.map words))]

section Request

variable (loads : String → Option Json)

def toolInput (call : ToolCall) : Json := (loads call.function.arguments).getD (.obj [])

namespace Anthropic

def textBlocks (message : Message) : List Json :=
  match present message.content with
  | none => []
  | some text => [.obj [("type", .str "text"), ("text", .str text)]]

def toolUseBlock (call : ToolCall) : Json :=
  .obj [("type", .str "tool_use"), ("id", .str call.id), ("name", .str call.function.name),
    ("input", toolInput loads call)]

def messageOf (role : String) : List Json → Option Json
  | [] => none
  | content => some (.obj [("role", .str role), ("content", .arr content)])

def translateMessage (message : Message) : Option Json :=
  if message.role = .system then none
  else
    match (if message.role = .tool then present message.toolCallId else none) with
    | some toolCallId =>
      messageOf "user"
        [.obj [("type", .str "tool_result"), ("tool_use_id", .str toolCallId),
          ("content", .str (message.content.getD ""))]]
    | none =>
      match message.toolCalls.getD [] with
      | [] => messageOf message.role.value (textBlocks message)
      | calls =>
        messageOf message.role.value
          (textBlocks message ++ calls.map (toolUseBlock loads))

def translateMessages (messages : List Message) : List Json :=
  messages.filterMap (translateMessage loads)

end Anthropic

namespace Bedrock

def textBlocks (message : Message) : List Json :=
  match present message.content with
  | none => []
  | some text => [.obj [("text", .str text)]]

def toolUseBlock (call : ToolCall) : Json := .obj [("toolUse",
    .obj [("toolUseId", .str call.id), ("name", .str call.function.name),
      ("input", toolInput loads call)])]

def translateMessage (message : Message) : Option Json :=
  if message.role = .system then none
  else
    let contentBlocks := textBlocks message ++ (message.toolCalls.getD []).map (toolUseBlock loads)
    let result := if message.role = .tool then present message.toolCallId else none
    let role := if result.isSome then "user" else message.role.value
    let contentBlocks :=
      match result with
      | none => contentBlocks
      | some toolCallId =>
        [.obj [("toolResult", .obj [("toolUseId", .str toolCallId),
            ("content", .arr [.obj [("text", .str (message.content.getD ""))]])])]]
    if contentBlocks.isEmpty then none
    else some (.obj [("role", .str role), ("content", .arr contentBlocks)])

def translateMessages (messages : List Message) : List Json :=
  messages.filterMap (translateMessage loads)

end Bedrock

end Request

section Response

variable (dumps : Json → String) (fresh : Nat → String)

/-- A provider's response in the gateway's form. -/
structure NormalizedResponse where
  content : Option String := none
  toolCalls : Option (List ToolCall) := none
  usage : Usage := {}
  finishReason : String := "stop"
  deriving DecidableEq, Repr

def toolCallOf (idKey : String) (calls : List ToolCall) (block : Json) :
    Except String ToolCall := do
  let id ← Python.textField (← Python.getOr idKey (.str (fresh calls.length)) block)
  let name ← Python.textField (← Python.getOr "name" (.str "") block)
  let input ← Python.getOr "input" (.obj []) block
  return { id, function := { name, arguments := dumps input } }

def whenAny {α : Type} : List α → Option (List α)
  | [] => none
  | items => some items

namespace Anthropic

def readBlock (texts : List String) (calls : List ToolCall) (block : Json) :
    Except String (List String × List ToolCall) := do
  let type ← Python.getOr "type" .null block
  if type.isString "text" then
    let text ← Python.textField (← Python.getOr "text" (.str "") block)
    return (texts ++ [text], calls)
  else if type.isString "tool_use" then
    let call ← toolCallOf dumps fresh "id" calls block
    return (texts, calls ++ [call])
  else return (texts, calls)

def readBlocks (texts : List String) (calls : List ToolCall) :
    List Json → Except String (List String × List ToolCall)
  | [] => .ok (texts, calls)
  | block :: rest => do
    let (texts, calls) ← readBlock dumps fresh texts calls block
    readBlocks texts calls rest

def finishReason (stopReason : Json) : String :=
  if stopReason.isString "tool_use" then "tool_calls"
  else if stopReason.isString "max_tokens" then "length"
  else "stop"

def parseResponse (data : Json) : Except String NormalizedResponse := do
  let blocks ← Python.iterated (← Python.getOr "content" (.arr []) data)
  let (texts, calls) ← readBlocks dumps fresh [] [] blocks
  let usage ← Python.getOr "usage" (.obj []) data
  let inputTokens ← Python.intField (← Python.getOr "input_tokens" (.num 0) usage)
  let outputTokens ← Python.intField (← Python.getOr "output_tokens" (.num 0) usage)
  let stopReason ← Python.getOr "stop_reason" (.str "end_turn") data
  return {
    content := (whenAny texts).map Text.joinLines
    toolCalls := whenAny calls
    usage := { inputTokens, outputTokens }
    finishReason := finishReason stopReason }

end Anthropic

namespace Bedrock

def optionalText : Json → Except String (Option String)
  | .null => .ok none
  | value => (Python.textField value).map some

def readBlock (content : Json) (calls : List ToolCall) (block : Json) :
    Except String (Json × List ToolCall) := do
  if ← Python.occursInValue "text" block then
    let text ← Python.getOr "text" .null block
    return (text, calls)
  else if ← Python.occursInValue "toolUse" block then
    let toolUse ← Python.getOr "toolUse" .null block
    let call ← toolCallOf dumps fresh "toolUseId" calls toolUse
    return (content, calls ++ [call])
  else return (content, calls)

def readBlocks (content : Json) (calls : List ToolCall) :
    List Json → Except String (Json × List ToolCall)
  | [] => .ok (content, calls)
  | block :: rest => do
    let (content, calls) ← readBlock dumps fresh content calls block
    readBlocks content calls rest

def finishReason (calls : List ToolCall) (stopReason : Json) : String :=
  if stopReason.isString "max_tokens" then "length"
  else if calls.isEmpty then "stop"
  else "tool_calls"

def parseResponse (data : Json) : Except String NormalizedResponse := do
  let output ← Python.getOr "output" (.obj []) data
  let message ← Python.getOr "message" (.obj []) output
  let blocks ← Python.iterated (← Python.getOr "content" (.arr []) message)
  let (content, calls) ← readBlocks dumps fresh .null [] blocks
  let usage ← Python.getOr "usage" (.obj []) data
  let inputTokens ← Python.intField (← Python.getOr "inputTokens" (.num 0) usage)
  let outputTokens ← Python.intField (← Python.getOr "outputTokens" (.num 0) usage)
  let stopReason ← Python.getOr "stopReason" (.str "end_turn") data
  let content ← optionalText content
  return {
    content
    toolCalls := whenAny calls
    usage := { inputTokens, outputTokens }
    finishReason := finishReason calls stopReason }

end Bedrock

end Response

/-- A content block that a model returns, in neither provider's words. -/
inductive ReplyBlock where
  | text (content : String)
  | toolUse (id name : Option String) (input : Option Json)
  | other

/-- What a model returns, in neither provider's words. -/
structure ModelReply where
  blocks : List ReplyBlock
  stopReason : Option String := none
  usage : Usage := {}

def optionalField (key : String) : Option Json → List (String × Json)
  | none => []
  | some value => [(key, value)]

def ReplyBlock.anthropic : ReplyBlock → Json
  | .text content => .obj [("type", .str "text"), ("text", .str content)]
  | .toolUse id name input =>
    .obj (("type", .str "tool_use") :: (optionalField "id" (id.map .str) ++
      optionalField "name" (name.map .str) ++ optionalField "input" input))
  | .other => .obj [("type", .str "thinking")]

def ReplyBlock.bedrock : ReplyBlock → Json
  | .text content => .obj [("text", .str content)]
  | .toolUse id name input =>
    .obj [("toolUse",
      .obj (optionalField "toolUseId" (id.map .str) ++ optionalField "name" (name.map .str) ++
        optionalField "input" input))]
  | .other => .obj [("reasoningContent", .obj [])]

/-- A response in Anthropic's words. -/
def ModelReply.anthropic (reply : ModelReply) : Json :=
  .obj ([("content", .arr (reply.blocks.map ReplyBlock.anthropic)),
    ("usage", .obj [("input_tokens", .num reply.usage.inputTokens),
      ("output_tokens", .num reply.usage.outputTokens)])] ++
    optionalField "stop_reason" (reply.stopReason.map .str))

/-- A response in Bedrock's words. -/
def ModelReply.bedrock (reply : ModelReply) : Json := .obj ([("output", .obj [("message",
      .obj [("content", .arr (reply.blocks.map ReplyBlock.bedrock))])]),
    ("usage", .obj [("inputTokens", .num reply.usage.inputTokens),
      ("outputTokens", .num reply.usage.outputTokens)])] ++
    optionalField "stopReason" (reply.stopReason.map .str))

end Onpremai.Gateway.Wire
