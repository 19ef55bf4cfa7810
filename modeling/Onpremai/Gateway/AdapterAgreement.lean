import Onpremai.Gateway.Translation

/-!
# Agreement of the adapters

Both adapters translate the messages of a request to the same blocks.  They read the same
response alike only where it has no more than one text and its stop reason goes with its
tool uses.
-/

namespace Onpremai.Gateway.Wire

open Onpremai.Library

section Request

variable (loads : String → Option Json)

def textOf (message : Message) : List Block :=
  match present message.content with
  | none => []
  | some content => [.text content]

def toolUseOf (call : ToolCall) : Block :=
  .toolUse call.id call.function.name (toolInput loads call)

def answeredCall (message : Message) : Option String :=
  if message.role = .tool then present message.toolCallId else none

def turnOf (message : Message) : Option ProviderTurn :=
  if message.role = .system then none
  else
    match answeredCall message with
    | some toolCallId =>
      some { role := "user", blocks := [.toolResult toolCallId (message.content.getD "")] }
    | none =>
      match textOf message ++ (message.toolCalls.getD []).map (toolUseOf loads) with
      | [] => none
      | blocks => some { role := message.role.value, blocks }

variable {loads}

theorem anthropic_textBlocks (message : Message) :
    Anthropic.textBlocks message = (textOf message).map Block.anthropic := by
  rw [Anthropic.textBlocks, textOf]
  cases present message.content with
  | none => rfl
  | some content => rfl

theorem bedrock_textBlocks (message : Message) :
    Bedrock.textBlocks message = (textOf message).map Block.bedrock := by
  rw [Bedrock.textBlocks, textOf]
  cases present message.content with
  | none => rfl
  | some content => rfl

theorem anthropic_toolUseBlocks (calls : List ToolCall) : calls.map (Anthropic.toolUseBlock loads) =
      (calls.map (toolUseOf loads)).map Block.anthropic := by
  rw [List.map_map]
  rfl

theorem bedrock_toolUseBlocks (calls : List ToolCall) :
    calls.map (Bedrock.toolUseBlock loads) = (calls.map (toolUseOf loads)).map Block.bedrock := by
  rw [List.map_map]
  rfl

theorem anthropic_translateMessage (message : Message) : Anthropic.translateMessage loads message =
      (turnOf loads message).map (ProviderTurn.write Block.anthropic) := by
  rw [Anthropic.translateMessage, turnOf, answeredCall]
  split
  · rfl
  · cases (if message.role = .tool then present message.toolCallId else none) with
    | some toolCallId => rfl
    | none =>
      dsimp only
      rw [anthropic_textBlocks]
      cases message.toolCalls.getD [] with
      | nil =>
        rw [List.map_nil, List.append_nil]
        cases textOf message with
        | nil => rfl
        | cons block rest => rfl
      | cons call rest =>
        dsimp only
        rw [anthropic_toolUseBlocks, ← List.map_append]
        cases textOf message ++ (call :: rest).map (toolUseOf loads) with
        | nil => rfl
        | cons block blocks => rfl

theorem bedrock_translateMessage (message : Message) : Bedrock.translateMessage loads message =
      (turnOf loads message).map (ProviderTurn.write Block.bedrock) := by
  rw [Bedrock.translateMessage, turnOf, answeredCall]
  split
  · rfl
  · cases (if message.role = .tool then present message.toolCallId else none) with
    | some toolCallId => rfl
    | none =>
      rw [bedrock_textBlocks, bedrock_toolUseBlocks, ← List.map_append]
      cases textOf message ++ (message.toolCalls.getD []).map (toolUseOf loads) with
      | nil => rfl
      | cons block rest => rfl

theorem translateMessages_eq (messages : List Message) :
    Anthropic.translateMessages loads messages =
        (messages.filterMap (turnOf loads)).map (ProviderTurn.write Block.anthropic) ∧
      Bedrock.translateMessages loads messages =
        (messages.filterMap (turnOf loads)).map (ProviderTurn.write Block.bedrock) := by
  rw [Anthropic.translateMessages, Bedrock.translateMessages, List.map_filterMap,
    List.map_filterMap]
  constructor
  · apply List.filterMap_congr
    intro message _
    exact anthropic_translateMessage message
  · apply List.filterMap_congr
    intro message _
    exact bedrock_translateMessage message

/-- A tool message that says something and answers no call. -/
structure Stray (message : Message) : Prop where
  tool : message.role = .tool
  unanswering : present message.toolCallId = none
  spoken : present message.content ≠ none ∨ message.toolCalls.getD [] ≠ []

/-- A role that the providers know. -/
def KnownRole (role : String) : Prop := role = "user" ∨ role = "assistant"

theorem knownRole_turnOf {message : Message} {turn : ProviderTurn}
    (said : turnOf loads message = some turn) : KnownRole turn.role ↔ ¬ Stray message := by
  rw [turnOf] at said
  split at said
  · exact absurd said (by simp)
  · next conversing =>
    split at said
    · next toolCallId answered =>
      cases said
      apply iff_of_true
      · exact .inl rfl
      · intro stray
        rw [answeredCall, if_pos stray.tool, stray.unanswering] at answered
        cases answered
    · next unanswered =>
      split at said
      · exact absurd said (by simp)
      · next something =>
        cases said
        cases role : message.role with
        | system => exact absurd role conversing
        | user =>
          apply iff_of_true
          · exact .inl rfl
          · intro stray
            cases role.symm.trans stray.tool
        | assistant =>
          apply iff_of_true
          · exact .inr rfl
          · intro stray
            cases role.symm.trans stray.tool
        | tool =>
          apply iff_of_false
          · simp [KnownRole, MessageRole.value]
          · rw [not_not]
            rw [answeredCall, if_pos role] at unanswered
            refine ⟨role, unanswered, ?_⟩
            apply Classical.byContradiction
            intro silent
            simp only [ne_eq, not_or, not_not] at silent
            apply something
            simp [textOf, silent.1, silent.2]

theorem exists_turnOf_of_stray {message : Message} (stray : Stray message) :
    ∃ turn, turnOf loads message = some turn := by
  have conversing : message.role ≠ .system := by
    rw [stray.tool]
    decide
  have unanswered : answeredCall message = none := by
    rw [answeredCall, if_pos stray.tool, stray.unanswering]
  rw [turnOf, if_neg conversing, unanswered]
  dsimp only
  cases blocks : textOf message ++ (message.toolCalls.getD []).map (toolUseOf loads) with
  | cons block rest => exact ⟨_, rfl⟩
  | nil =>
    have silent := List.append_eq_nil_iff.mp blocks
    cases stray.spoken with
    | inl spoken =>
      cases content : present message.content with
      | none => exact absurd content spoken
      | some text => simp [textOf, content] at silent
    | inr called => exact absurd (List.map_eq_nil_iff.mp silent.2) called

def KnownRoles (sent : List Json) : Prop :=
  ∀ message ∈ sent, ∃ role, message.get? "role" = some (.str role) ∧ KnownRole role

theorem knownRoles_write_iff (words : Block → Json) (turns : List ProviderTurn) :
    KnownRoles (turns.map (ProviderTurn.write words)) ↔
      ∀ turn ∈ turns, KnownRole turn.role := by
  rw [KnownRoles, List.forall_mem_map]
  apply forall₂_congr
  intro turn _
  constructor
  · intro ⟨role, field, known⟩
    have same := Json.str.inj (Option.some.inj field)
    exact same ▸ known
  · intro known
    exact ⟨turn.role, rfl, known⟩

theorem knownRoles_iff (messages : List Message) :
    (∀ turn ∈ messages.filterMap (turnOf loads), KnownRole turn.role) ↔
      ∀ message ∈ messages, ¬ Stray message := by
  constructor
  · intro known message member stray
    have ⟨turn, said⟩ : ∃ turn, turnOf loads message = some turn := exists_turnOf_of_stray stray
    exact (knownRole_turnOf said).mp (known turn (List.mem_filterMap.mpr ⟨message, member, said⟩))
      stray
  · intro none turn member
    have ⟨message, inside, said⟩ := List.mem_filterMap.mp member
    exact (knownRole_turnOf said).mpr (none message inside)

end Request

section Response

variable (dumps : Json → String) (fresh : Nat → String)

def textsOf : List ReplyBlock → List String
  | [] => []
  | .text content :: rest => content :: textsOf rest
  | .toolUse _ _ _ :: rest => textsOf rest
  | .other :: rest => textsOf rest

def replyCall (calls : List ToolCall) (id name : Option String) (input : Option Json) :
    ToolCall where
  id := id.getD (fresh calls.length)
  function := { name := name.getD "", arguments := dumps (input.getD (.obj [])) }

def callsAfter (calls : List ToolCall) : List ReplyBlock → List ToolCall
  | [] => calls
  | .text _ :: rest => callsAfter calls rest
  | .toolUse id name input :: rest =>
    callsAfter (calls ++ [replyCall dumps fresh calls id name input]) rest
  | .other :: rest => callsAfter calls rest

def lastText (content : Json) : List ReplyBlock → Json
  | [] => content
  | .text content :: rest => lastText (.str content) rest
  | .toolUse _ _ _ :: rest => lastText content rest
  | .other :: rest => lastText content rest

variable {dumps fresh}

theorem anthropic_readBlocks (texts : List String) (calls : List ToolCall)
    (blocks : List ReplyBlock) :
    Anthropic.readBlocks dumps fresh texts calls (blocks.map ReplyBlock.anthropic) =
      .ok (texts ++ textsOf blocks, callsAfter dumps fresh calls blocks) := by
  induction blocks generalizing texts calls with
  | nil =>
    rw [List.map_nil, Anthropic.readBlocks, textsOf, callsAfter, List.append_nil]
  | cons block rest ih =>
    rw [List.map_cons, Anthropic.readBlocks]
    cases block with
    | text content =>
      have read : Anthropic.readBlock dumps fresh texts calls
          (ReplyBlock.text content).anthropic = .ok (texts ++ [content], calls) := rfl
      rw [read]
      change Anthropic.readBlocks dumps fresh (texts ++ [content]) calls _ = _
      rw [ih, textsOf, callsAfter, List.append_assoc]
      rfl
    | toolUse id name input =>
      have read : Anthropic.readBlock dumps fresh texts calls
          (ReplyBlock.toolUse id name input).anthropic =
            .ok (texts, calls ++ [replyCall dumps fresh calls id name input]) := by
        cases id <;> cases name <;> cases input <;> rfl
      rw [read]
      change Anthropic.readBlocks dumps fresh texts
        (calls ++ [replyCall dumps fresh calls id name input]) _ = _
      rw [ih, textsOf, callsAfter]
    | other =>
      have read : Anthropic.readBlock dumps fresh texts calls ReplyBlock.other.anthropic =
          .ok (texts, calls) := rfl
      rw [read]
      change Anthropic.readBlocks dumps fresh texts calls _ = _
      rw [ih, textsOf, callsAfter]

theorem bedrock_readBlocks (content : Json) (calls : List ToolCall) (blocks : List ReplyBlock) :
    Bedrock.readBlocks dumps fresh content calls (blocks.map ReplyBlock.bedrock) =
      .ok (lastText content blocks, callsAfter dumps fresh calls blocks) := by
  induction blocks generalizing content calls with
  | nil => rfl
  | cons block rest ih =>
    rw [List.map_cons, Bedrock.readBlocks]
    cases block with
    | text text =>
      have read : Bedrock.readBlock dumps fresh content calls
          (ReplyBlock.text text).bedrock = .ok (.str text, calls) := rfl
      rw [read]
      change Bedrock.readBlocks dumps fresh (.str text) calls _ = _
      rw [ih, lastText, callsAfter]
    | toolUse id name input =>
      have read : Bedrock.readBlock dumps fresh content calls
          (ReplyBlock.toolUse id name input).bedrock =
            .ok (content, calls ++ [replyCall dumps fresh calls id name input]) := by
        cases id <;> cases name <;> cases input <;> rfl
      rw [read]
      change Bedrock.readBlocks dumps fresh content
        (calls ++ [replyCall dumps fresh calls id name input]) _ = _
      rw [ih, lastText, callsAfter]
    | other =>
      have read : Bedrock.readBlock dumps fresh content calls ReplyBlock.other.bedrock =
          .ok (content, calls) := rfl
      rw [read]
      change Bedrock.readBlocks dumps fresh content calls _ = _
      rw [ih, lastText, callsAfter]

def stopReasonOf (reply : ModelReply) : Json := .str (reply.stopReason.getD "end_turn")

theorem anthropic_parseResponse (reply : ModelReply) :
    Anthropic.parseResponse dumps fresh reply.anthropic = .ok
      { content := (whenAny (textsOf reply.blocks)).map Text.joinLines
        toolCalls := whenAny (callsAfter dumps fresh [] reply.blocks)
        usage := reply.usage
        finishReason := Anthropic.finishReason (stopReasonOf reply) } := by
  cases reply with
  | mk blocks stopReason usage =>
    have read : Anthropic.readBlocks dumps fresh [] [] (blocks.map ReplyBlock.anthropic) =
        .ok (textsOf blocks, callsAfter dumps fresh [] blocks) :=
      anthropic_readBlocks [] [] blocks
    rw [Anthropic.parseResponse]
    cases stopReason with
    | none =>
      change (Anthropic.readBlocks dumps fresh [] [] (blocks.map _) >>= _) = _
      rw [read]
      rfl
    | some reason =>
      change (Anthropic.readBlocks dumps fresh [] [] (blocks.map _) >>= _) = _
      rw [read]
      rfl

theorem lastText_eq (first : Option String) (blocks : List ReplyBlock) :
    Bedrock.optionalText (lastText ((first.map Json.str).getD .null) blocks) =
      .ok ((textsOf blocks).getLast?.or first) := by
  induction blocks generalizing first with
  | nil =>
    cases first with
    | none => rfl
    | some text => rfl
  | cons block rest ih =>
    cases block with
    | text text =>
      have next : Bedrock.optionalText (lastText (.str text) rest) =
          .ok ((textsOf rest).getLast?.or (some text)) := ih (some text)
      rw [lastText, textsOf, next, List.getLast?_cons]
      cases (textsOf rest).getLast? with
      | none => rfl
      | some last => rfl
    | toolUse id name input => exact ih first
    | other => exact ih first

theorem bedrock_parseResponse (reply : ModelReply) :
    Bedrock.parseResponse dumps fresh reply.bedrock = .ok
      { content := (textsOf reply.blocks).getLast?
        toolCalls := whenAny (callsAfter dumps fresh [] reply.blocks)
        usage := reply.usage
        finishReason :=
          Bedrock.finishReason (callsAfter dumps fresh [] reply.blocks)
            (stopReasonOf reply) } := by
  cases reply with
  | mk blocks stopReason usage =>
    have read : Bedrock.readBlocks dumps fresh .null [] (blocks.map ReplyBlock.bedrock) =
        .ok (lastText .null blocks, callsAfter dumps fresh [] blocks) :=
      bedrock_readBlocks .null [] blocks
    have last : Bedrock.optionalText (lastText .null blocks) =
        .ok (textsOf blocks).getLast? := by
      have last := lastText_eq none blocks
      rwa [Option.or_none] at last
    rw [Bedrock.parseResponse]
    cases stopReason with
    | none =>
      change (Bedrock.readBlocks dumps fresh .null [] (blocks.map _) >>= _) = _
      rw [read]
      change (Bedrock.optionalText (lastText .null blocks) >>= _) = _
      rw [last]
      rfl
    | some reason =>
      change (Bedrock.readBlocks dumps fresh .null [] (blocks.map _) >>= _) = _
      rw [read]
      change (Bedrock.optionalText (lastText .null blocks) >>= _) = _
      rw [last]
      rfl

theorem length_joinLines_lt (first second : String) (rest : List String) :
    ((second :: rest).getLast (List.cons_ne_nil second rest)).length <
      (Text.joinLines (first :: second :: rest)).length := by
  have grows (texts : List String) (any : texts ≠ []) :
      (texts.getLast any).length ≤ (Text.joinLines texts).length := by
    induction texts with
    | nil => exact absurd rfl any
    | cons text rest ih =>
      cases rest with
      | nil => simp [Text.joinLines]
      | cons next rest =>
        have later := ih (List.cons_ne_nil next rest)
        rw [List.getLast_cons (List.cons_ne_nil next rest)]
        simp only [Text.joinLines, List.map_cons, List.intercalate_cons_cons,
          String.length_ofList, List.length_append] at later ⊢
        omega
  have later := grows (second :: rest) (List.cons_ne_nil second rest)
  simp only [Text.joinLines, List.map_cons, List.intercalate_cons_cons, String.length_ofList,
    List.length_append, List.length_cons, List.length_nil] at later ⊢
  omega

theorem joined_eq_last_iff (texts : List String) :
    (whenAny texts).map Text.joinLines = texts.getLast? ↔ texts.length ≤ 1 := by
  cases texts with
  | nil =>
    apply iff_of_true
    · rfl
    · exact Nat.zero_le 1
  | cons first rest =>
    cases rest with
    | nil =>
      apply iff_of_true
      · simp [whenAny, Text.joinLines]
      · exact Nat.le_refl 1
    | cons second rest =>
      apply iff_of_false
      · intro same
        rw [List.getLast?_eq_getLast_of_ne_nil (List.cons_ne_nil first _),
          List.getLast_cons (List.cons_ne_nil second rest)] at same
        have same := congrArg String.length (Option.some.inj same)
        have longer := length_joinLines_lt first second rest
        omega
      · simp

def ReplyBlock.IsToolUse (block : ReplyBlock) : Prop :=
  ∃ id name input, block = .toolUse id name input

theorem callsAfter_eq_nil_iff (calls : List ToolCall) (blocks : List ReplyBlock) :
    callsAfter dumps fresh calls blocks = [] ↔
      calls = [] ∧ ¬ ∃ block ∈ blocks, block.IsToolUse := by
  induction blocks generalizing calls with
  | nil => simp [callsAfter]
  | cons block rest ih =>
    cases block with
    | text content => simp [callsAfter, ih, ReplyBlock.IsToolUse]
    | toolUse id name input => simp [callsAfter, ih, ReplyBlock.IsToolUse]
    | other => simp [callsAfter, ih, ReplyBlock.IsToolUse]

def StopReasonFits (reply : ModelReply) : Prop := reply.stopReason = some "max_tokens" ∨
    (reply.stopReason = some "tool_use" ↔ ∃ block ∈ reply.blocks, block.IsToolUse)

theorem stopReasonOf_isString {reply : ModelReply} {reason : String}
    (unusual : reason ≠ "end_turn") :
    (stopReasonOf reply).isString reason = true ↔ reply.stopReason = some reason := by
  cases given : reply.stopReason with
  | none => simp [stopReasonOf, given, Json.isString, unusual.symm]
  | some stopReason => simp [stopReasonOf, given, Json.isString]

theorem finishReason_eq_iff (reply : ModelReply) : Anthropic.finishReason (stopReasonOf reply) =
        Bedrock.finishReason (callsAfter dumps fresh [] reply.blocks) (stopReasonOf reply) ↔
      StopReasonFits reply := by
  have toolUse : (stopReasonOf reply).isString "tool_use" = true ↔
      reply.stopReason = some "tool_use" := stopReasonOf_isString (by decide)
  have maxTokens : (stopReasonOf reply).isString "max_tokens" = true ↔
      reply.stopReason = some "max_tokens" := stopReasonOf_isString (by decide)
  have uncalled : callsAfter dumps fresh [] reply.blocks = [] ↔
      ¬ ∃ block ∈ reply.blocks, block.IsToolUse := by
    rw [callsAfter_eq_nil_iff]
    exact and_iff_right rfl
  have fits : StopReasonFits reply ↔ reply.stopReason = some "max_tokens" ∨
      (reply.stopReason = some "tool_use" ↔ ¬ callsAfter dumps fresh [] reply.blocks = []) := by
    rw [uncalled, not_not, StopReasonFits]
  rw [fits]
  simp only [Anthropic.finishReason, Bedrock.finishReason, toolUse, maxTokens, List.isEmpty_iff]
  by_cases truncated : reply.stopReason = some "max_tokens"
  · simp [truncated]
  · by_cases calling : reply.stopReason = some "tool_use"
    · by_cases called : callsAfter dumps fresh [] reply.blocks = []
      · simp [calling, called]
      · simp [calling, called]
    · by_cases called : callsAfter dumps fresh [] reply.blocks = []
      · simp [truncated, calling, called]
      · simp [truncated, calling, called]

end Response

section Agreement

variable (loads : String → Option Json) (dumps : Json → String) (fresh : Nat → String)

/-- Both adapters send the same blocks, under the roles that the providers know. -/
structure SameBlocksSent (messages : List Message) : Prop where
  blocks : ∃ turns : List ProviderTurn,
    Anthropic.translateMessages loads messages = turns.map (ProviderTurn.write Block.anthropic) ∧
      Bedrock.translateMessages loads messages = turns.map (ProviderTurn.write Block.bedrock)
  anthropicRoles : KnownRoles (Anthropic.translateMessages loads messages)
  bedrockRoles : KnownRoles (Bedrock.translateMessages loads messages)

def SameReplyRead (reply : ModelReply) : Prop := ∃ anthropic bedrock,
    Anthropic.parseResponse dumps fresh reply.anthropic = .ok anthropic ∧
      Bedrock.parseResponse dumps fresh reply.bedrock = .ok bedrock ∧
      anthropic.content = bedrock.content ∧ anthropic.toolCalls = bedrock.toolCalls ∧
      anthropic.finishReason = bedrock.finishReason

variable {loads dumps fresh}

theorem sameBlocksSent_iff (messages : List Message) :
    SameBlocksSent loads messages ↔ ∀ message ∈ messages, ¬ Stray message := by
  have ⟨anthropic, bedrock⟩ := @translateMessages_eq loads messages
  constructor
  · intro same
    have known := same.anthropicRoles
    rw [anthropic, knownRoles_write_iff] at known
    exact (knownRoles_iff messages).mp known
  · intro none
    have known := (@knownRoles_iff loads messages).mpr none
    constructor
    · exact ⟨messages.filterMap (turnOf loads), anthropic, bedrock⟩
    · rwa [anthropic, knownRoles_write_iff]
    · rwa [bedrock, knownRoles_write_iff]

theorem sameReplyRead_iff (reply : ModelReply) : SameReplyRead dumps fresh reply ↔
      (textsOf reply.blocks).length ≤ 1 ∧ StopReasonFits reply := by
  rw [SameReplyRead]
  constructor
  · intro ⟨anthropic, bedrock, readA, readB, content, _, finishReason⟩
    rw [anthropic_parseResponse] at readA
    rw [bedrock_parseResponse] at readB
    cases readA
    cases readB
    exact ⟨(joined_eq_last_iff _).mp content, (finishReason_eq_iff reply).mp finishReason⟩
  · intro ⟨single, fits⟩
    refine ⟨_, _, anthropic_parseResponse reply, bedrock_parseResponse reply, ?_, rfl, ?_⟩
    · exact (joined_eq_last_iff _).mpr single
    · exact (finishReason_eq_iff reply).mpr fits

/-- The adapters agree exactly when no tool message goes without its call's identifier, the
response has no more than one text and its stop reason goes with its tool uses. -/
theorem adapters_agree_iff (loads : String → Option Json) (dumps : Json → String)
    (fresh : Nat → String) (messages : List Message) (reply : ModelReply) :
    SameBlocksSent loads messages ∧ SameReplyRead dumps fresh reply ↔
      (∀ message ∈ messages, ¬ Stray message) ∧ (textsOf reply.blocks).length ≤ 1 ∧
        StopReasonFits reply := by
  rw [sameBlocksSent_iff, sameReplyRead_iff]

/-- Of two texts Anthropic's adapter returns both and Bedrock's the second. -/
theorem second_text_replaces_first :
    ¬ (∀ (loads : String → Option Json) (dumps : Json → String) (fresh : Nat → String)
        (messages : List Message) (reply : ModelReply),
        SameBlocksSent loads messages ∧ SameReplyRead dumps fresh reply) := by
  intro agree
  have ⟨_, anthropic, bedrock, readA, readB, content, _⟩ :=
    agree (fun _ => none) (fun _ => "{}") (fun _ => "call-1") []
      { blocks := [.text "Checking.", .text "Done."] }
  rw [anthropic_parseResponse] at readA
  rw [bedrock_parseResponse] at readB
  cases readA
  cases readB
  revert content
  decide

end Agreement

end Onpremai.Gateway.Wire
