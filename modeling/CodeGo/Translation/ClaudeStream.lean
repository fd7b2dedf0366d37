import Mathlib.Data.List.Basic

set_option autoImplicit false

namespace CodeGo.Translation

/- The stream of chat completion chunks turned into the events of a Claude message. Only the
   first choice of a chunk is read. The message fields that are the same in every event are
   left out. -/

structure InputTokenDetails where
  cachedTokens : Int := 0
  cachedCreationTokens : Int := 0
  cacheCreationTokens : Int := 0
  cacheCreationInputTokens : Int := 0
  cacheWriteTokens : Int := 0
  cacheWriteInputTokens : Int := 0
deriving DecidableEq, Repr

structure Usage where
  promptTokens : Int := 0
  completionTokens : Int := 0
  promptTokensDetails : InputTokenDetails := {}
  claudeCacheCreation5mTokens : Int := 0
  claudeCacheCreation1hTokens : Int := 0
deriving DecidableEq, Repr

structure ClaudeUsage where
  inputTokens : Int
  outputTokens : Int
  cacheCreationInputTokens : Int := 0
  cacheReadInputTokens : Int := 0
  cacheCreation : Option (Int × Int) := none
deriving DecidableEq, Repr

structure ToolCallResponse where
  index : Option Int := none
  id : String := ""
  name : String := ""
  arguments : String := ""
deriving DecidableEq, Repr

structure Delta where
  content : Option String := none
  reasoningContent : Option String := none
  reasoning : Option String := none
  toolCalls : List ToolCallResponse := []
deriving DecidableEq, Repr

structure Choice where
  delta : Delta := {}
  finishReason : Option String := none
deriving DecidableEq, Repr

structure ChatCompletionsStreamResponse where
  id : String := ""
  model : String := ""
  choices : List Choice := []
  usage : Option Usage := none
deriving DecidableEq, Repr

def Delta.getContentString (delta : Delta) : String := delta.content.getD ""

def Delta.getReasoningContent (delta : Delta) : String := (delta.reasoningContent.or delta.reasoning).getD ""

-- The finish reason of a choice, where there is one and it is not empty.
def Choice.finished (choice : Choice) : Option String := choice.finishReason.filter (· ≠ "")

inductive ContentBlock where
  | text
  | thinking
  | toolUse (id name : String)
deriving DecidableEq, Repr

inductive ContentDelta where
  | textDelta (text : String)
  | thinkingDelta (thinking : String)
  | inputJsonDelta (partialJson : String)
deriving DecidableEq, Repr

inductive ClaudeResponse where
  | messageStart (id model : String) (inputTokens : Int)
  | contentBlockStart (index : Int) (block : ContentBlock)
  | contentBlockDelta (index : Int) (delta : ContentDelta)
  | contentBlockStop (index : Int)
  | messageDelta (stopReason : String) (usage : ClaudeUsage)
  | messageStop
deriving DecidableEq, Repr

inductive LastMessageType where
  | none
  | text
  | tools
  | thinking
deriving DecidableEq, Repr

structure ClaudeConvertInfo where
  lastMessagesType : LastMessageType := .none
  index : Int := 0
  usage : Option Usage := none
  done : Bool := false
  toolCallBaseIndex : Int := 0
  toolCallMaxIndexOffset : Int := 0
deriving DecidableEq, Repr

structure RelayInfo where
  sendResponseCount : Nat := 0
  finishReason : String := ""
  estimatePromptTokens : Int := 0
  claude : ClaudeConvertInfo := {}
deriving DecidableEq, Repr

def InputTokenDetails.getCachedCreationTokens (details : InputTokenDetails) : Int :=
  ([details.cachedCreationTokens, details.cacheCreationTokens, details.cacheCreationInputTokens, details.cacheWriteTokens,
    details.cacheWriteInputTokens].find? (0 < ·)).getD 0

def normalizeCacheCreationSplit (totalTokens tokens5m tokens1h : Int) : Int × Int :=
  (tokens5m + max (totalTokens - tokens5m - tokens1h) 0, tokens1h)

def buildClaudeUsageFromOpenAIUsage (oaiUsage : Usage) : ClaudeUsage :=
  let created := oaiUsage.promptTokensDetails.getCachedCreationTokens
  let creation := normalizeCacheCreationSplit created oaiUsage.claudeCacheCreation5mTokens oaiUsage.claudeCacheCreation1hTokens
  { inputTokens := oaiUsage.promptTokens, outputTokens := oaiUsage.completionTokens, cacheCreationInputTokens := created,
    cacheReadInputTokens := oaiUsage.promptTokensDetails.cachedTokens,
    cacheCreation := if 0 < creation.1 ∨ 0 < creation.2 then some creation else none }

-- Lower case as far as a comparison with an ASCII word can see it: besides the ASCII letters,
-- two characters have an ASCII letter as their lower case.
def lowerChar (c : Char) : Char :=
  if c = Char.ofNat 0x130 then 'i' else if c = Char.ofNat 0x212A then 'k' else c.toLower

def openAIFinishReasonToClaudeStopReason (finishReason : String) : String :=
  match finishReason.map lowerChar with
  | "stop" => "end_turn"
  | "stop_sequence" => "stop_sequence"
  | "length" => "max_tokens"
  | "max_tokens" => "max_tokens"
  | "content_filter" => "refusal"
  | "tool_calls" => "tool_use"
  | _ => finishReason

def toolStops (base : Int) : Nat → List ClaudeResponse
  | 0 => []
  | count + 1 => .contentBlockStop base :: toolStops (base + 1) count

def stopOpenAI2ClaudeBlocks (claude : ClaudeConvertInfo) : List ClaudeResponse :=
  match claude.lastMessagesType with
  | .text | .thinking => [.contentBlockStop claude.index]
  | .tools => toolStops claude.toolCallBaseIndex (claude.toolCallMaxIndexOffset + 1).toNat
  | .none => []

def ClaudeConvertInfo.advance (claude : ClaudeConvertInfo) : ClaudeConvertInfo :=
  match claude.lastMessagesType with
  | .none => claude
  | .tools =>
      { claude with
        index := claude.toolCallBaseIndex + claude.toolCallMaxIndexOffset + 1, toolCallBaseIndex := 0, toolCallMaxIndexOffset := 0,
        lastMessagesType := .none }
  | .text | .thinking => { claude with index := claude.index + 1, lastMessagesType := .none }

def finalizeOpenAI2Claude (usage : Option Usage) (info : RelayInfo) : List ClaudeResponse × RelayInfo :=
  if info.claude.done then ([], info)
  else
    let stopReason := openAIFinishReasonToClaudeStopReason info.finishReason
    let reported := (usage.or info.claude.usage).getD {}
    (stopOpenAI2ClaudeBlocks info.claude ++
      [.messageDelta (if stopReason = "" then "end_turn" else stopReason) (buildClaudeUsageFromOpenAIUsage reported), .messageStop],
      { info with claude := { info.claude with lastMessagesType := .none, done := true } })

-- The block of thinking or text a delta goes to. The first chunk always starts one; later ones
-- only when the last message was of another type.
def deltaBlock (always : Bool) (kind : LastMessageType) (block : ContentBlock) (delta : ContentDelta) (claude : ClaudeConvertInfo) :
    List ClaudeResponse × ClaudeConvertInfo :=
  if claude.lastMessagesType ≠ kind then
    let next := claude.advance
    (stopOpenAI2ClaudeBlocks claude ++ [.contentBlockStart next.index block, .contentBlockDelta next.index delta],
      { next with lastMessagesType := kind })
  else
    ((if always then [.contentBlockStart claude.index block] else []) ++ [.contentBlockDelta claude.index delta], claude)

def convertText (always : Bool) (delta : Delta) (claude : ClaudeConvertInfo) : List ClaudeResponse × ClaudeConvertInfo :=
  if delta.getReasoningContent ≠ "" then
    deltaBlock always .thinking .thinking (.thinkingDelta delta.getReasoningContent) claude
  else if delta.getContentString ≠ "" then deltaBlock always .text .text (.textDelta delta.getContentString) claude
  else ([], claude)

def argumentsDelta (index : Int) (toolCall : ToolCallResponse) : List ClaudeResponse :=
  if toolCall.arguments ≠ "" then [.contentBlockDelta index (.inputJsonDelta toolCall.arguments)] else []

-- The first chunk starts a block for its first tool call alone.
def firstToolCall (delta : Delta) (claude : ClaudeConvertInfo) : List ClaudeResponse × ClaudeConvertInfo :=
  match delta.toolCalls with
  | [] => ([], claude)
  | toolCall :: _ =>
      (.contentBlockStart 0 (.toolUse toolCall.id toolCall.name) :: argumentsDelta 0 toolCall,
        { claude with lastMessagesType := .tools, toolCallBaseIndex := 0, toolCallMaxIndexOffset := 0 })

def toolOffsets (toolCalls : List ToolCallResponse) : List (Int × ToolCallResponse) :=
  toolCalls.zipIdx.map fun (toolCall, i) => (toolCall.index.getD i, toolCall)

def maxOffset (start : Int) (calls : List (Int × ToolCallResponse)) : Int := calls.foldl (fun largest call => max largest call.1) start

def toolCallEvents (base : Int) (call : Int × ToolCallResponse) : List ClaudeResponse :=
  (if call.2.name ≠ "" then [.contentBlockStart (base + call.1) (.toolUse call.2.id call.2.name)] else []) ++
    argumentsDelta (base + call.1) call.2

-- A run of tool deltas takes its base where the blocks before it end.
def ClaudeConvertInfo.inTools (claude : ClaudeConvertInfo) : ClaudeConvertInfo :=
  if claude.lastMessagesType ≠ .tools then
    { claude.advance with toolCallBaseIndex := claude.advance.index, toolCallMaxIndexOffset := 0, lastMessagesType := .tools }
  else claude

def convertTools (toolCalls : List ToolCallResponse) (claude : ClaudeConvertInfo) : List ClaudeResponse × ClaudeConvertInfo :=
  let calls := toolOffsets toolCalls
  let opened := claude.inTools
  let largest := maxOffset opened.toolCallMaxIndexOffset calls
  ((if claude.lastMessagesType ≠ .tools then stopOpenAI2ClaudeBlocks claude else []) ++
      calls.flatMap (toolCallEvents opened.toolCallBaseIndex),
    { opened with toolCallMaxIndexOffset := largest, index := opened.toolCallBaseIndex + largest })

def convertDelta (delta : Delta) (claude : ClaudeConvertInfo) : List ClaudeResponse × ClaudeConvertInfo :=
  if delta.toolCalls ≠ [] then convertTools delta.toolCalls claude else convertText false delta claude

-- The chunk that ends the choice also ends the message.
def finishChoice (choice : Choice) (usage : Option Usage) (info : RelayInfo) : List ClaudeResponse × RelayInfo :=
  match choice.finished with
  | some reason => finalizeOpenAI2Claude usage { info with finishReason := reason }
  | none => ([], info)

def streamFirst (openAIResponse : ChatCompletionsStreamResponse) (info : RelayInfo) : List ClaudeResponse × RelayInfo :=
  let start := ClaudeResponse.messageStart openAIResponse.id openAIResponse.model info.estimatePromptTokens
  match openAIResponse.choices with
  | [] => ([start], info)
  | choice :: _ =>
      let tool := firstToolCall choice.delta info.claude
      let text := convertText true choice.delta tool.2
      let finish := finishChoice choice openAIResponse.usage { info with claude := text.2 }
      (start :: tool.1 ++ text.1 ++ finish.1, finish.2)

def streamLater (openAIResponse : ChatCompletionsStreamResponse) (info : RelayInfo) : List ClaudeResponse × RelayInfo :=
  match openAIResponse.choices with
  | [] =>
      match openAIResponse.usage.or info.claude.usage with
      | some usage => finalizeOpenAI2Claude (some usage) info
      | none => ([], info)
  | choice :: _ =>
      let converted := convertDelta choice.delta info.claude
      let finish := finishChoice choice openAIResponse.usage { info with claude := converted.2 }
      (converted.1 ++ finish.1, finish.2)

def streamResponseOpenAI2Claude (openAIResponse : ChatCompletionsStreamResponse) (info : RelayInfo) : List ClaudeResponse × RelayInfo :=
  if info.claude.done then ([], info)
  else if info.sendResponseCount = 1 then streamFirst openAIResponse info
  else streamLater openAIResponse info

def RelayInfo.start (estimatePromptTokens : Int) : RelayInfo := { estimatePromptTokens := estimatePromptTokens }

-- What is done with a chunk before it is converted.
def receive (openAIResponse : ChatCompletionsStreamResponse) (info : RelayInfo) : RelayInfo :=
  { info with
    sendResponseCount := info.sendResponseCount + 1, claude := { info.claude with usage := openAIResponse.usage.or info.claude.usage } }

def handleClaudeFormat (openAIResponse : ChatCompletionsStreamResponse) (info : RelayInfo) : List ClaudeResponse × RelayInfo :=
  streamResponseOpenAI2Claude openAIResponse (receive openAIResponse info)

-- The events of a whole stream, the end of the upstream included.
def claudeEvents (usage : Option Usage) : List ChatCompletionsStreamResponse → RelayInfo → List ClaudeResponse
  | [], info => (finalizeOpenAI2Claude usage info).1
  | chunk :: rest, info => (handleClaudeFormat chunk info).1 ++ claudeEvents usage rest (handleClaudeFormat chunk info).2

theorem handled_count (chunk : ChatCompletionsStreamResponse) (info : RelayInfo) :
    (handleClaudeFormat chunk info).2.sendResponseCount = info.sendResponseCount + 1 := by
  have finalized : ∀ usage after, (finalizeOpenAI2Claude usage after).2.sendResponseCount = after.sendResponseCount := by
    intro usage after
    unfold finalizeOpenAI2Claude
    split <;> rfl
  have finished : ∀ choice usage after, (finishChoice choice usage after).2.sendResponseCount = after.sendResponseCount := by
    intro choice usage after
    unfold finishChoice
    split
    · exact finalized _ _
    · rfl
  unfold handleClaudeFormat streamResponseOpenAI2Claude streamFirst streamLater
  split
  · rfl
  · split
    · split
      · rfl
      · exact finished _ _ _
    · split
      · split
        · exact finalized _ _
        · rfl
      · exact finished _ _ _

end CodeGo.Translation
