import CodeGo.Lib.Text
import Mathlib.Data.List.Basic
import Mathlib.Data.List.Flatten

set_option autoImplicit false

namespace CodeGo.Translation.Requests

/- A Claude request turned into a chat completions request. JSON values the converter does not
   look into stay abstract, and raw JSON is kept as what it encodes. -/

inductive AnyValue (Value : Type) where
  | null
  | string (text : String)
  | other (value : Value)
deriving DecidableEq, Repr

structure ClaudeMessageSource (Value : Type) where
  mediaType : String := ""
  data : AnyValue Value := .null
deriving DecidableEq, Repr

structure ClaudeMediaMessage (Value : Type) where
  type : String
  text : Option String := none
  source : Option (ClaudeMessageSource Value) := none
  cacheControl : String := ""
  id : String := ""
  name : String := ""
  input : AnyValue Value := .null
  content : AnyValue Value := .null
  toolUseID : String := ""
deriving DecidableEq, Repr

structure ClaudeMessage (Value : Type) where
  role : String
  content : AnyValue Value
deriving DecidableEq, Repr

structure Tool (Value : Type) where
  name : String
  description : String := ""
  inputSchema : AnyValue Value := .null
deriving DecidableEq, Repr

structure Thinking where
  type : String := ""
  budgetTokens : Option Int := none
deriving DecidableEq, Repr

-- The numbers that are only copied are values as well.
structure ClaudeRequest (Value : Type) where
  model : String := ""
  system : AnyValue Value := .null
  messages : List (ClaudeMessage Value) := []
  maxTokens : Option Nat := none
  stopSequences : List String := []
  temperature : Option Value := none
  topP : Option Value := none
  topK : Option Int := none
  stream : Option Bool := none
  tools : AnyValue Value := .null
  outputConfig : String := ""
  thinking : Option Thinking := none

structure RelayInfo where
  channelType : Int := 0
  originModelName : String := ""
  upstreamModelName : String := ""

structure FunctionRequest (Value : Type) where
  description : String := ""
  name : String
  parameters : AnyValue Value := .null
  arguments : String := ""
deriving DecidableEq, Repr

structure ToolCallRequest (Value : Type) where
  id : String := ""
  type : String
  function : FunctionRequest Value
deriving DecidableEq, Repr

structure MediaContent where
  type : String
  text : String := ""
  imageUrl : Option String := none
  cacheControl : String := ""
deriving DecidableEq, Repr

inductive MessageContent where
  | null
  | string (text : String)
  | media (contents : List MediaContent)
deriving DecidableEq, Repr

inductive RawToolCalls (Value : Type) where
  | unset
  | encoded (calls : List (ToolCallRequest Value))
  | malformed
deriving DecidableEq, Repr

structure Message (Value : Type) where
  role : String
  content : MessageContent := .null
  name : Option String := none
  toolCalls : RawToolCalls Value := .unset
  toolCallID : String := ""
deriving DecidableEq, Repr

inductive Stop where
  | unset
  | one (sequence : String)
  | many (sequences : List String)
deriving DecidableEq, Repr

structure GeneralOpenAIRequest (Value : Type) where
  model : String
  temperature : Option Value
  maxTokens : Option Nat
  topP : Option Value
  topK : Option Int
  stream : Option Bool
  verbosity : String
  reasoning : String
  stop : Stop
  tools : List (ToolCallRequest Value)
  messages : List (Message Value)

-- The JSON encoder and decoder at the values they are used on, and the printing of a value with %s.
structure Encoding (Value : Type) where
  marshal : AnyValue Value → Option String
  toMedia : AnyValue Value → Except String (List (ClaudeMediaMessage Value))
  marshalMedia : List (ClaudeMediaMessage Value) → String
  toTools : AnyValue Value → Except String (List (Tool Value))
  effort : String → Option String
  print : AnyValue Value → String

inductive ConversionError where
  | content (text : String)
  -- a nil source is dereferenced
  | nilSource
deriving DecidableEq, Repr

def channelTypeOpenRouter : Int := 20

section
variable {Value : Type}

/- The request's own accessors. -/

def ClaudeMediaMessage.getText (block : ClaudeMediaMessage Value) : String := block.text.getD ""

variable (encoding : Encoding Value)

-- Errors of the decoder leave an empty list.
def parsed (content : AnyValue Value) : List (ClaudeMediaMessage Value) :=
  match encoding.toMedia content with
  | .ok blocks => blocks
  | .error _ => []

def toJSONString (value : AnyValue Value) : String := (encoding.marshal value).getD "\x7b\x7d"

def searchToolNameByToolCallID (request : ClaudeRequest Value) (toolCallID : String) : String :=
  match (request.messages.flatMap fun message => parsed encoding message.content).find? fun block => block.id = toolCallID with
  | some block => block.name
  | none => ""

def getEfforts (request : ClaudeRequest Value) : String := (encoding.effort request.outputConfig).getD ""

/- One message. -/

def Message.parseContent (message : Message Value) : List MediaContent :=
  match message.content with
  | .null => []
  | .string text => [{ type := "text", text := text }]
  | .media contents => contents

def ClaudeMessageSource.url (source : ClaudeMessageSource Value) : String :=
  "data:" ++ source.mediaType ++ ";base64," ++
    match source.data with
    | .string data => data
    | data => encoding.print data

-- What of one Claude message is appended at once, and what waits for its end.
structure Carried (Value : Type) where
  messages : List (Message Value)
  toolCalls : List (ToolCallRequest Value) := []
  media : List MediaContent := []

def textMedia (block : ClaudeMediaMessage Value) : MediaContent :=
  { type := "text", text := block.getText, cacheControl := block.cacheControl }

def imageMedia (source : ClaudeMessageSource Value) : MediaContent :=
  { type := "image_url", imageUrl := some (source.url encoding) }

def toolCall (block : ClaudeMediaMessage Value) : ToolCallRequest Value :=
  { id := block.id, type := "function", function := { name := block.name, arguments := toJSONString encoding block.input } }

def resultContent (block : ClaudeMediaMessage Value) : String :=
  match block.content with
  | .string text => text
  | content => encoding.marshalMedia (parsed encoding content)

def toolMessage (request : ClaudeRequest Value) (block : ClaudeMediaMessage Value) : Message Value :=
  { role := "tool",
    name := some (if block.name = "" then searchToolNameByToolCallID encoding request block.toolUseID else block.name),
    toolCallID := block.toolUseID,
    content := .string (resultContent encoding block) }

def convertBlock (request : ClaudeRequest Value) (carried : Carried Value) (block : ClaudeMediaMessage Value) :
    Except ConversionError (Carried Value) :=
  if block.type = "text" ∨ block.type = "input_text" then
    .ok { carried with media := carried.media ++ [textMedia block] }
  else if block.type = "image" then
    match block.source with
    | none => .error .nilSource
    | some source => .ok { carried with media := carried.media ++ [imageMedia encoding source] }
  else if block.type = "tool_use" then
    .ok { carried with toolCalls := carried.toolCalls ++ [toolCall encoding block] }
  else if block.type = "tool_result" then
    .ok { carried with messages := carried.messages ++ [toolMessage encoding request block] }
  else .ok carried

-- The message at the end of a list of blocks: media only where there are no tool calls.
def carrier (role : String) (toolCalls : List (ToolCallRequest Value)) (media : List MediaContent) : Message Value :=
  { role := role,
    toolCalls := if toolCalls = [] then .unset else .encoded toolCalls,
    content := if media ≠ [] ∧ toolCalls = [] then .media media else .null }

-- A message with neither content nor tool calls is not sent.
def appendMessage (messages : List (Message Value)) (message : Message Value) : List (Message Value) :=
  if message.parseContent ≠ [] ∨ message.toolCalls matches .encoded _ then messages ++ [message] else messages

def convertMessage (request : ClaudeRequest Value) (messages : List (Message Value)) (message : ClaudeMessage Value) :
    Except ConversionError (List (Message Value)) :=
  match message.content with
  | .string text => .ok (appendMessage messages { role := message.role, content := .string text })
  | content => do
      let blocks ← (encoding.toMedia content).mapError .content
      let carried ← blocks.foldlM (convertBlock encoding request) { messages := messages }
      .ok (appendMessage carried.messages (carrier message.role carried.toolCalls carried.media))

/- What stands before and beside the messages. -/

-- Claude behind OpenRouter keeps the blocks of its system prompt, every other model gets their texts joined.
def systemMedia (info : RelayInfo) : List (ClaudeMediaMessage Value) → List (Message Value)
  | [] => []
  | systems =>
      if info.channelType = channelTypeOpenRouter ∧ Text.hasPrefix "anthropic/claude" info.upstreamModelName = true then
        [{ role := "system", content := .media (systems.map textMedia) }]
      else [{ role := "system", content := .string (String.join (systems.map ClaudeMediaMessage.getText)) }]

def systemMessages (info : RelayInfo) (request : ClaudeRequest Value) : List (Message Value) :=
  match request.system with
  | .null => []
  | .string text =>
      if text ≠ "" then [{ role := "system", content := .string text }] else systemMedia info (parsed encoding request.system)
  | .other _ => systemMedia info (parsed encoding request.system)

def openAITools (request : ClaudeRequest Value) : List (ToolCallRequest Value) :=
  match encoding.toTools request.tools with
  | .ok tools => tools.map fun tool =>
      { type := "function",
        function := { name := tool.name, description := tool.description, parameters := tool.inputSchema } }
  | .error _ => []

def thinkingSuffix : String := "-thinking"

-- OpenRouter is told of reasoning by a field, every other channel by the name of the model.
def requestModel (info : RelayInfo) (request : ClaudeRequest Value) : String :=
  if info.channelType ≠ channelTypeOpenRouter ∧ Text.hasSuffix thinkingSuffix info.originModelName = true ∧
      ¬ Text.hasSuffix thinkingSuffix request.model = true then request.model ++ thinkingSuffix
  else request.model

def requestVerbosity (info : RelayInfo) (request : ClaudeRequest Value) : String :=
  if info.channelType = channelTypeOpenRouter ∧ getEfforts encoding request ≠ "" then
    (encoding.marshal (.string (getEfforts encoding request))).getD ""
  else ""

-- The JSON of the reasoning options; a zero budget is omitted.
def reasoningJSON (enabled : Bool) (maxTokens : Int) : String :=
  "\x7b\"enabled\":" ++ (if enabled then "true" else "false") ++
    (if maxTokens = 0 then "" else ",\"max_tokens\":" ++ toString maxTokens) ++ "\x7d"

def requestReasoning (info : RelayInfo) (request : ClaudeRequest Value) : String :=
  match request.thinking with
  | none => ""
  | some thinking =>
      if info.channelType ≠ channelTypeOpenRouter then ""
      else if thinking.type = "enabled" then reasoningJSON true (thinking.budgetTokens.getD 0)
      else if thinking.type = "adaptive" then reasoningJSON true 0
      else reasoningJSON false 0

def requestStop (request : ClaudeRequest Value) : Stop :=
  match request.stopSequences with
  | [] => .unset
  | [sequence] => .one sequence
  | sequences => .many sequences

def claudeToOpenAIRequest (info : RelayInfo) (request : ClaudeRequest Value) :
    Except ConversionError (GeneralOpenAIRequest Value) := do
  let messages ← request.messages.foldlM (convertMessage encoding request) (systemMessages encoding info request)
  .ok {
    model := requestModel info request,
    temperature := request.temperature,
    maxTokens := request.maxTokens,
    topP := request.topP,
    topK := request.topK,
    stream := request.stream,
    verbosity := requestVerbosity encoding info request,
    reasoning := requestReasoning info request,
    stop := requestStop request,
    tools := openAITools encoding request,
    messages := messages }

/- What a conversation says, block by block, on either side. -/

inductive Piece where
  | text (text : String)
  | image (url : String)
  | toolUse (id name arguments : String)
  | toolResult (id content : String)
deriving DecidableEq, Repr

def Piece.isMedia : Piece → Bool
  | .text _ => true
  | .image _ => true
  | _ => false

def Piece.isUse : Piece → Bool
  | .toolUse _ _ _ => true
  | _ => false

def Piece.isResult : Piece → Bool
  | .toolResult _ _ => true
  | _ => false

-- The blocks a claim about content is about: images carry their source.
def ClaudeMediaMessage.Plain (block : ClaudeMediaMessage Value) : Prop :=
  block.type ∈ ["text", "input_text", "tool_use", "tool_result"] ∨ (block.type = "image" ∧ block.source.isSome = true)

def ClaudeMediaMessage.piece (block : ClaudeMediaMessage Value) : Option Piece :=
  if block.type = "text" ∨ block.type = "input_text" then some (.text block.getText)
  else if block.type = "image" then block.source.map fun source => .image (source.url encoding)
  else if block.type = "tool_use" then some (.toolUse block.id block.name (toJSONString encoding block.input))
  else if block.type = "tool_result" then some (.toolResult block.toolUseID (resultContent encoding block))
  else none

def ClaudeMessage.Plain (message : ClaudeMessage Value) : Prop :=
  match message.content with
  | .string _ => True
  | content => ∃ blocks, encoding.toMedia content = .ok blocks ∧ ∀ block ∈ blocks, block.Plain

def ClaudeMessage.blocks (message : ClaudeMessage Value) : List (ClaudeMediaMessage Value) :=
  match message.content with
  | .string _ => []
  | content => parsed encoding content

def ClaudeMessage.pieces (message : ClaudeMessage Value) : List Piece :=
  match message.content with
  | .string text => [.text text]
  | _ => (message.blocks encoding).filterMap (ClaudeMediaMessage.piece encoding)

def MediaContent.piece (media : MediaContent) : Piece :=
  match media.imageUrl with
  | some url => .image url
  | none => .text media.text

def ToolCallRequest.piece (call : ToolCallRequest Value) : Piece :=
  .toolUse call.id call.function.name call.function.arguments

-- Only tool outputs are sent with a name.
def Message.pieces (message : Message Value) : List Piece :=
  match message.name, message.content with
  | some _, .string text => [.toolResult message.toolCallID text]
  | _, _ =>
      message.parseContent.map MediaContent.piece ++
        match message.toolCalls with
        | .encoded calls => calls.map ToolCallRequest.piece
        | _ => []

-- What the converter makes of one message: the results first, then its calls or, without any, its media.
def arranged (pieces : List Piece) : List Piece :=
  pieces.filter Piece.isResult ++
    if pieces.any Piece.isUse then pieces.filter Piece.isUse else pieces.filter Piece.isMedia

-- The results come first and no call stands beside a text or an image.
def Aligned (pieces : List Piece) : Prop :=
  (∃ results rest, pieces = results ++ rest ∧ (∀ piece ∈ results, piece.isResult = true) ∧
    ∀ piece ∈ rest, piece.isResult = false) ∧
  ((∀ piece ∈ pieces, piece.isUse = false) ∨ ∀ piece ∈ pieces, piece.isMedia = false)

/- What the loop over the blocks of a message has gathered at its end. -/

def mediaOf (block : ClaudeMediaMessage Value) : Option MediaContent :=
  if block.type = "text" ∨ block.type = "input_text" then some (textMedia block)
  else if block.type = "image" then block.source.map (imageMedia encoding) else none

def callOf (block : ClaudeMediaMessage Value) : Option (ToolCallRequest Value) :=
  if block.type = "tool_use" then some (toolCall encoding block) else none

def outputOf (request : ClaudeRequest Value) (block : ClaudeMediaMessage Value) : Option (Message Value) :=
  if block.type = "tool_result" then some (toolMessage encoding request block) else none

theorem convert_block_ok (request : ClaudeRequest Value) (carried : Carried Value) (block : ClaudeMediaMessage Value) (plain : block.Plain) :
    convertBlock encoding request carried block =
      .ok {
        messages := carried.messages ++ (outputOf encoding request block).toList,
        toolCalls := carried.toolCalls ++ (callOf encoding block).toList,
        media := carried.media ++ (mediaOf encoding block).toList } := by
  unfold convertBlock outputOf callOf mediaOf
  obtain member | ⟨image, present⟩ := plain
  · simp only [List.mem_cons, List.not_mem_nil, or_false] at member
    obtain text | text | use | result := member
    · simp [text]
    · simp [text]
    · simp [use]
    · simp [result]
  · obtain ⟨source, found⟩ := Option.isSome_iff_exists.mp present
    simp [image, found]

theorem convert_blocks_ok (request : ClaudeRequest Value) (blocks : List (ClaudeMediaMessage Value)) (carried : Carried Value)
    (plain : ∀ block ∈ blocks, block.Plain) :
    blocks.foldlM (convertBlock encoding request) carried =
      .ok {
        messages := carried.messages ++ blocks.filterMap (outputOf encoding request),
        toolCalls := carried.toolCalls ++ blocks.filterMap (callOf encoding),
        media := carried.media ++ blocks.filterMap (mediaOf encoding) } := by
  induction blocks generalizing carried with
  | nil => simp [pure, Except.pure]
  | cons block rest ih =>
      have first := convert_block_ok encoding request carried block (plain block List.mem_cons_self)
      rw [List.foldlM_cons, first]
      change List.foldlM (convertBlock encoding request) _ rest = _
      rw [ih _ fun other member => plain other (List.mem_cons_of_mem block member)]
      simp only [List.append_assoc, List.filterMap_cons]
      cases outputOf encoding request block <;> cases callOf encoding block <;> cases mediaOf encoding block <;> rfl

/- The messages one Claude message becomes. -/

def converted (request : ClaudeRequest Value) (message : ClaudeMessage Value) : List (Message Value) :=
  match message.content with
  | .string text => [{ role := message.role, content := .string text }]
  | _ =>
      (message.blocks encoding).filterMap (outputOf encoding request) ++
        appendMessage [] (carrier message.role ((message.blocks encoding).filterMap (callOf encoding)) ((message.blocks encoding).filterMap (mediaOf encoding)))

theorem append_message_eq (messages : List (Message Value)) (message : Message Value) :
    appendMessage messages message = messages ++ appendMessage [] message := by
  unfold appendMessage
  by_cases sent : message.parseContent ≠ [] ∨ (message.toolCalls matches .encoded _) = true
  · rw [if_pos sent, if_pos sent, List.nil_append]
  · rw [if_neg sent, if_neg sent, List.append_nil]

theorem append_message_cases (message : Message Value) : appendMessage [] message = [message] ∨ appendMessage [] message = [] := by
  unfold appendMessage
  by_cases sent : message.parseContent ≠ [] ∨ (message.toolCalls matches .encoded _) = true
  · exact .inl (if_pos sent)
  · exact .inr (if_neg sent)

theorem convert_message_ok (request : ClaudeRequest Value) (messages : List (Message Value)) (message : ClaudeMessage Value)
    (plain : message.Plain encoding) :
    convertMessage encoding request messages message = .ok (messages ++ converted encoding request message) := by
  have listed (content : AnyValue Value) (blocks : List (ClaudeMediaMessage Value)) (decoded : encoding.toMedia content = .ok blocks)
      (each : ∀ block ∈ blocks, block.Plain) : (do
        let blocks ← (encoding.toMedia content).mapError .content
        let carried ← blocks.foldlM (convertBlock encoding request) { messages := messages }
        .ok (appendMessage carried.messages (carrier message.role carried.toolCalls carried.media)) : Except ConversionError _) =
        .ok (messages ++ (blocks.filterMap (outputOf encoding request) ++
          appendMessage [] (carrier message.role (blocks.filterMap (callOf encoding)) (blocks.filterMap (mediaOf encoding))))) := by
    have looped := convert_blocks_ok encoding request blocks { messages := messages } each
    rw [decoded]
    change (do
      let carried ← blocks.foldlM (convertBlock encoding request) { messages := messages }
      .ok (appendMessage carried.messages (carrier message.role carried.toolCalls carried.media)) : Except ConversionError _) = _
    rw [looped]
    change Except.ok (appendMessage _ _) = _
    rw [append_message_eq, List.append_assoc]
    rfl
  unfold convertMessage converted ClaudeMessage.blocks parsed
  unfold ClaudeMessage.Plain at plain
  cases kind : message.content with
  | string text => rfl
  | null =>
      simp only [kind] at plain
      obtain ⟨blocks, decoded, each⟩ := plain
      simpa only [decoded] using listed .null blocks decoded each
  | other value =>
      simp only [kind] at plain
      obtain ⟨blocks, decoded, each⟩ := plain
      simpa only [decoded] using listed (.other value) blocks decoded each

/- The pieces a message becomes. -/

theorem tool_message_pieces (request : ClaudeRequest Value) (block : ClaudeMediaMessage Value) :
    (toolMessage encoding request block).pieces = [.toolResult block.toolUseID (resultContent encoding block)] := rfl

theorem media_piece_kind (media : MediaContent) :
    media.piece.isMedia = true ∧ media.piece.isUse = false ∧ media.piece.isResult = false := by
  unfold MediaContent.piece
  cases media.imageUrl <;> exact ⟨rfl, rfl, rfl⟩

theorem call_piece_kind (call : ToolCallRequest Value) :
    call.piece.isUse = true ∧ call.piece.isMedia = false ∧ call.piece.isResult = false := ⟨rfl, rfl, rfl⟩

theorem result_kind (id content : String) : (Piece.toolResult id content).isResult = true ∧
    (Piece.toolResult id content).isMedia = false ∧ (Piece.toolResult id content).isUse = false := ⟨rfl, rfl, rfl⟩

-- Where each kind of block goes.
theorem plain_cases (request : ClaudeRequest Value) (block : ClaudeMediaMessage Value) (plain : block.Plain) :
    (∃ media, mediaOf encoding block = some media ∧ callOf encoding block = none ∧ outputOf encoding request block = none ∧
      block.piece encoding = some media.piece) ∨
    (mediaOf encoding block = none ∧ callOf encoding block = some (toolCall encoding block) ∧ outputOf encoding request block = none ∧
      block.piece encoding = some (toolCall encoding block).piece) ∨
    (mediaOf encoding block = none ∧ callOf encoding block = none ∧
      outputOf encoding request block = some (toolMessage encoding request block) ∧
      block.piece encoding = some (.toolResult block.toolUseID (resultContent encoding block))) := by
  unfold mediaOf callOf outputOf ClaudeMediaMessage.piece
  obtain member | ⟨image, present⟩ := plain
  · simp only [List.mem_cons, List.not_mem_nil, or_false] at member
    obtain text | text | use | result := member
    · left
      exact ⟨textMedia block, by simp [text], by simp [text], by simp [text], by simp [text, MediaContent.piece, textMedia]⟩
    · left
      exact ⟨textMedia block, by simp [text], by simp [text], by simp [text], by simp [text, MediaContent.piece, textMedia]⟩
    · right
      left
      simp [use, ToolCallRequest.piece, toolCall]
    · right
      right
      simp [result]
  · left
    obtain ⟨source, found⟩ := Option.isSome_iff_exists.mp present
    exact ⟨imageMedia encoding source, by simp [image, found], by simp [image], by simp [image],
      by simp [image, found, MediaContent.piece, imageMedia]⟩

theorem sorted_pieces (request : ClaudeRequest Value) (blocks : List (ClaudeMediaMessage Value)) (plain : ∀ block ∈ blocks, block.Plain) :
    (blocks.filterMap (outputOf encoding request)).flatMap Message.pieces =
        (blocks.filterMap (ClaudeMediaMessage.piece encoding)).filter Piece.isResult ∧
      (blocks.filterMap (callOf encoding)).map ToolCallRequest.piece =
        (blocks.filterMap (ClaudeMediaMessage.piece encoding)).filter Piece.isUse ∧
      (blocks.filterMap (mediaOf encoding)).map MediaContent.piece =
        (blocks.filterMap (ClaudeMediaMessage.piece encoding)).filter Piece.isMedia := by
  induction blocks with
  | nil => exact ⟨rfl, rfl, rfl⟩
  | cons block rest ih =>
      obtain ⟨outputs, calls, medias⟩ := ih fun other member => plain other (List.mem_cons_of_mem block member)
      simp only [List.filterMap_cons]
      obtain ⟨media, gathered, noCall, noOutput, piece⟩ | ⟨noMedia, called, noOutput, piece⟩ | ⟨noMedia, noCall, sent, piece⟩ :=
        plain_cases encoding request block (plain block List.mem_cons_self)
      · obtain ⟨isMedia, notUse, notResult⟩ := media_piece_kind media
        simp [gathered, noCall, noOutput, piece, outputs, calls, medias, isMedia, notUse, notResult]
      · obtain ⟨isUse, notMedia, notResult⟩ := call_piece_kind (toolCall encoding block)
        simp [noMedia, called, noOutput, piece, outputs, calls, medias, isUse, notMedia, notResult]
      · obtain ⟨isResult, notMedia, notUse⟩ := result_kind block.toolUseID (resultContent encoding block)
        simp [noMedia, noCall, sent, piece, outputs, calls, medias, tool_message_pieces, isResult, notMedia, notUse]

theorem carrier_pieces (role : String) (toolCalls : List (ToolCallRequest Value)) (media : List MediaContent) :
    (appendMessage [] (carrier role toolCalls media)).flatMap Message.pieces =
      if toolCalls = [] then media.map MediaContent.piece else toolCalls.map ToolCallRequest.piece := by
  cases toolCalls with
  | nil => cases media <;> simp [appendMessage, carrier, Message.parseContent, Message.pieces]
  | cons call rest => simp [appendMessage, carrier, Message.parseContent, Message.pieces]

theorem any_use (pieces : List Piece) : pieces.any Piece.isUse = true ↔ pieces.filter Piece.isUse ≠ [] := by
  simp [List.filter_eq_nil_iff]

theorem listed_pieces (request : ClaudeRequest Value) (role : String) (blocks : List (ClaudeMediaMessage Value)) (plain : ∀ block ∈ blocks, block.Plain) :
    (blocks.filterMap (outputOf encoding request) ++
        appendMessage [] (carrier role (blocks.filterMap (callOf encoding)) (blocks.filterMap (mediaOf encoding)))).flatMap Message.pieces =
      arranged (blocks.filterMap (ClaudeMediaMessage.piece encoding)) := by
  obtain ⟨outputs, calls, medias⟩ := sorted_pieces encoding request blocks plain
  rw [List.flatMap_append, outputs, carrier_pieces, medias, calls, arranged]
  congr 1
  by_cases none : blocks.filterMap (callOf encoding) = []
  · rw [if_pos none, if_neg]
    rw [any_use, ← calls, none]
    simp
  · rw [if_neg none, if_pos]
    rw [any_use, ← calls]
    simpa using none

theorem converted_pieces (request : ClaudeRequest Value) (message : ClaudeMessage Value) (plain : message.Plain encoding) :
    (converted encoding request message).flatMap Message.pieces = arranged (message.pieces encoding) := by
  unfold converted ClaudeMessage.pieces ClaudeMessage.blocks parsed
  unfold ClaudeMessage.Plain at plain
  cases kind : message.content with
  | string text => rfl
  | null =>
      simp only [kind] at plain
      obtain ⟨blocks, decoded, each⟩ := plain
      simpa only [decoded] using listed_pieces encoding request message.role blocks each
  | other value =>
      simp only [kind] at plain
      obtain ⟨blocks, decoded, each⟩ := plain
      simpa only [decoded] using listed_pieces encoding request message.role blocks each

/- A whole request. -/

def ClaudeRequest.Plain (request : ClaudeRequest Value) : Prop := ∀ message ∈ request.messages, message.Plain encoding

def ClaudeRequest.pieces (request : ClaudeRequest Value) : List Piece := request.messages.flatMap (ClaudeMessage.pieces encoding)

theorem convert_messages_ok (request : ClaudeRequest Value) (messages : List (ClaudeMessage Value)) (sent : List (Message Value))
    (plain : ∀ message ∈ messages, message.Plain encoding) :
    messages.foldlM (convertMessage encoding request) sent = .ok (sent ++ messages.flatMap (converted encoding request)) := by
  induction messages generalizing sent with
  | nil => simp [pure, Except.pure]
  | cons message rest ih =>
      rw [List.foldlM_cons, convert_message_ok encoding request sent message (plain message List.mem_cons_self)]
      change List.foldlM (convertMessage encoding request) _ rest = _
      rw [ih _ fun other member => plain other (List.mem_cons_of_mem message member), List.flatMap_cons, List.append_assoc]

theorem request_converts (info : RelayInfo) (request : ClaudeRequest Value) (plain : request.Plain encoding) :
    ∃ answer, claudeToOpenAIRequest encoding info request = .ok answer ∧
      answer.messages = systemMessages encoding info request ++ request.messages.flatMap (converted encoding request) := by
  unfold claudeToOpenAIRequest
  rw [convert_messages_ok encoding request request.messages _ plain]
  exact ⟨_, rfl, rfl⟩

theorem request_pieces (request : ClaudeRequest Value) (plain : request.Plain encoding) :
    (request.messages.flatMap (converted encoding request)).flatMap Message.pieces =
      request.messages.flatMap fun message => arranged (message.pieces encoding) := by
  rw [List.flatMap_assoc]
  exact List.flatMap_congr fun message member => converted_pieces encoding request message (plain message member)

end

/- What is kept of a message, and when it is all of it. -/

theorem piece_kinds (piece : Piece) : (piece.isResult = true ∧ piece.isUse = false ∧ piece.isMedia = false) ∨
    (piece.isResult = false ∧ piece.isUse = true ∧ piece.isMedia = false) ∨
    (piece.isResult = false ∧ piece.isUse = false ∧ piece.isMedia = true) := by
  cases piece with
  | text text => exact .inr (.inr ⟨rfl, rfl, rfl⟩)
  | image url => exact .inr (.inr ⟨rfl, rfl, rfl⟩)
  | toolUse id name arguments => exact .inr (.inl ⟨rfl, rfl, rfl⟩)
  | toolResult id content => exact .inl ⟨rfl, rfl, rfl⟩

theorem sorted_length (pieces : List Piece) :
    (pieces.filter Piece.isResult).length + (pieces.filter Piece.isUse).length + (pieces.filter Piece.isMedia).length = pieces.length := by
  induction pieces with
  | nil => rfl
  | cons piece rest ih =>
      obtain ⟨result, use, media⟩ | ⟨result, use, media⟩ | ⟨result, use, media⟩ := piece_kinds piece
      all_goals
        simp [result, use, media]
        omega

theorem arranged_length (pieces : List Piece) : (arranged pieces).length ≤ pieces.length := by
  have whole := sorted_length pieces
  unfold arranged
  rw [List.length_append]
  split <;> omega

theorem filter_kinds (pieces : List Piece) :
    (pieces.filter Piece.isResult).filter Piece.isUse = [] ∧ (pieces.filter Piece.isUse).filter Piece.isResult = [] ∧
      (pieces.filter Piece.isMedia).filter Piece.isUse = [] ∧ (pieces.filter Piece.isMedia).filter Piece.isResult = [] := by
  simp only [List.filter_eq_nil_iff, List.mem_filter]
  refine ⟨?_, ?_, ?_, ?_⟩
  all_goals
    intro piece both
    have kinds := piece_kinds piece
    grind

theorem arranged_uses (pieces : List Piece) : (arranged pieces).filter Piece.isUse = pieces.filter Piece.isUse := by
  obtain ⟨resultUse, _, mediaUse, _⟩ := filter_kinds pieces
  unfold arranged
  rw [List.filter_append, resultUse, List.nil_append]
  by_cases uses : pieces.any Piece.isUse = true
  · rw [if_pos uses, List.filter_filter]
    simp
  · have none : pieces.filter Piece.isUse = [] := by simpa using uses
    rw [if_neg uses, mediaUse, none]

theorem arranged_results (pieces : List Piece) : (arranged pieces).filter Piece.isResult = pieces.filter Piece.isResult := by
  obtain ⟨_, useResult, _, mediaResult⟩ := filter_kinds pieces
  unfold arranged
  rw [List.filter_append, List.filter_filter]
  split
  · simp [useResult]
  · simp [mediaResult]

theorem arranged_of_aligned (pieces : List Piece) (aligned : Aligned pieces) : arranged pieces = pieces := by
  obtain ⟨⟨results, rest, split, first, later⟩, single⟩ := aligned
  have found : pieces.filter Piece.isResult = results := by
    rw [split, List.filter_append, List.filter_eq_self.mpr first, List.filter_eq_nil_iff.mpr fun piece member => by simp [later piece member], List.append_nil]
  have kept (kind : Piece → Bool) (none : ∀ piece ∈ results, kind piece = false) (all : ∀ piece ∈ rest, kind piece = true) :
      pieces.filter kind = rest := by
    rw [split, List.filter_append, List.filter_eq_nil_iff.mpr fun piece member => by simp [none piece member], List.filter_eq_self.mpr all, List.nil_append]
  unfold arranged
  rw [found]
  by_cases uses : pieces.any Piece.isUse = true
  · obtain ⟨use, member, isUse⟩ := List.any_eq_true.mp uses
    have noMedia : ∀ piece ∈ pieces, piece.isMedia = false := by
      obtain none | none := single
      · simp [none use member] at isUse
      · exact none
    rw [if_pos uses, kept Piece.isUse, split]
    · intro piece inside
      have kinds := piece_kinds piece
      have result := first piece inside
      grind
    · intro piece inside
      have kinds := piece_kinds piece
      have notResult := later piece inside
      have notMedia := noMedia piece (by simp [split, inside])
      grind
  · rw [if_neg uses, kept Piece.isMedia, split]
    · intro piece inside
      have kinds := piece_kinds piece
      have result := first piece inside
      grind
    · intro piece inside
      have kinds := piece_kinds piece
      have notResult := later piece inside
      have notUse : piece.isUse = false := by
        by_contra use
        exact uses (List.any_eq_true.mpr ⟨piece, by simp [split, inside], by simpa using use⟩)
      grind

theorem aligned_of_arranged (pieces : List Piece) (same : arranged pieces = pieces) : Aligned pieces := by
  constructor
  · refine ⟨_, _, same.symm, fun piece member => (List.mem_filter.mp member).2, ?_⟩
    intro piece member
    have kinds := piece_kinds piece
    split at member
    · have use := (List.mem_filter.mp member).2
      grind
    · have media := (List.mem_filter.mp member).2
      grind
  · by_cases uses : pieces.any Piece.isUse = true
    · right
      intro piece member
      rw [← same, arranged, if_pos uses, List.mem_append, List.mem_filter, List.mem_filter] at member
      have kinds := piece_kinds piece
      grind
    · left
      intro piece member
      by_contra use
      exact uses (List.any_eq_true.mpr ⟨piece, member, by simpa using use⟩)

theorem flat_map_same {α β : Type} (short long : α → List β) (list : List α) (less : ∀ a, (short a).length ≤ (long a).length) :
    list.flatMap short = list.flatMap long ↔ ∀ a ∈ list, short a = long a := by
  induction list with
  | nil => simp
  | cons a rest ih =>
      have lengths (l : List α) : (l.flatMap short).length ≤ (l.flatMap long).length := by
        induction l with
        | nil => simp
        | cons b tail step =>
            have here := less b
            simp only [List.flatMap_cons, List.length_append]
            omega
      rw [List.flatMap_cons, List.flatMap_cons, List.forall_mem_cons, ← ih]
      constructor
      · intro same
        have total := congrArg List.length same
        rw [List.length_append, List.length_append] at total
        have head := less a
        have tail := lengths rest
        exact List.append_inj same (by omega)
      · intro both
        rw [both.1, both.2]

end CodeGo.Translation.Requests
