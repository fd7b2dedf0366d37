import CodeGo.Lib.Numeral
import CodeGo.Translation.ToolHistory

set_option autoImplicit false

open Text

namespace CodeGo.Translation.Requests

/- A Gemini request turned into a chat completions request. The detail and the media type of
   an image are left out. -/

structure GeminiInlineData where
  mimeType : String := ""
  data : String := ""
deriving DecidableEq, Repr

structure FunctionCall (Value : Type) where
  functionName : String
  arguments : AnyValue Value := .null
deriving DecidableEq, Repr

structure GeminiFunctionResponse (Value : Type) where
  name : String
  response : AnyValue Value := .null
deriving DecidableEq, Repr

structure GeminiPart (Value : Type) where
  text : String := ""
  inlineData : Option GeminiInlineData := none
  fileUri : Option String := none
  functionCall : Option (FunctionCall Value) := none
  functionResponse : Option (GeminiFunctionResponse Value) := none
deriving DecidableEq, Repr

structure GeminiChatContent (Value : Type) where
  role : String := ""
  parts : List (GeminiPart Value) := []
deriving DecidableEq, Repr

-- A slice and what its array holds behind it, which slicing up to the capacity brings back.
structure Slice where
  values : List String := []
  spare : List String := []
deriving DecidableEq, Repr

structure GeminiChatGenerationConfig (Value : Type) where
  temperature : Option Value := none
  topP : Option Value := none
  topK : Option Value := none
  maxOutputTokens : Option Nat := none
  candidateCount : Option Int := none
  stopSequences : Slice := {}

structure GeminiChatRequest (Value : Type) where
  contents : List (GeminiChatContent Value) := []
  generationConfig : GeminiChatGenerationConfig Value := {}
  tools : String := ""
  systemInstructions : Option (GeminiChatContent Value) := none

structure CountedRequest (Value : Type) extends GeneralOpenAIRequest Value where
  n : Option Int

-- Beside the JSON values: the function declarations of raw tools and the tests of numbers.
structure GeminiEncoding (Value : Type) extends Encoding Value where
  getTools : String → List (AnyValue Value)
  toFunctions : AnyValue Value → Except String (List (FunctionRequest Value))
  positive : Value → Bool
  truncate : Value → Int

inductive GeminiError where
  -- slice bounds out of range
  | sliceBounds
deriving DecidableEq, Repr

-- What a part is taken for: its first field that is set.
inductive PartKind (Value : Type) where
  | text (text : String)
  | image (url : String)
  | call (call : FunctionCall Value)
  | response (response : GeminiFunctionResponse Value)
  | nothing

section
variable {Value : Type}

def GeminiPart.kind (part : GeminiPart Value) : PartKind Value :=
  if part.text ≠ "" then .text part.text
  else
    match part.inlineData, part.fileUri, part.functionCall, part.functionResponse with
    | some inline, _, _, _ => .image ("data:" ++ inline.mimeType ++ ";base64," ++ inline.data)
    | none, some fileUri, _, _ => .image fileUri
    | none, none, some call, _ => .call call
    | none, none, none, some response => .response response
    | none, none, none, none => .nothing

def callID (number : Nat) : String := "call_" ++ toString number

variable (encoding : Encoding Value)

def geminiCall (number : Nat) (call : FunctionCall Value) : ToolCallRequest Value :=
  { id := callID number, type := "function",
    function := { name := call.functionName, arguments := toJSONString encoding call.arguments } }

def geminiOutput (number : Nat) (response : GeminiFunctionResponse Value) : Message Value :=
  { role := "tool", toolCallID := callID number, content := .string (toJSONString encoding response.response) }

-- Calls are numbered within their content, and a response takes the number of the last call before it there.
def convertPart (carried : Carried Value) (part : GeminiPart Value) : Carried Value :=
  match part.kind with
  | .text text => { carried with media := carried.media ++ [{ type := "text", text := text }] }
  | .image url => { carried with media := carried.media ++ [{ type := "image_url", imageUrl := some url }] }
  | .call call => { carried with toolCalls := carried.toolCalls ++ [geminiCall encoding (carried.toolCalls.length + 1) call] }
  | .response response => { carried with messages := carried.messages ++ [geminiOutput encoding carried.toolCalls.length response] }
  | .nothing => carried

def convertGeminiRoleToOpenAI (role : String) : String :=
  if role = "user" then "user" else if role = "model" then "assistant" else if role = "function" then "function" else "user"

def geminiContent (toolCalls : List (ToolCallRequest Value)) (media : List MediaContent) : MessageContent :=
  if toolCalls ≠ [] then .null
  else
    match media with
    | [] => .null
    | [single] => if single.type = "text" then .string single.text else .media [single]
    | several => .media several

def geminiCarrier (role : String) (toolCalls : List (ToolCallRequest Value)) (media : List MediaContent) : Message Value :=
  { role := convertGeminiRoleToOpenAI role,
    toolCalls := if toolCalls = [] then .unset else .encoded toolCalls,
    content := geminiContent toolCalls media }

def convertContent (messages : List (Message Value)) (content : GeminiChatContent Value) : List (Message Value) :=
  let carried := content.parts.foldl (convertPart encoding) { messages := messages }
  appendMessage carried.messages (geminiCarrier content.role carried.toolCalls carried.media)

def extractTextFromGeminiParts (parts : List (GeminiPart Value)) : String :=
  String.intercalate "\n" ((parts.map GeminiPart.text).filter (· ≠ ""))

def geminiSystem (request : GeminiChatRequest Value) : List (Message Value) :=
  match request.systemInstructions with
  | none => []
  | some instructions => [{ role := "system", content := .string (extractTextFromGeminiParts instructions.parts) }]

-- The first four of a slice, counted up to its capacity.
def Slice.firstFour (slice : Slice) : Except GeminiError (List String) :=
  if (slice.values ++ slice.spare).length < 4 then .error .sliceBounds else .ok ((slice.values ++ slice.spare).take 4)

def geminiStop (slice : Slice) : Except GeminiError Stop :=
  if slice.values = [] then .ok .unset else slice.firstFour.map .many

def geminiTools (encoding : GeminiEncoding Value) (request : GeminiChatRequest Value) : List (ToolCallRequest Value) :=
  (encoding.getTools request.tools).flatMap fun declarations =>
    if declarations matches .null then []
    else
      match encoding.toFunctions declarations with
      | .ok functions => functions.map fun function =>
          { type := "function",
            function := { name := function.name, description := function.description, parameters := function.parameters } }
      | .error _ => []

def geminiToOpenAIRequest (encoding : GeminiEncoding Value) (info : RelayInfo) (isStream : Bool) (request : GeminiChatRequest Value) :
    Except GeminiError (CountedRequest Value) := do
  let config := request.generationConfig
  let stop ← geminiStop config.stopSequences
  .ok {
    model := info.upstreamModelName,
    temperature := config.temperature,
    maxTokens := config.maxOutputTokens.filter (0 < ·),
    topP := config.topP.filter encoding.positive,
    topK := (config.topK.filter encoding.positive).map encoding.truncate,
    stream := some isStream,
    verbosity := "",
    reasoning := "",
    stop := stop,
    tools := geminiTools encoding request,
    n := config.candidateCount.filter (0 < ·),
    messages := geminiSystem request ++ request.contents.foldl (convertContent encoding.toEncoding) [] }

/- What the loop over the parts has gathered at its end, counting calls from the number given. -/

def callsFrom : (number : Nat) → List (GeminiPart Value) → List (ToolCallRequest Value)
  | _, [] => []
  | number, part :: rest =>
      match part.kind with
      | .call call => geminiCall encoding (number + 1) call :: callsFrom (number + 1) rest
      | _ => callsFrom number rest

def outputsFrom : (number : Nat) → List (GeminiPart Value) → List (Message Value)
  | _, [] => []
  | number, part :: rest =>
      match part.kind with
      | .call _ => outputsFrom (number + 1) rest
      | .response response => geminiOutput encoding number response :: outputsFrom number rest
      | _ => outputsFrom number rest

def GeminiPart.media (part : GeminiPart Value) : Option MediaContent :=
  match part.kind with
  | .text text => some { type := "text", text := text }
  | .image url => some { type := "image_url", imageUrl := some url }
  | _ => none

def GeminiChatContent.media (content : GeminiChatContent Value) : List MediaContent := content.parts.filterMap GeminiPart.media

theorem convert_parts (parts : List (GeminiPart Value)) (carried : Carried Value) :
    parts.foldl (convertPart encoding) carried = {
      messages := carried.messages ++ outputsFrom encoding carried.toolCalls.length parts,
      toolCalls := carried.toolCalls ++ callsFrom encoding carried.toolCalls.length parts,
      media := carried.media ++ parts.filterMap GeminiPart.media } := by
  induction parts generalizing carried with
  | nil => simp [outputsFrom, callsFrom]
  | cons part rest ih =>
      rw [List.foldl_cons, ih]
      cases kind : part.kind with
      | text text => simp [convertPart, outputsFrom, callsFrom, GeminiPart.media, kind]
      | image url => simp [convertPart, outputsFrom, callsFrom, GeminiPart.media, kind]
      | call call => simp [convertPart, outputsFrom, callsFrom, GeminiPart.media, kind]
      | response response => simp [convertPart, outputsFrom, callsFrom, GeminiPart.media, kind]
      | nothing => simp [convertPart, outputsFrom, callsFrom, GeminiPart.media, kind]

def convertedContent (content : GeminiChatContent Value) : List (Message Value) :=
  outputsFrom encoding 0 content.parts ++ appendMessage [] (geminiCarrier content.role (callsFrom encoding 0 content.parts) content.media)

theorem convert_contents (contents : List (GeminiChatContent Value)) (messages : List (Message Value)) :
    contents.foldl (convertContent encoding) messages = messages ++ contents.flatMap (convertedContent encoding) := by
  induction contents generalizing messages with
  | nil => simp
  | cons content rest ih =>
      rw [List.foldl_cons, ih, convertContent, convert_parts, append_message_eq]
      simp [convertedContent, GeminiChatContent.media]

/- What a history asks for, and what the messages hold. -/

def GeminiPart.callName (part : GeminiPart Value) : Option String :=
  match part.kind with
  | .call call => some call.functionName
  | _ => none

def GeminiPart.responseName (part : GeminiPart Value) : Option String :=
  match part.kind with
  | .response response => some response.name
  | _ => none

def GeminiPart.said (part : GeminiPart Value) : Option String :=
  match part.kind with
  | .text text => some text
  | _ => none

def GeminiChatContent.callNames (content : GeminiChatContent Value) : List String := content.parts.filterMap GeminiPart.callName

def GeminiChatContent.responseNames (content : GeminiChatContent Value) : List String := content.parts.filterMap GeminiPart.responseName

-- The responses of each content answer, in order, the calls of the model's content before it.
def Answering : (pending : List String) → List (GeminiChatContent Value) → Prop
  | pending, [] => pending = []
  | pending, content :: rest =>
      content.responseNames = pending ∧ (content.callNames ≠ [] → content.role = "model") ∧ Answering content.callNames rest

def Message.callIDs (message : Message Value) : List String :=
  match message.toolCalls with
  | .encoded calls => calls.map ToolCallRequest.id
  | _ => []

def Message.outputIDs (message : Message Value) : List String := if message.role = "tool" then [message.toolCallID] else []

def Message.texts (message : Message Value) : List String :=
  if message.role = "tool" then [] else (message.parseContent.filter fun media => media.imageUrl.isNone).map MediaContent.text

def Stop.list : Stop → List String
  | .unset => []
  | .one sequence => [sequence]
  | .many sequences => sequences

def GeminiKept (encoding : GeminiEncoding Value) (info : RelayInfo) (isStream : Bool) (request : GeminiChatRequest Value) : Prop :=
  ∃ answer sent, geminiToOpenAIRequest encoding info isStream request = .ok answer ∧ answer.messages = geminiSystem request ++ sent ∧
    answer.stop.list = request.generationConfig.stopSequences.values.take 4 ∧
    (Answering [] request.contents →
      (sent.flatMap Message.callIDs).Nodup ∧ sent.flatMap Message.outputIDs = sent.flatMap Message.callIDs ∧
        validateChatToolCallHistory answer.messages = .ok () ∧
        sent.flatMap Message.texts = request.contents.flatMap fun content => content.parts.filterMap GeminiPart.said)

theorem gemini_messages (encoding : GeminiEncoding Value) (info : RelayInfo) (isStream : Bool) (request : GeminiChatRequest Value) (stop : Stop)
    (stopped : geminiStop request.generationConfig.stopSequences = .ok stop) :
    ∃ answer, geminiToOpenAIRequest encoding info isStream request = .ok answer ∧ answer.stop = stop ∧
      answer.messages = geminiSystem request ++ request.contents.flatMap (convertedContent encoding.toEncoding) := by
  have sent := convert_contents encoding.toEncoding request.contents []
  rw [List.nil_append] at sent
  simp only [geminiToOpenAIRequest, stopped]
  exact ⟨_, rfl, rfl, congrArg (geminiSystem request ++ ·) sent⟩

theorem gemini_stopped (encoding : GeminiEncoding Value) (info : RelayInfo) (isStream : Bool) (request : GeminiChatRequest Value)
    (answer : CountedRequest Value) (success : geminiToOpenAIRequest encoding info isStream request = .ok answer) :
    geminiStop request.generationConfig.stopSequences = .ok answer.stop := by
  cases stopped : geminiStop request.generationConfig.stopSequences with
  | error error =>
      simp only [geminiToOpenAIRequest, stopped] at success
      cases success
  | ok stop =>
      obtain ⟨sent, again, same, _⟩ := gemini_messages encoding info isStream request stop stopped
      rw [success] at again
      rw [Except.ok.inj again, same]

-- Slicing to four is right for no stop sequences and for four or more.
theorem stop_kept (slice : Slice) : (∃ stop, geminiStop slice = .ok stop ∧ stop.list = slice.values.take 4) ↔
    slice.values = [] ∨ 4 ≤ slice.values.length := by
  unfold geminiStop Slice.firstFour
  by_cases empty : slice.values = []
  · rw [if_pos empty]
    exact ⟨fun _ => .inl empty, fun _ => ⟨.unset, rfl, by simp [Stop.list, empty]⟩⟩
  · rw [if_neg empty]
    constructor
    · intro kept
      obtain ⟨stop, stopped, same⟩ := kept
      right
      by_cases short : (slice.values ++ slice.spare).length < 4
      · rw [if_pos short] at stopped
        cases stopped
      · rw [if_neg short] at stopped
        have value : stop = .many ((slice.values ++ slice.spare).take 4) := (Except.ok.inj stopped).symm
        have lengths := congrArg List.length same
        rw [value, Stop.list, List.length_take, List.length_take] at lengths
        omega
    · intro wide
      have long : 4 ≤ slice.values.length := wide.resolve_left empty
      have whole : ¬ (slice.values ++ slice.spare).length < 4 := by
        rw [List.length_append]
        omega
      rw [if_neg whole]
      exact ⟨_, rfl, List.take_append_of_le_length long⟩

/- What a history that passes the check satisfies. -/

def Message.assistantIDs (message : Message Value) : List String :=
  if trimSpace message.role = "assistant" then message.callIDs.map trimSpace else []

theorem registered_call (index : Nat) (history after : CallHistory) (call : ToolCallRequest Value)
    (registered : registerCall index history call = .ok after) :
    trimSpace call.id ∉ history.seen ∧
      after = { pending := insert (trimSpace call.id) history.pending, seen := insert (trimSpace call.id) history.seen } := by
  simp only [registerCall] at registered
  split at registered
  · cases registered
  · split at registered
    · cases registered
    · split at registered
      · cases registered
      · split at registered
        · cases registered
        · rename_i fresh
          exact ⟨fresh, (Except.ok.inj registered).symm⟩

theorem registered_calls (calls : List (ToolCallRequest Value)) (index : Nat) (history after : CallHistory)
    (registered : calls.foldlM (registerCall index) history = .ok after) :
    (calls.map fun call => trimSpace call.id).Nodup ∧ (∀ call ∈ calls, trimSpace call.id ∉ history.seen) ∧
      after.pending = history.pending ∪ (calls.map fun call => trimSpace call.id).toFinset ∧
      after.seen = history.seen ∪ (calls.map fun call => trimSpace call.id).toFinset := by
  induction calls generalizing history with
  | nil =>
      obtain rfl : history = after := Except.ok.inj registered
      simp
  | cons call rest ih =>
      rw [List.foldlM_cons] at registered
      cases first : registerCall index history call with
      | error error =>
          rw [first] at registered
          cases registered
      | ok next =>
          rw [first] at registered
          obtain ⟨fresh, rfl⟩ := registered_call index history next call first
          obtain ⟨apart, later, pending, seen⟩ := ih _ registered
          refine ⟨List.nodup_cons.mpr ⟨?_, apart⟩, ?_, ?_, ?_⟩
          · intro member
            obtain ⟨other, inside, same⟩ := List.mem_map.mp member
            exact later other inside (by simp [same])
          · intro other member
            obtain rfl | inside := List.mem_cons.mp member
            · exact fresh
            · intro before
              exact later other inside (Finset.mem_insert_of_mem before)
          · rw [pending]
            simp [Finset.insert_union, Finset.union_insert]
          · rw [seen]
            simp [Finset.insert_union, Finset.union_insert]

theorem registered_message (index : Nat) (history after : CallHistory) (message : Message Value)
    (registered : registerAssistantToolCalls index history message = .ok after) :
    (message.callIDs.map trimSpace).Nodup ∧ (∀ id ∈ message.callIDs.map trimSpace, id ∉ history.seen) ∧
      after.pending = history.pending ∪ (message.callIDs.map trimSpace).toFinset ∧
      after.seen = history.seen ∪ (message.callIDs.map trimSpace).toFinset := by
  unfold registerAssistantToolCalls at registered
  unfold Message.callIDs
  cases raw : message.toolCalls with
  | unset =>
      simp only [raw] at registered
      obtain rfl : history = after := Except.ok.inj registered
      simp
  | malformed =>
      simp only [raw] at registered
      cases registered
  | encoded calls =>
      simp only [raw] at registered
      obtain ⟨apart, fresh, pending, seen⟩ := registered_calls calls index history after registered
      rw [List.map_map]
      refine ⟨apart, ?_, pending, seen⟩
      intro id member
      obtain ⟨call, called, rfl⟩ := List.mem_map.mp member
      exact fresh call called

-- Calls have different ids, and an output has the id of one of them.
theorem validated_ids (messages : List (Message Value)) (index : Nat) (history : CallHistory) (passed : validateFrom index history messages = .ok ()) :
    (messages.flatMap Message.assistantIDs).Nodup ∧ (∀ id ∈ messages.flatMap Message.assistantIDs, id ∉ history.seen) ∧
      ∀ message ∈ messages, (trimSpace message.role = "tool" ∨ trimSpace message.role = "function") →
        trimSpace message.toolCallID ≠ "" ∧
          trimSpace message.toolCallID ∈ history.pending ∪ (messages.flatMap Message.assistantIDs).toFinset := by
  induction messages generalizing index history with
  | nil => simp
  | cons message rest ih =>
      rw [validateFrom] at passed
      rw [List.flatMap_cons]
      by_cases output : trimSpace message.role = "tool" ∨ trimSpace message.role = "function"
      · have own : message.assistantIDs = [] := by
          rw [Message.assistantIDs, if_neg]
          intro assistant
          rw [assistant] at output
          revert output
          decide
        simp only [if_pos output, resolveToolCallOutput] at passed
        by_cases blank : trimSpace message.toolCallID = ""
        · rw [if_pos blank] at passed
          cases passed
        · rw [if_neg blank] at passed
          by_cases unmatched : trimSpace message.toolCallID ∉ history.pending
          · rw [if_pos unmatched] at passed
            cases passed
          · rw [if_neg unmatched] at passed
            obtain ⟨apart, fresh, later⟩ := ih (index + 1) _ passed
            rw [own, List.nil_append]
            refine ⟨apart, fresh, ?_⟩
            intro other member role
            obtain rfl | inside := List.mem_cons.mp member
            · exact ⟨blank, Finset.mem_union_left _ (not_not.mp unmatched)⟩
            · obtain ⟨solid, known⟩ := later other inside role
              refine ⟨solid, ?_⟩
              obtain pending | called := Finset.mem_union.mp known
              · exact Finset.mem_union_left _ (Finset.mem_of_mem_erase pending)
              · exact Finset.mem_union_right _ called
      · simp only [if_neg output] at passed
        by_cases pending : history.pending ≠ ∅
        · rw [if_pos pending] at passed
          cases passed
        · rw [if_neg pending] at passed
          by_cases other : trimSpace message.role ≠ "assistant"
          · rw [if_pos other] at passed
            have own : message.assistantIDs = [] := by rw [Message.assistantIDs, if_neg other]
            obtain ⟨apart, fresh, later⟩ := ih (index + 1) _ passed
            rw [own, List.nil_append]
            refine ⟨apart, fresh, ?_⟩
            intro found member role
            obtain rfl | inside := List.mem_cons.mp member
            · exact absurd role output
            · exact later found inside role
          · rw [if_neg other] at passed
            have own : message.assistantIDs = message.callIDs.map trimSpace := by
              rw [Message.assistantIDs, if_pos (not_not.mp other)]
            cases registered : registerAssistantToolCalls index history message with
            | error error =>
                rw [registered] at passed
                cases passed
            | ok after =>
                rw [registered] at passed
                obtain ⟨ownApart, ownFresh, afterPending, afterSeen⟩ := registered_message index history after message registered
                obtain ⟨apart, fresh, later⟩ := ih (index + 1) after passed
                rw [own]
                refine ⟨List.nodup_append.mpr ⟨ownApart, apart, ?_⟩, ?_, ?_⟩
                · intro id mine id' others same
                  subst same
                  apply fresh id others
                  rw [afterSeen]
                  exact Finset.mem_union_right _ (List.mem_toFinset.mpr mine)
                · intro id member
                  obtain mine | others := List.mem_append.mp member
                  · exact ownFresh id mine
                  · intro before
                    apply fresh id others
                    rw [afterSeen]
                    exact Finset.mem_union_left _ before
                · intro found member role
                  obtain rfl | inside := List.mem_cons.mp member
                  · exact absurd role output
                  · obtain ⟨solid, known⟩ := later found inside role
                    refine ⟨solid, ?_⟩
                    rw [afterPending] at known
                    simp only [List.toFinset_append, Finset.mem_union] at known ⊢
                    obtain (before | mine) | others := known
                    · exact .inl before
                    · exact .inr (.inl mine)
                    · exact .inr (.inr others)

/- The ids of calls. -/

theorem call_id_trimmed (number : Nat) : trimSpace (callID number) = callID number :=
  trim_space_tight _ (tight_append _ _ (by decide) (solid_last_nat number))

theorem call_id_injective (first second : Nat) (same : callID first = callID second) : first = second :=
  nat_text_injective first second (append_left_injective "call_" _ _ same)

theorem first_call (number : Nat) (parts : List (GeminiPart Value)) (calls : parts.filterMap GeminiPart.callName ≠ []) :
    ∃ call rest, callsFrom encoding number parts = call :: rest ∧ call.id = callID (number + 1) := by
  induction parts with
  | nil => exact absurd rfl calls
  | cons part rest ih =>
      cases kind : part.kind with
      | call call => exact ⟨_, _, by rw [callsFrom, kind], rfl⟩
      | text text => simpa [callsFrom, kind] using ih (by simpa [GeminiPart.callName, kind] using calls)
      | image url => simpa [callsFrom, kind] using ih (by simpa [GeminiPart.callName, kind] using calls)
      | response response => simpa [callsFrom, kind] using ih (by simpa [GeminiPart.callName, kind] using calls)
      | nothing => simpa [callsFrom, kind] using ih (by simpa [GeminiPart.callName, kind] using calls)

theorem call_numbers (number : Nat) (parts : List (GeminiPart Value)) :
    ∀ call ∈ callsFrom encoding number parts, ∃ place, call.id = callID (place + 1) := by
  induction parts generalizing number with
  | nil => simp [callsFrom]
  | cons part rest ih =>
      cases kind : part.kind with
      | call call =>
          rw [callsFrom, kind]
          intro found member
          obtain rfl | later := List.mem_cons.mp member
          · exact ⟨number, rfl⟩
          · exact ih (number + 1) found later
      | text text => simpa [callsFrom, kind] using ih number
      | image url => simpa [callsFrom, kind] using ih number
      | response response => simpa [callsFrom, kind] using ih number
      | nothing => simpa [callsFrom, kind] using ih number

theorem no_calls (number : Nat) (parts : List (GeminiPart Value)) (silent : parts.filterMap GeminiPart.callName = []) :
    callsFrom encoding number parts = [] ∧ ∀ output ∈ outputsFrom encoding number parts, output.role = "tool" ∧ output.toolCallID = callID number := by
  induction parts with
  | nil => simp [callsFrom, outputsFrom]
  | cons part rest ih =>
      cases kind : part.kind with
      | call call => simp [GeminiPart.callName, kind] at silent
      | response response =>
          obtain ⟨none, outputs⟩ := ih (by simpa [GeminiPart.callName, kind] using silent)
          refine ⟨by rw [callsFrom, kind]; exact none, ?_⟩
          rw [outputsFrom, kind]
          intro output member
          obtain rfl | later := List.mem_cons.mp member
          · exact ⟨rfl, rfl⟩
          · exact outputs output later
      | text text => simpa [callsFrom, outputsFrom, kind] using ih (by simpa [GeminiPart.callName, kind] using silent)
      | image url => simpa [callsFrom, outputsFrom, kind] using ih (by simpa [GeminiPart.callName, kind] using silent)
      | nothing => simpa [callsFrom, outputsFrom, kind] using ih (by simpa [GeminiPart.callName, kind] using silent)

theorem outputs_of_responses (number : Nat) (parts : List (GeminiPart Value)) :
    (outputsFrom encoding number parts = [] ↔ parts.filterMap GeminiPart.responseName = []) ∧
      ∀ output ∈ outputsFrom encoding number parts, output.toolCalls = .unset := by
  induction parts generalizing number with
  | nil => simp [outputsFrom]
  | cons part rest ih =>
      cases kind : part.kind with
      | response response =>
          rw [outputsFrom, kind]
          refine ⟨by simp [GeminiPart.responseName, kind], ?_⟩
          intro output member
          obtain rfl | later := List.mem_cons.mp member
          · rfl
          · exact (ih number).2 output later
      | call call => simpa [outputsFrom, GeminiPart.responseName, kind] using ih (number + 1)
      | text text => simpa [outputsFrom, GeminiPart.responseName, kind] using ih number
      | image url => simpa [outputsFrom, GeminiPart.responseName, kind] using ih number
      | nothing => simpa [outputsFrom, GeminiPart.responseName, kind] using ih number

/- A history with a call in it fails the check. -/

theorem answering_next (contents : List (GeminiChatContent Value)) (pending : List String) (answering : Answering pending contents)
    (content : GeminiChatContent Value) (member : content ∈ contents) (calls : content.callNames ≠ []) :
    content.role = "model" ∧ ∃ front next back, contents = front ++ content :: next :: back ∧ next.responseNames ≠ [] ∧
      (next.callNames ≠ [] → next.role = "model") := by
  induction contents generalizing pending with
  | nil => exact absurd member List.not_mem_nil
  | cons first rest ih =>
      obtain ⟨_, model, later⟩ := answering
      obtain rfl | inside := List.mem_cons.mp member
      · refine ⟨model calls, ?_⟩
        cases rest with
        | nil => exact absurd later calls
        | cons next back =>
            obtain ⟨answers, nextModel, _⟩ := later
            exact ⟨[], next, back, rfl, by rw [answers]; exact calls, nextModel⟩
      · obtain ⟨role, front, next, back, split, responses, nextModel⟩ := ih _ later inside
        exact ⟨role, first :: front, next, back, by rw [split, List.cons_append], responses, nextModel⟩

theorem carrier_sent (role : String) (calls : List (ToolCallRequest Value)) (media : List MediaContent) (filled : calls ≠ [] ∨ media ≠ []) :
    appendMessage [] (geminiCarrier role calls media) = [geminiCarrier role calls media] := by
  rw [appendMessage, if_pos]
  · rfl
  · by_cases none : calls = []
    · left
      obtain some | said := filled
      · exact absurd none some
      · unfold geminiCarrier geminiContent Message.parseContent
        cases media with
        | nil => exact absurd rfl said
        | cons first others =>
            cases others with
            | nil => by_cases text : first.type = "text" <;> simp [none, text]
            | cons second others => simp [none]
    · right
      simp [geminiCarrier, none]

theorem sent_is (carrier message : Message Value) (sent : message ∈ appendMessage [] carrier) : message = carrier := by
  obtain single | none := append_message_cases carrier
  · rw [single] at sent
    exact List.mem_singleton.mp sent
  · rw [none] at sent
    exact absurd sent List.not_mem_nil

theorem called_ids (content : GeminiChatContent Value) (calls : content.callNames ≠ []) (model : content.role = "model") :
    callID 1 ∈ (convertedContent encoding content).flatMap Message.assistantIDs := by
  obtain ⟨call, rest, first, id⟩ := first_call encoding 0 content.parts calls
  have assistant : trimSpace (convertGeminiRoleToOpenAI "model") = "assistant" := by decide
  have carried : (geminiCarrier content.role (callsFrom encoding 0 content.parts) content.media) ∈ convertedContent encoding content := by
    rw [convertedContent, carrier_sent _ _ _ (.inl (by simp [first]))]
    simp
  apply List.mem_flatMap.mpr
  refine ⟨_, carried, ?_⟩
  rw [Message.assistantIDs, if_pos (by rw [geminiCarrier, model]; exact assistant)]
  simp [geminiCarrier, Message.callIDs, first, id, call_id_trimmed]

theorem assistant_ids (content : GeminiChatContent Value) :
    ∀ id ∈ (convertedContent encoding content).flatMap Message.assistantIDs, ∃ place, id = callID (place + 1) := by
  have each (message : Message Value) (ids : ∀ id ∈ message.callIDs, ∃ place, id = callID (place + 1)) :
      ∀ id ∈ message.assistantIDs, ∃ place, id = callID (place + 1) := by
    intro id member
    rw [Message.assistantIDs] at member
    split at member
    · obtain ⟨raw, inside, rfl⟩ := List.mem_map.mp member
      obtain ⟨place, rfl⟩ := ids raw inside
      exact ⟨place, call_id_trimmed (place + 1)⟩
    · exact absurd member List.not_mem_nil
  intro id member
  obtain ⟨message, sent, inside⟩ := List.mem_flatMap.mp member
  rw [convertedContent] at sent
  obtain output | carried := List.mem_append.mp sent
  · have silent := (outputs_of_responses encoding 0 content.parts).2 message output
    exact each message (by simp [Message.callIDs, silent]) id inside
  · have whole := sent_is _ message carried
    apply each message _ id inside
    intro raw called
    rw [whole, Message.callIDs, geminiCarrier] at called
    by_cases none : callsFrom encoding 0 content.parts = []
    · simp [none] at called
    · simp only [if_neg none] at called
      obtain ⟨call, found, rfl⟩ := List.mem_map.mp called
      exact call_numbers encoding 0 content.parts call found

theorem system_silent (request : GeminiChatRequest Value) : (geminiSystem request).flatMap Message.assistantIDs = [] ∧
    ∀ message ∈ geminiSystem request, message.role = "system" := by
  unfold geminiSystem
  cases request.systemInstructions with
  | none => simp
  | some instructions =>
      have system : trimSpace "system" ≠ "assistant" := by decide
      simp [Message.assistantIDs, system]

-- An output takes the number zero or stands in a content that calls again, and both are refused.
theorem validated_without_calls (request : GeminiChatRequest Value) (answering : Answering [] request.contents)
    (validated : validateChatToolCallHistory (geminiSystem request ++ request.contents.flatMap (convertedContent encoding)) = .ok ()) :
    ∀ content ∈ request.contents, content.callNames = [] := by
  obtain ⟨distinct, _, outputs⟩ := validated_ids _ 0 {} validated
  rw [List.flatMap_append, (system_silent request).1, List.nil_append] at distinct outputs
  by_contra some
  push Not at some
  obtain ⟨content, member, calls⟩ := some
  obtain ⟨model, front, next, back, split, responses, nextModel⟩ := answering_next request.contents [] answering content member calls
  by_cases again : next.callNames = []
  · obtain ⟨output, sent⟩ := List.exists_mem_of_ne_nil _ (fun none => responses ((outputs_of_responses encoding 0 next.parts).1.mp none))
    obtain ⟨role, id⟩ := (no_calls encoding 0 next.parts again).2 output sent
    have inside : output ∈ request.contents.flatMap (convertedContent encoding) := by
      apply List.mem_flatMap.mpr
      exact ⟨next, by simp [split], List.mem_append_left _ sent⟩
    have tool : trimSpace "tool" = "tool" := by decide
    obtain ⟨_, known⟩ := outputs output (List.mem_append_right _ inside) (.inl (by rw [role, tool]))
    simp only [Finset.empty_union, List.mem_toFinset, List.mem_flatMap] at known
    obtain ⟨message, ⟨source, _, sentThere⟩, called⟩ := known
    obtain ⟨place, same⟩ := assistant_ids encoding source _ (List.mem_flatMap.mpr ⟨message, sentThere, called⟩)
    rw [id, call_id_trimmed] at same
    have number := call_id_injective 0 (place + 1) same
    omega
  · have first := called_ids encoding content calls model
    have second := called_ids encoding next again (nextModel again)
    rw [split] at distinct
    simp only [List.flatMap_append, List.flatMap_cons, List.nodup_append] at distinct
    exact distinct.2.1.2.2 _ first _ (List.mem_append_left _ second) rfl

theorem validated_functions (request : GeminiChatRequest Value)
    (validated : validateChatToolCallHistory (geminiSystem request ++ request.contents.flatMap (convertedContent encoding)) = .ok ())
    (content : GeminiChatContent Value) (member : content ∈ request.contents) (role : content.role = "function") : content.media = [] := by
  by_contra said
  obtain ⟨_, _, outputs⟩ := validated_ids _ 0 {} validated
  have sent : geminiCarrier content.role (callsFrom encoding 0 content.parts) content.media ∈ request.contents.flatMap (convertedContent encoding) := by
    apply List.mem_flatMap.mpr
    refine ⟨content, member, ?_⟩
    rw [convertedContent, carrier_sent _ _ _ (.inr said)]
    simp
  have function : trimSpace (convertGeminiRoleToOpenAI "function") = "function" := by decide
  obtain ⟨solid, _⟩ := outputs _ (List.mem_append_right _ sent) (.inr (by rw [geminiCarrier, role]; exact function))
  have blank : trimSpace "" = "" := by decide
  exact solid blank

/- A history without calls passes it. -/

theorem answering_silent (contents : List (GeminiChatContent Value)) (answering : Answering [] contents)
    (silent : ∀ content ∈ contents, content.callNames = []) : ∀ content ∈ contents, content.responseNames = [] := by
  induction contents with
  | nil => simp
  | cons first rest ih =>
      obtain ⟨answers, _, later⟩ := answering
      rw [silent first List.mem_cons_self] at later
      intro content member
      obtain rfl | inside := List.mem_cons.mp member
      · exact answers
      · exact ih later (fun other here => silent other (List.mem_cons_of_mem first here)) content inside

theorem converted_silent (content : GeminiChatContent Value) (silent : content.callNames = []) (unanswered : content.responseNames = []) :
    convertedContent encoding content = appendMessage [] (geminiCarrier content.role [] content.media) := by
  rw [convertedContent, (outputs_of_responses encoding 0 content.parts).1.mpr unanswered, (no_calls encoding 0 content.parts silent).1, List.nil_append]

theorem validate_all_silent (messages : List (Message Value)) (index : Nat)
    (silent : ∀ message ∈ messages, message.toolCalls = .unset ∧ (message.role = "system" ∨ message.role = "user" ∨ message.role = "assistant")) :
    validateFrom index {} messages = .ok () := by
  induction messages generalizing index with
  | nil => rfl
  | cons message rest ih =>
      obtain ⟨unset, role⟩ := silent message List.mem_cons_self
      have later := ih (index + 1) fun other member => silent other (List.mem_cons_of_mem message member)
      obtain system | known := role
      · exact (validate_plain index ∅ message rest (.inl system)).trans later
      · exact (validate_silent index ∅ message rest known unset).trans later

theorem media_shape (content : GeminiChatContent Value) : ∀ media ∈ content.media,
    (media.type = "text" ∧ media.imageUrl = none) ∨ (media.type ≠ "text" ∧ media.imageUrl.isSome = true) := by
  intro media member
  obtain ⟨part, _, shaped⟩ := List.mem_filterMap.mp member
  unfold GeminiPart.media at shaped
  cases kind : part.kind with
  | text text =>
      rw [kind] at shaped
      rw [← Option.some.inj shaped]
      exact .inl ⟨rfl, rfl⟩
  | image url =>
      rw [kind] at shaped
      rw [← Option.some.inj shaped]
      have kind : "image_url" ≠ "text" := by decide
      exact .inr ⟨kind, rfl⟩
  | call call =>
      rw [kind] at shaped
      cases shaped
  | response response =>
      rw [kind] at shaped
      cases shaped
  | nothing =>
      rw [kind] at shaped
      cases shaped

theorem gemini_role (role : String) : convertGeminiRoleToOpenAI role ≠ "tool" ∧
    (role ≠ "function" → convertGeminiRoleToOpenAI role = "user" ∨ convertGeminiRoleToOpenAI role = "assistant") := by
  unfold convertGeminiRoleToOpenAI
  by_cases user : role = "user"
  · simp [user]
  · by_cases model : role = "model"
    · simp [model]
    · by_cases function : role = "function"
      · simp [function]
      · simp [user, model, function]

theorem said_media (content : GeminiChatContent Value) :
    (content.media.filter fun media => media.imageUrl.isNone).map MediaContent.text = content.parts.filterMap GeminiPart.said := by
  unfold GeminiChatContent.media
  induction content.parts with
  | nil => rfl
  | cons part rest ih => cases kind : part.kind <;> simp [GeminiPart.media, GeminiPart.said, kind, ih]

theorem carrier_texts (content : GeminiChatContent Value) :
    (appendMessage [] (geminiCarrier content.role ([] : List (ToolCallRequest Value)) content.media)).flatMap Message.texts =
      content.parts.filterMap GeminiPart.said := by
  have role := (gemini_role content.role).1
  have texts : (geminiCarrier content.role ([] : List (ToolCallRequest Value)) content.media).texts = content.parts.filterMap GeminiPart.said := by
    rw [← said_media]
    have shapes := media_shape content
    cases said : content.media with
    | nil => simp [Message.texts, geminiCarrier, geminiContent, Message.parseContent]
    | cons first others =>
        rw [said] at shapes
        cases others with
        | cons second others => simp [Message.texts, geminiCarrier, geminiContent, Message.parseContent, role]
        | nil =>
            obtain ⟨text, url⟩ | ⟨image, url⟩ := shapes first List.mem_cons_self
            · simp [Message.texts, geminiCarrier, geminiContent, Message.parseContent, role, text, url]
            · simp [Message.texts, geminiCarrier, geminiContent, Message.parseContent, role, image]
  by_cases said : content.media = []
  · rw [← said_media, said]
    simp [appendMessage, geminiCarrier, geminiContent, Message.parseContent]
  · rw [carrier_sent _ _ _ (.inr said), List.flatMap_singleton, texts]

theorem gemini_silent_kept (encoding : GeminiEncoding Value) (request : GeminiChatRequest Value) (answering : Answering [] request.contents)
    (silent : ∀ content ∈ request.contents, content.callNames = [] ∧ (content.role = "function" → content.media = [])) :
    (request.contents.flatMap (convertedContent encoding.toEncoding)).flatMap Message.callIDs = [] ∧
      (request.contents.flatMap (convertedContent encoding.toEncoding)).flatMap Message.outputIDs = [] ∧
      validateChatToolCallHistory (geminiSystem request ++ request.contents.flatMap (convertedContent encoding.toEncoding)) = .ok () ∧
      (request.contents.flatMap (convertedContent encoding.toEncoding)).flatMap Message.texts =
        request.contents.flatMap fun content => content.parts.filterMap GeminiPart.said := by
  have unanswered := answering_silent request.contents answering fun content member => (silent content member).1
  have converted (content : GeminiChatContent Value) (member : content ∈ request.contents) :
      convertedContent encoding.toEncoding content = appendMessage [] (geminiCarrier content.role [] content.media) :=
    converted_silent encoding.toEncoding content (silent content member).1 (unanswered content member)
  have carriers : ∀ message ∈ request.contents.flatMap (convertedContent encoding.toEncoding),
      message.toolCalls = .unset ∧ (message.role = "user" ∨ message.role = "assistant") := by
    intro message sent
    obtain ⟨content, member, here⟩ := List.mem_flatMap.mp sent
    rw [converted content member] at here
    by_cases function : content.role = "function"
    · have empty := (silent content member).2 function
      simp [empty, appendMessage, geminiCarrier, geminiContent, Message.parseContent] at here
    · rw [sent_is _ message here]
      exact ⟨rfl, (gemini_role content.role).2 function⟩
  refine ⟨?_, ?_, ?_, ?_⟩
  · rw [List.flatMap_eq_nil_iff]
    intro message sent
    simp [Message.callIDs, (carriers message sent).1]
  · rw [List.flatMap_eq_nil_iff]
    intro message sent
    obtain user | assistant := (carriers message sent).2
    · simp [Message.outputIDs, user]
    · simp [Message.outputIDs, assistant]
  · apply validate_all_silent
    intro message sent
    obtain system | here := List.mem_append.mp sent
    · have role := (system_silent request).2 message system
      refine ⟨?_, .inl role⟩
      unfold geminiSystem at system
      cases instructions : request.systemInstructions with
      | none => simp [instructions] at system
      | some content =>
          rw [instructions] at system
          rw [List.mem_singleton.mp system]
    · exact ⟨(carriers message here).1, .inr (carriers message here).2⟩
  · rw [List.flatMap_assoc]
    apply List.flatMap_congr
    intro content member
    rw [converted content member]
    exact carrier_texts content

-- The conversion does what is asked of it on histories without calls, with no stop sequence or with four.
theorem gemini_kept_iff (encoding : GeminiEncoding Value) (info : RelayInfo) (isStream : Bool) (request : GeminiChatRequest Value) :
    GeminiKept encoding info isStream request ↔
      (request.generationConfig.stopSequences.values = [] ∨ 4 ≤ request.generationConfig.stopSequences.values.length) ∧
        (Answering [] request.contents →
          ∀ content ∈ request.contents, content.callNames = [] ∧ (content.role = "function" → content.media = [])) := by
  constructor
  · intro kept
    obtain ⟨answer, sent, success, split, stop, pairing⟩ := kept
    have stopped := gemini_stopped encoding info isStream request answer success
    refine ⟨(stop_kept request.generationConfig.stopSequences).mp ⟨answer.stop, stopped, stop⟩, ?_⟩
    intro answering content member
    obtain ⟨again, same, _, messages⟩ := gemini_messages encoding info isStream request answer.stop stopped
    obtain ⟨_, _, validated, _⟩ := pairing answering
    have identical : answer = again := Except.ok.inj (success.symm.trans same)
    rw [identical, messages] at validated
    exact ⟨validated_without_calls encoding.toEncoding request answering validated content member,
      validated_functions encoding.toEncoding request validated content member⟩
  · intro conditions
    obtain ⟨stop, stopped, same⟩ := (stop_kept request.generationConfig.stopSequences).mpr conditions.1
    obtain ⟨answer, success, stopSent, messages⟩ := gemini_messages encoding info isStream request stop stopped
    refine ⟨answer, _, success, messages, by rw [stopSent]; exact same, ?_⟩
    intro answering
    obtain ⟨calls, outputs, validated, texts⟩ := gemini_silent_kept encoding request answering (conditions.2 answering)
    exact ⟨by rw [calls]; exact List.nodup_nil, by rw [outputs, calls], by rw [messages]; exact validated, texts⟩

end

section

def sampleGemini : GeminiEncoding Nat :=
  { sampleEncoding [] with getTools := fun _ => [], toFunctions := fun _ => .ok [], positive := fun _ => true, truncate := fun _ => 0 }

def geminiTurns : List (GeminiChatContent Nat) :=
  [⟨"user", [{ text := "Is it warm?" }]⟩, ⟨"model", [{ text := "I will look." }, { functionCall := some { functionName := "weather" } }]⟩,
    ⟨"user", [{ functionResponse := some { name := "weather" } }]⟩]

-- One stop sequence is out of bounds, and the answer to the first call of a model does not carry its id.
theorem gemini_request_fails :
    (geminiToOpenAIRequest sampleGemini {} false { generationConfig := { stopSequences := { values := ["END"] } } }).toOption.isNone = true ∧
      Answering [] geminiTurns ∧
      (geminiToOpenAIRequest sampleGemini {} false { contents := geminiTurns }).toOption.map
          (fun answer => (answer.messages.flatMap Message.texts, answer.messages.flatMap Message.outputIDs, answer.messages.flatMap Message.callIDs,
            validateChatToolCallHistory answer.messages)) =
        some (["Is it warm?"], ["call_0"], ["call_1"], .error (.unmatchedOutput 2 "call_0")) := by
  refine ⟨by decide +kernel, ?_, by decide +kernel⟩
  simp [Answering, geminiTurns, GeminiChatContent.responseNames, GeminiChatContent.callNames, GeminiPart.responseName, GeminiPart.callName, GeminiPart.kind]

end

end CodeGo.Translation.Requests
