import CodeGo.Translation.ClaudeRequest
import Mathlib.Data.Finset.Sort
import Mathlib.Data.List.Nodup
import Mathlib.Data.List.Perm.Basic

set_option autoImplicit false

open Text

namespace CodeGo.Translation.Requests

/- The check that every tool call of a chat history is answered before the next message. -/

inductive HistoryError where
  | invalidToolCalls (index : Nat)
  | missingCallID (index : Nat)
  | unsupportedType (index : Nat) (type : String)
  | missingName (index : Nat)
  | duplicateCall (callID : String)
  | missingToolCallID (index : Nat)
  | unmatchedOutput (index : Nat) (callID : String)
  | missingOutputs (index : Nat) (callIDs : List String)
deriving DecidableEq, Repr

structure CallHistory where
  pending : Finset String := ∅
  seen : Finset String := ∅

section
variable {Value : Type}

def registerCall (index : Nat) (history : CallHistory) (call : ToolCallRequest Value) : Except HistoryError CallHistory :=
  let callID := trimSpace call.id
  if callID = "" then .error (.missingCallID index)
  else if call.type ≠ "" ∧ call.type ≠ "function" then .error (.unsupportedType index call.type)
  else if trimSpace call.function.name = "" then .error (.missingName index)
  else if callID ∈ history.seen then .error (.duplicateCall callID)
  else .ok { pending := insert callID history.pending, seen := insert callID history.seen }

def registerAssistantToolCalls (index : Nat) (history : CallHistory) (message : Message Value) : Except HistoryError CallHistory :=
  match message.toolCalls with
  | .unset => .ok history
  | .malformed => .error (.invalidToolCalls index)
  | .encoded calls => calls.foldlM (registerCall index) history

def resolveToolCallOutput (pending : Finset String) (toolCallID : String) (index : Nat) : Except HistoryError (Finset String) :=
  let callID := trimSpace toolCallID
  if callID = "" then .error (.missingToolCallID index)
  else if callID ∉ pending then .error (.unmatchedOutput index callID)
  else .ok (pending.erase callID)

-- The outcome at the end of a history, where nothing may be pending.
def validateFrom : (index : Nat) → CallHistory → List (Message Value) → Except HistoryError Unit
  | index, history, [] => if history.pending ≠ ∅ then .error (.missingOutputs index history.pending.sort) else .ok ()
  | index, history, message :: rest => do
      let role := trimSpace message.role
      if role = "tool" ∨ role = "function" then
        let pending ← resolveToolCallOutput history.pending message.toolCallID index
        validateFrom (index + 1) { history with pending := pending } rest
      else if history.pending ≠ ∅ then .error (.missingOutputs index history.pending.sort)
      else if role ≠ "assistant" then validateFrom (index + 1) history rest
      else
        let history ← registerAssistantToolCalls index history message
        validateFrom (index + 1) history rest

def validateChatToolCallHistory (messages : List (Message Value)) : Except HistoryError Unit := validateFrom 0 {} messages

/- One kind of message after the other. -/

theorem validate_plain (index : Nat) (seen : Finset String) (message : Message Value) (rest : List (Message Value))
    (role : message.role = "system" ∨ message.role = "user") :
    validateFrom index { seen := seen } (message :: rest) = validateFrom (index + 1) { seen := seen } rest := by
  have trimmed : trimSpace message.role ≠ "tool" ∧ trimSpace message.role ≠ "function" ∧ trimSpace message.role ≠ "assistant" := by
    obtain system | user := role
    · rw [system]
      decide
    · rw [user]
      decide
  simp [validateFrom, trimmed]

theorem validate_assistant (index : Nat) (seen : Finset String) (message : Message Value) (rest : List (Message Value))
    (role : message.role = "assistant") (history : CallHistory)
    (registered : registerAssistantToolCalls index { seen := seen } message = .ok history) :
    validateFrom index { seen := seen } (message :: rest) = validateFrom (index + 1) history rest := by
  have trimmed : trimSpace "assistant" = "assistant" := by decide
  simp [validateFrom, role, trimmed, registered, bind, Except.bind]

-- Outputs resolve the calls they answer in any order.
theorem validate_outputs (outputs : List (Message Value)) (index : Nat) (seen : Finset String) (rest : List (Message Value))
    (role : ∀ output ∈ outputs, output.role = "tool") (solid : ∀ output ∈ outputs, trimSpace output.toolCallID ≠ "")
    (distinct : (outputs.map fun output => trimSpace output.toolCallID).Nodup) :
    validateFrom index { pending := (outputs.map fun output => trimSpace output.toolCallID).toFinset, seen := seen } (outputs ++ rest) =
      validateFrom (index + outputs.length) { seen := seen } rest := by
  induction outputs generalizing index with
  | nil => rfl
  | cons output later ih =>
      have trimmed : trimSpace "tool" = "tool" := by decide
      obtain ⟨fresh, apart⟩ := List.nodup_cons.mp distinct
      have resolved := ih (index + 1) (fun other member => role other (List.mem_cons_of_mem output member))
        (fun other member => solid other (List.mem_cons_of_mem output member)) apart
      have left : (((output :: later).map fun output => trimSpace output.toolCallID).toFinset).erase (trimSpace output.toolCallID) =
          (later.map fun output => trimSpace output.toolCallID).toFinset := by
        rw [List.map_cons, List.toFinset_cons, Finset.erase_insert]
        simpa using fresh
      have found : trimSpace output.toolCallID ∈ ((output :: later).map fun output => trimSpace output.toolCallID).toFinset := by simp
      rw [List.cons_append, validateFrom, role output List.mem_cons_self, trimmed, if_pos (.inl rfl), resolveToolCallOutput,
        if_neg (solid output List.mem_cons_self), if_neg (not_not_intro found), left, List.length_cons]
      change validateFrom (index + 1) _ (later ++ rest) = _
      rw [resolved, Nat.add_assoc, Nat.add_comm 1]

theorem register_calls (calls : List (ToolCallRequest Value)) (index : Nat) (history : CallHistory)
    (function : ∀ call ∈ calls, call.type = "function") (solid : ∀ call ∈ calls, trimSpace call.id ≠ "" ∧ trimSpace call.function.name ≠ "")
    (distinct : (calls.map fun call => trimSpace call.id).Nodup) (fresh : ∀ call ∈ calls, trimSpace call.id ∉ history.seen) :
    calls.foldlM (registerCall index) history =
      .ok {
        pending := history.pending ∪ (calls.map fun call => trimSpace call.id).toFinset,
        seen := history.seen ∪ (calls.map fun call => trimSpace call.id).toFinset } := by
  induction calls generalizing history with
  | nil => simp [pure, Except.pure]
  | cons call rest ih =>
      obtain ⟨first, apart⟩ := List.nodup_cons.mp distinct
      obtain ⟨withID, named⟩ := solid call List.mem_cons_self
      have registered : registerCall index history call =
          .ok { pending := insert (trimSpace call.id) history.pending, seen := insert (trimSpace call.id) history.seen } := by
        simp [registerCall, withID, named, function call List.mem_cons_self, fresh call List.mem_cons_self]
      have later : ∀ other ∈ rest, trimSpace other.id ∉ insert (trimSpace call.id) history.seen := by
        intro other member inside
        obtain same | before := Finset.mem_insert.mp inside
        · exact first (List.mem_map.mpr ⟨other, member, same⟩)
        · exact fresh other (List.mem_cons_of_mem call member) before
      rw [List.foldlM_cons, registered]
      change List.foldlM (registerCall index) _ rest = _
      rw [ih _ (fun other member => function other (List.mem_cons_of_mem call member))
        (fun other member => solid other (List.mem_cons_of_mem call member)) apart later]
      simp [Finset.insert_union, Finset.union_insert]

theorem validate_silent (index : Nat) (seen : Finset String) (message : Message Value) (rest : List (Message Value))
    (role : message.role = "user" ∨ message.role = "assistant") (silent : message.toolCalls = .unset) :
    validateFrom index { seen := seen } (message :: rest) = validateFrom (index + 1) { seen := seen } rest := by
  obtain user | assistant := role
  · exact validate_plain index seen message rest (.inr user)
  · apply validate_assistant index seen message rest assistant
    rw [registerAssistantToolCalls, silent]

theorem validate_carrier (index : Nat) (seen : Finset String) (role : String) (calls : List (ToolCallRequest Value)) (media : List MediaContent)
    (rest : List (Message Value)) (known : role = "user" ∨ role = "assistant") (caller : calls ≠ [] → role = "assistant")
    (function : ∀ call ∈ calls, call.type = "function") (solid : ∀ call ∈ calls, trimSpace call.id ≠ "" ∧ trimSpace call.function.name ≠ "")
    (distinct : (calls.map fun call => trimSpace call.id).Nodup) (fresh : ∀ call ∈ calls, trimSpace call.id ∉ seen) :
    ∃ next, validateFrom index { seen := seen } (appendMessage [] (carrier role calls media) ++ rest) =
      validateFrom next {
        pending := (calls.map fun call => trimSpace call.id).toFinset,
        seen := seen ∪ (calls.map fun call => trimSpace call.id).toFinset } rest := by
  by_cases none : calls = []
  · subst none
    by_cases empty : media = []
    · exact ⟨index, by simp [empty, appendMessage, carrier, Message.parseContent]⟩
    · have sent : appendMessage [] (carrier role ([] : List (ToolCallRequest Value)) media) = [carrier role [] media] := by
        simp [appendMessage, carrier, Message.parseContent, empty]
      have passed := validate_silent index seen (carrier role [] media) rest known rfl
      exact ⟨index + 1, by simpa [sent] using passed⟩
  · have encoded : (carrier role calls media).toolCalls = .encoded calls := by simp [carrier, none]
    have sent : appendMessage [] (carrier role calls media) = [carrier role calls media] := by
      simp [appendMessage, encoded]
    have registered := register_calls calls index { seen := seen } function solid distinct fresh
    have passed := validate_assistant index seen (carrier role calls media) rest (caller none) _ (by
      rw [registerAssistantToolCalls, encoded]
      exact registered)
    exact ⟨index + 1, by simpa [sent] using passed⟩

/- The tool calls of a Claude conversation and their answers. -/

variable (encoding : Encoding Value)

def ClaudeMessage.useIDs (message : ClaudeMessage Value) : List String :=
  (message.blocks encoding).filterMap fun block => if block.type = "tool_use" then some (trimSpace block.id) else none

def ClaudeMessage.resultIDs (message : ClaudeMessage Value) : List String :=
  (message.blocks encoding).filterMap fun block => if block.type = "tool_result" then some (trimSpace block.toolUseID) else none

-- Each message answers, in any order, the calls of the message before it.
def Answered : (pending : List String) → List (ClaudeMessage Value) → Prop
  | pending, [] => pending = []
  | pending, message :: rest => (message.resultIDs encoding).Perm pending ∧ Answered (message.useIDs encoding) rest

def ClaudeMessage.Sound (message : ClaudeMessage Value) : Prop :=
  (message.role = "user" ∨ message.role = "assistant") ∧ (message.useIDs encoding ≠ [] → message.role = "assistant") ∧
    ∀ block ∈ message.blocks encoding, block.type = "tool_use" → ¬ Blank block.id ∧ ¬ Blank block.name

structure ClaudeRequest.Paired (request : ClaudeRequest Value) : Prop where
  sound : ∀ message ∈ request.messages, message.Sound encoding
  distinct : (request.messages.flatMap (ClaudeMessage.useIDs encoding)).Nodup
  answered : Answered encoding [] request.messages

theorem call_ids (message : ClaudeMessage Value) :
    (((message.blocks encoding).filterMap (callOf encoding)).map fun call => trimSpace call.id) = message.useIDs encoding := by
  rw [List.map_filterMap, ClaudeMessage.useIDs]
  apply List.filterMap_congr
  intro block _
  unfold callOf
  split <;> rfl

theorem output_ids (request : ClaudeRequest Value) (message : ClaudeMessage Value) :
    (((message.blocks encoding).filterMap (outputOf encoding request)).map fun output => trimSpace output.toolCallID) =
      message.resultIDs encoding := by
  rw [List.map_filterMap, ClaudeMessage.resultIDs]
  apply List.filterMap_congr
  intro block _
  unfold outputOf
  split <;> rfl

theorem call_of_use (message : ClaudeMessage Value) (call : ToolCallRequest Value)
    (called : call ∈ (message.blocks encoding).filterMap (callOf encoding)) :
    ∃ block ∈ message.blocks encoding, block.type = "tool_use" ∧ call = toolCall encoding block := by
  obtain ⟨block, member, found⟩ := List.mem_filterMap.mp called
  unfold callOf at found
  by_cases use : block.type = "tool_use"
  · rw [if_pos use] at found
    exact ⟨block, member, use, (Option.some.inj found).symm⟩
  · rw [if_neg use] at found
    cases found

theorem output_role (request : ClaudeRequest Value) (message : ClaudeMessage Value) (output : Message Value)
    (sent : output ∈ (message.blocks encoding).filterMap (outputOf encoding request)) : output.role = "tool" := by
  obtain ⟨block, _, found⟩ := List.mem_filterMap.mp sent
  unfold outputOf at found
  by_cases result : block.type = "tool_result"
  · rw [if_pos result] at found
    rw [← Option.some.inj found]
    rfl
  · rw [if_neg result] at found
    cases found

-- The messages of one Claude message: its results first, then at most one more.
theorem converted_cases (request : ClaudeRequest Value) (message : ClaudeMessage Value) :
    ((∃ text, converted encoding request message = [{ role := message.role, content := .string text }]) ∧ message.blocks encoding = []) ∨
      converted encoding request message = (message.blocks encoding).filterMap (outputOf encoding request) ++
        appendMessage [] (carrier message.role ((message.blocks encoding).filterMap (callOf encoding))
          ((message.blocks encoding).filterMap (mediaOf encoding))) := by
  unfold converted ClaudeMessage.blocks
  cases message.content with
  | string text => exact .inl ⟨⟨text, rfl⟩, rfl⟩
  | null => exact .inr rfl
  | other value => exact .inr rfl

-- One message answers what is pending and leaves its own calls pending.
theorem validate_message (request : ClaudeRequest Value) (message : ClaudeMessage Value) (index : Nat) (seen : Finset String)
    (pending : List String) (rest : List (Message Value)) (sound : message.Sound encoding) (answers : (message.resultIDs encoding).Perm pending)
    (solid : ∀ id ∈ pending, id ≠ "") (distinct : pending.Nodup) (apart : (message.useIDs encoding).Nodup)
    (fresh : ∀ id ∈ message.useIDs encoding, id ∉ seen) :
    ∃ next, validateFrom index { pending := pending.toFinset, seen := seen } (converted encoding request message ++ rest) =
      validateFrom next { pending := (message.useIDs encoding).toFinset, seen := seen ∪ (message.useIDs encoding).toFinset } rest := by
  obtain ⟨known, caller, named⟩ := sound
  obtain ⟨⟨text, single⟩, none⟩ | listed := converted_cases encoding request message
  · have noUse : message.useIDs encoding = [] := by simp [ClaudeMessage.useIDs, none]
    have noResult : message.resultIDs encoding = [] := by simp [ClaudeMessage.resultIDs, none]
    have noPending : pending = [] := by
      rw [noResult] at answers
      exact answers.nil_eq.symm
    have passed := validate_silent index seen { role := message.role, content := .string text } rest known rfl
    exact ⟨index + 1, by simpa [single, noUse, noPending] using passed⟩
  · have outputs := output_ids encoding request message
    have calls := call_ids encoding message
    have toolOutputs := validate_outputs ((message.blocks encoding).filterMap (outputOf encoding request)) index seen
      (appendMessage [] (carrier message.role ((message.blocks encoding).filterMap (callOf encoding))
        ((message.blocks encoding).filterMap (mediaOf encoding))) ++ rest)
      (output_role encoding request message) (by
        intro output sent
        apply solid
        apply answers.subset
        rw [← outputs]
        exact List.mem_map.mpr ⟨output, sent, rfl⟩) (by
        rw [outputs]
        exact answers.nodup_iff.mpr distinct)
    obtain ⟨next, carried⟩ := validate_carrier (index + ((message.blocks encoding).filterMap (outputOf encoding request)).length) seen message.role
      ((message.blocks encoding).filterMap (callOf encoding)) ((message.blocks encoding).filterMap (mediaOf encoding)) rest known (by
        intro some
        apply caller
        intro nil
        rw [← calls] at nil
        exact some (List.map_eq_nil_iff.mp nil)) (by
        intro call called
        obtain ⟨block, _, _, rfl⟩ := call_of_use encoding message call called
        rfl) (by
        intro call called
        obtain ⟨block, member, use, rfl⟩ := call_of_use encoding message call called
        exact named block member use) (by
        rw [calls]
        exact apart) (by
        intro call called
        apply fresh
        rw [← calls]
        exact List.mem_map.mpr ⟨call, called, rfl⟩)
    rw [outputs, List.toFinset_eq_of_perm _ _ answers] at toolOutputs
    rw [calls] at carried
    exact ⟨next, by rw [listed, List.append_assoc, toolOutputs, carried]⟩

theorem use_solid (message : ClaudeMessage Value) (sound : message.Sound encoding) : ∀ id ∈ message.useIDs encoding, id ≠ "" := by
  intro id member
  rw [← call_ids encoding message] at member
  obtain ⟨call, called, rfl⟩ := List.mem_map.mp member
  obtain ⟨block, inside, use, rfl⟩ := call_of_use encoding message call called
  exact (sound.2.2 block inside use).1

theorem validate_converted (request : ClaudeRequest Value) (messages : List (ClaudeMessage Value)) (index : Nat) (seen : Finset String)
    (pending : List String) (sound : ∀ message ∈ messages, message.Sound encoding) (answered : Answered encoding pending messages)
    (solid : ∀ id ∈ pending, id ≠ "") (distinct : pending.Nodup) (apart : (messages.flatMap (ClaudeMessage.useIDs encoding)).Nodup)
    (fresh : ∀ id ∈ messages.flatMap (ClaudeMessage.useIDs encoding), id ∉ seen) :
    validateFrom index { pending := pending.toFinset, seen := seen } (messages.flatMap (converted encoding request)) = .ok () := by
  induction messages generalizing index seen pending with
  | nil => simp [validateFrom, show pending = [] from answered]
  | cons message rest ih =>
      obtain ⟨answers, later⟩ := answered
      rw [List.flatMap_cons] at apart fresh
      obtain ⟨own, others, disjoint⟩ := List.nodup_append.mp apart
      have here := sound message List.mem_cons_self
      obtain ⟨next, passed⟩ := validate_message encoding request message index seen pending (rest.flatMap (converted encoding request)) here answers solid
        distinct own fun id member => fresh id (List.mem_append_left _ member)
      rw [List.flatMap_cons, passed]
      apply ih _ _ _ (fun other member => sound other (List.mem_cons_of_mem message member)) later (use_solid encoding message here) own others
      intro id member known
      obtain before | called := Finset.mem_union.mp known
      · exact fresh id (List.mem_append_right _ member) before
      · exact disjoint id (List.mem_toFinset.mp called) id member rfl

theorem system_media_cases (info : RelayInfo) (systems : List (ClaudeMediaMessage Value)) :
    systemMedia info systems = [] ∨ ∃ content, systemMedia info systems = [{ role := "system", content := content }] := by
  cases systems with
  | nil => exact .inl rfl
  | cons system others =>
      right
      rw [systemMedia]
      · split
        · exact ⟨_, rfl⟩
        · exact ⟨_, rfl⟩
      · simp

theorem system_messages_cases (info : RelayInfo) (request : ClaudeRequest Value) :
    systemMessages encoding info request = [] ∨
      ∃ content, systemMessages encoding info request = [{ role := "system", content := content }] := by
  unfold systemMessages
  cases request.system with
  | null => exact .inl rfl
  | string text =>
      by_cases present : text ≠ ""
      · exact .inr ⟨_, if_pos present⟩
      · simpa only [if_neg present] using system_media_cases info _
  | other value => exact system_media_cases info _

theorem validate_system (info : RelayInfo) (request : ClaudeRequest Value) (rest : List (Message Value)) :
    ∃ next, validateFrom 0 {} (systemMessages encoding info request ++ rest) = validateFrom next {} rest := by
  obtain nothing | ⟨content, single⟩ := system_messages_cases encoding info request
  · exact ⟨0, by rw [nothing, List.nil_append]⟩
  · have passed := validate_plain 0 ∅ ({ role := "system", content := content } : Message Value) rest (.inl rfl)
    exact ⟨1, by rw [single]; exact passed⟩

theorem paired_history (info : RelayInfo) (request : ClaudeRequest Value) (paired : request.Paired encoding) :
    validateChatToolCallHistory (systemMessages encoding info request ++ request.messages.flatMap (converted encoding request)) = .ok () := by
  obtain ⟨next, system⟩ := validate_system encoding info request (request.messages.flatMap (converted encoding request))
  rw [validateChatToolCallHistory, system]
  exact validate_converted encoding request request.messages next ∅ [] paired.sound paired.answered (by simp) List.nodup_nil paired.distinct (by simp)

-- Calls and results all arrive, in order; texts and images do where their message calls no tool.
theorem claude_request_kept (info : RelayInfo) (request : ClaudeRequest Value) (plain : request.Plain encoding) :
    ∃ answer sent, claudeToOpenAIRequest encoding info request = .ok answer ∧
      answer.messages = systemMessages encoding info request ++ sent ∧
      sent.flatMap Message.pieces = (request.messages.flatMap fun message => arranged (message.pieces encoding)) ∧
      (sent.flatMap Message.pieces).filter Piece.isUse = (request.pieces encoding).filter Piece.isUse ∧
      (sent.flatMap Message.pieces).filter Piece.isResult = (request.pieces encoding).filter Piece.isResult ∧
      (sent.flatMap Message.pieces = request.pieces encoding ↔ ∀ message ∈ request.messages, Aligned (message.pieces encoding)) ∧
      (request.Paired encoding → validateChatToolCallHistory answer.messages = .ok ()) := by
  obtain ⟨answer, success, messages⟩ := request_converts encoding info request plain
  have pieces := request_pieces encoding request plain
  refine ⟨answer, request.messages.flatMap (converted encoding request), success, messages, pieces, ?_, ?_, ?_, ?_⟩
  · rw [pieces, ClaudeRequest.pieces, List.filter_flatMap, List.filter_flatMap]
    exact List.flatMap_congr fun message _ => arranged_uses (message.pieces encoding)
  · rw [pieces, ClaudeRequest.pieces, List.filter_flatMap, List.filter_flatMap]
    exact List.flatMap_congr fun message _ => arranged_results (message.pieces encoding)
  · have each := flat_map_same (fun message => arranged (ClaudeMessage.pieces encoding message)) (ClaudeMessage.pieces encoding)
      request.messages fun message => arranged_length (ClaudeMessage.pieces encoding message)
    rw [pieces, ClaudeRequest.pieces, each]
    constructor
    · intro same message member
      exact aligned_of_arranged _ (same message member)
    · intro aligned message member
      exact arranged_of_aligned _ (aligned message member)
  · intro paired
    rw [messages]
    exact paired_history encoding info request paired

end

section

-- A value stands for one decoded list of blocks.
def sampleEncoding (lists : List (List (ClaudeMediaMessage Nat))) : Encoding Nat where
  marshal := fun _ => some "\x7b\x7d"
  toMedia
    | .other index => .ok (lists.getD index [])
    | _ => .error "json: cannot unmarshal"
  marshalMedia := fun _ => "[]"
  toTools := fun _ => .ok []
  effort := fun _ => none
  print := fun _ => ""

def sampleText (text : String) : ClaudeMediaMessage Nat := { type := "text", text := some text }

def sampleUse (id : String) : ClaudeMediaMessage Nat := { type := "tool_use", id := id, name := "weather", input := .other 9 }

def sampleResult (id content : String) : ClaudeMediaMessage Nat := { type := "tool_result", toolUseID := id, content := .string content }

def sampleRequest : ClaudeRequest Nat where
  messages := [⟨"user", .string "Is it warm?"⟩, ⟨"assistant", .other 0⟩, ⟨"user", .other 1⟩, ⟨"assistant", .other 2⟩, ⟨"user", .other 3⟩]

def mixedEncoding : Encoding Nat :=
  sampleEncoding [[sampleText "I will look.", sampleUse "a"], [sampleText "Here:", sampleResult "a" "21"], [sampleUse "b"], [sampleResult "b" "22"]]

def repeatedEncoding : Encoding Nat := sampleEncoding [[sampleUse "a"], [sampleResult "a" "21"], [sampleUse "a"], [sampleResult "a" "22"]]

def distinctEncoding : Encoding Nat := sampleEncoding [[sampleUse "a"], [sampleResult "a" "21"], [sampleUse "b"], [sampleResult "b" "22"]]

-- A text beside a call is lost, a text before a result is moved behind it, and a call id cannot come back.
theorem claude_request_loses :
    sampleRequest.pieces mixedEncoding =
        [.text "Is it warm?", .text "I will look.", .toolUse "a" "weather" "\x7b\x7d", .text "Here:", .toolResult "a" "21",
          .toolUse "b" "weather" "\x7b\x7d", .toolResult "b" "22"] ∧
      (claudeToOpenAIRequest mixedEncoding {} sampleRequest).toOption.map (fun answer => answer.messages.flatMap Message.pieces) =
        some [.text "Is it warm?", .toolUse "a" "weather" "\x7b\x7d", .toolResult "a" "21", .text "Here:",
          .toolUse "b" "weather" "\x7b\x7d", .toolResult "b" "22"] ∧
      (claudeToOpenAIRequest repeatedEncoding {} sampleRequest).toOption.map (fun answer => validateChatToolCallHistory answer.messages) =
        some (.error (.duplicateCall "a")) := by
  decide +kernel

theorem claude_request_kept_sample : ∃ answer, claudeToOpenAIRequest distinctEncoding {} sampleRequest = .ok answer ∧
    validateChatToolCallHistory answer.messages = .ok () := by
  have plain : sampleRequest.Plain distinctEncoding := by
    simp [ClaudeRequest.Plain, sampleRequest, ClaudeMessage.Plain, distinctEncoding, sampleEncoding, ClaudeMediaMessage.Plain, sampleUse, sampleResult]
  have blank : trimSpace "a" = "a" ∧ trimSpace "b" = "b" ∧ ¬ Blank "a" ∧ ¬ Blank "b" ∧ ¬ Blank "weather" := by decide
  obtain ⟨answer, sent, success, _, _, _, _, _, history⟩ := claude_request_kept distinctEncoding {} sampleRequest plain
  refine ⟨answer, success, history ⟨?_, ?_, ?_⟩⟩
  · simp [sampleRequest, ClaudeMessage.Sound, ClaudeMessage.useIDs, ClaudeMessage.blocks, parsed, distinctEncoding, sampleEncoding, sampleUse,
      sampleResult, blank]
  · simp [sampleRequest, ClaudeMessage.useIDs, ClaudeMessage.blocks, parsed, distinctEncoding, sampleEncoding, sampleUse, sampleResult, blank]
  · simp [sampleRequest, Answered, ClaudeMessage.resultIDs, ClaudeMessage.useIDs, ClaudeMessage.blocks, parsed, distinctEncoding, sampleEncoding,
      sampleUse, sampleResult, blank]

end

end CodeGo.Translation.Requests
