import CodeGo.Translation.ClaudeContent

set_option autoImplicit false

namespace CodeGo.Translation

/- What each chunk delivers, and from it what a whole stream delivers. -/

section Steps

-- The index the next block of another type gets.
def ClaudeConvertInfo.upper (claude : ClaudeConvertInfo) : Int :=
  match claude.lastMessagesType with
  | .none => claude.index
  | .text | .thinking => claude.index + 1
  | .tools => claude.toolCallBaseIndex + claude.toolCallMaxIndexOffset + 1

theorem advance_upper (claude : ClaudeConvertInfo) : claude.advance.index = claude.upper ∧ claude.advance.lastMessagesType = .none := by
  unfold ClaudeConvertInfo.advance ClaudeConvertInfo.upper
  cases last : claude.lastMessagesType <;> simp [last]

-- Thinking and text are the two voices of a message.
def voiceBlock (thinks : Bool) : ContentBlock := if thinks then .thinking else .text

def voiceDelta (thinks : Bool) (said : String) : ContentDelta := if thinks then .thinkingDelta said else .textDelta said

def voiceKind (thinks : Bool) : LastMessageType := if thinks then .thinking else .text

def voiceHeld (thinks : Bool) (said : String) : ClientBlock := if thinks then .thinking said else .text said

def voiceMessage (thinks : Bool) (said : String) : AssistantMessage := if thinks then { reasoning := said } else { text := said }

-- The blocks a client holds while the converter is in this state.
structure Held (claude : ClaudeConvertInfo) (runFrom : Nat) (blocks : List (Int × ClientBlock)) : Prop where
  below : ∀ block ∈ blocks, block.1 < claude.upper
  voice : ∀ thinks, claude.lastMessagesType = voiceKind thinks →
    ∃ earlier said, blocks = earlier ++ [(claude.index, voiceHeld thinks said)] ∧ ∀ block ∈ earlier, block.1 < claude.index
  tools : claude.lastMessagesType = .tools → Running claude.toolCallBaseIndex runFrom blocks

theorem receive_tool_stops (base : Int) (count : Nat) (blocks : List (Int × ClientBlock)) : receiveEvents blocks (toolStops base count) = blocks := by
  induction count generalizing base with
  | zero => rfl
  | succ count ih => exact ih (base + 1)

theorem receive_stops (claude : ClaudeConvertInfo) (blocks : List (Int × ClientBlock)) :
    receiveEvents blocks (stopOpenAI2ClaudeBlocks claude) = blocks := by
  unfold stopOpenAI2ClaudeBlocks
  cases claude.lastMessagesType with
  | tools => exact receive_tool_stops _ _ blocks
  | none => rfl
  | text => rfl
  | thinking => rfl

theorem tool_stops_weight (base : Int) (count : Nat) : eventsWeight (toolStops base count) = 0 := by
  induction count generalizing base with
  | zero => rfl
  | succ count ih =>
      have rest := ih (base + 1)
      simpa [toolStops, eventsWeight, eventWeight] using rest

theorem stops_weight (claude : ClaudeConvertInfo) : eventsWeight (stopOpenAI2ClaudeBlocks claude) = 0 := by
  unfold stopOpenAI2ClaudeBlocks
  cases claude.lastMessagesType with
  | tools => exact tool_stops_weight _ _
  | none => rfl
  | text => rfl
  | thinking => rfl

theorem finish_silent (choice : Choice) (usage : Option Usage) (info : RelayInfo) (blocks : List (Int × ClientBlock)) :
    receiveEvents blocks (finishChoice choice usage info).1 = blocks ∧ eventsWeight (finishChoice choice usage info).1 = 0 := by
  unfold finishChoice
  split
  · unfold finalizeOpenAI2Claude
    split
    · exact ⟨rfl, rfl⟩
    · constructor
      · rw [receive_append, receive_stops]
        rfl
      · rw [events_weight_append, stops_weight]
        rfl
  · exact ⟨rfl, rfl⟩

theorem finalize_silent (usage : Option Usage) (info : RelayInfo) (blocks : List (Int × ClientBlock)) :
    receiveEvents blocks (finalizeOpenAI2Claude usage info).1 = blocks ∧ eventsWeight (finalizeOpenAI2Claude usage info).1 = 0 := by
  unfold finalizeOpenAI2Claude
  split
  · exact ⟨rfl, rfl⟩
  · constructor
    · rw [receive_append, receive_stops]
      rfl
    · rw [events_weight_append, stops_weight]
      rfl

variable {claude : ClaudeConvertInfo} {runFrom : Nat} {blocks : List (Int × ClientBlock)}

-- A block of another type starts after all that there are.
theorem Held.switches (held : Held claude runFrom blocks) (kind : LastMessageType) (block : ContentBlock) (delta : ContentDelta) (always : Bool)
    (other : claude.lastMessagesType ≠ kind) :
    receiveEvents blocks (deltaBlock always kind block delta claude).1 = blocks ++ [(claude.upper, block.blank.add delta)] ∧
      (deltaBlock always kind block delta claude).2.index = claude.upper ∧ (deltaBlock always kind block delta claude).2.lastMessagesType = kind := by
  have absent : ∀ earlier ∈ blocks, earlier.1 ≠ claude.upper := by
    intro earlier member
    have less := held.below earlier member
    omega
  unfold deltaBlock
  simp only [if_pos other, (advance_upper claude).1, and_self, and_true]
  rw [receive_append, receive_stops, receive_cons, receive_cons, receive_nil, start_fresh _ _ _ absent]
  simp only [receiveEvent]
  rw [add_at_append _ _ _ _ absent]
  simp [addAt]

theorem voice_contents (earlier : List (Int × ClientBlock)) (index : Int) (thinks : Bool) (before said : String) :
    contents (earlier ++ [(index, voiceHeld thinks (before ++ said))]) =
      (contents (earlier ++ [(index, voiceHeld thinks before)])).join (voiceMessage thinks said) := by
  rw [contents_append, contents_append]
  cases thinks <;> simp [contents, voiceHeld, voiceMessage, ClientBlock.message, AssistantMessage.join, String.append_assoc]

theorem voice_apart (thinks : Bool) : voiceKind thinks ≠ .tools ∧ voiceKind thinks ≠ .none := by cases thinks <;> simp [voiceKind]

theorem voice_upper (claude : ClaudeConvertInfo) (thinks : Bool) (last : claude.lastMessagesType = voiceKind thinks) :
    claude.upper = claude.index + 1 := by
  unfold ClaudeConvertInfo.upper
  cases thinks <;> simp [last, voiceKind]

-- A block of one voice at the end is what the state after it asks for.
theorem Held.of_voice {after : ClaudeConvertInfo} (thinks : Bool) (last : after.lastMessagesType = voiceKind thinks)
    (earlier : List (Int × ClientBlock)) (said : String) (apart : ∀ block ∈ earlier, block.1 < after.index) (next : Nat) :
    Held after next (earlier ++ [(after.index, voiceHeld thinks said)]) := by
  refine ⟨fun block member => ?_, fun other same => ?_, fun tools => ((voice_apart thinks).1 (last.symm.trans tools)).elim⟩
  · rw [voice_upper after thinks last]
    rcases List.mem_append.mp member with old | new
    · have less := apart block old
      omega
    · rw [List.mem_singleton.mp new]
      dsimp only
      omega
  · have voice : other = thinks := by
      have kinds := same.symm.trans last
      cases other <;> cases thinks <;> simp_all [voiceKind]
    subst voice
    exact ⟨earlier, said, rfl, apart⟩

theorem Held.voiced (held : Held claude runFrom blocks) (always thinks : Bool) (said : String)
    (later : always = true → claude.lastMessagesType ≠ voiceKind thinks) :
    contents (receiveEvents blocks (deltaBlock always (voiceKind thinks) (voiceBlock thinks) (voiceDelta thinks said) claude).1) =
        (contents blocks).join (voiceMessage thinks said) ∧
      ∀ next, Held (deltaBlock always (voiceKind thinks) (voiceBlock thinks) (voiceDelta thinks said) claude).2 next
        (receiveEvents blocks (deltaBlock always (voiceKind thinks) (voiceBlock thinks) (voiceDelta thinks said) claude).1) := by
  by_cases same : claude.lastMessagesType = voiceKind thinks
  · have quiet : always = false := by
      cases told : always with
      | false => rfl
      | true => exact (later told same).elim
    obtain ⟨earlier, before, shape, apart⟩ := held.voice thinks same
    have absent : ∀ block ∈ earlier, block.1 ≠ claude.index := by
      intro block member
      have less := apart block member
      omega
    have added : (voiceHeld thinks before).add (voiceDelta thinks said) = voiceHeld thinks (before ++ said) := by
      cases thinks <;> simp [voiceHeld, voiceDelta, ClientBlock.add]
    have after : receiveEvents blocks (deltaBlock always (voiceKind thinks) (voiceBlock thinks) (voiceDelta thinks said) claude).1 =
        earlier ++ [(claude.index, voiceHeld thinks (before ++ said))] := by
      unfold deltaBlock
      rw [if_neg (by simp [same]), quiet, shape]
      simp only [Bool.false_eq_true, if_false, List.nil_append, receive_cons, receive_nil, receiveEvent]
      rw [add_at_append _ _ _ _ absent]
      simp [addAt, added]
    have state : (deltaBlock always (voiceKind thinks) (voiceBlock thinks) (voiceDelta thinks said) claude).2 = claude := by
      unfold deltaBlock
      rw [if_neg (by simp [same])]
    rw [after, state, voice_contents, ← shape]
    exact ⟨rfl, Held.of_voice thinks same earlier _ apart⟩
  · obtain ⟨after, index, last⟩ := held.switches (voiceKind thinks) (voiceBlock thinks) (voiceDelta thinks said) always same
    have begun : (voiceBlock thinks).blank.add (voiceDelta thinks said) = voiceHeld thinks ("" ++ said) := by
      cases thinks <;> simp [voiceBlock, voiceHeld, voiceDelta, ContentBlock.blank, ClientBlock.add]
    have blank : (contents (blocks ++ [(claude.upper, voiceHeld thinks "")])) = contents blocks := by
      rw [contents_append]
      cases thinks <;> simp [contents, voiceHeld, ClientBlock.message]
    rw [after, begun, voice_contents, blank, ← index]
    refine ⟨rfl, Held.of_voice thinks last blocks _ ?_⟩
    rw [index]
    exact held.below

theorem delta_block_weight (claude : ClaudeConvertInfo) (always thinks : Bool) (said : String) :
    eventsWeight (deltaBlock always (voiceKind thinks) (voiceBlock thinks) (voiceDelta thinks said) claude).1 = said.length := by
  unfold deltaBlock
  by_cases other : claude.lastMessagesType ≠ voiceKind thinks
  · rw [if_pos other]
    dsimp only
    rw [events_weight_append, stops_weight]
    cases thinks <;> simp [eventsWeight, eventWeight, voiceBlock, voiceDelta, ContentDelta.weight]
  · rw [if_neg other]
    cases always <;> cases thinks <;> simp [eventsWeight, eventWeight, voiceBlock, voiceDelta, ContentDelta.weight]

-- Of reasoning and text in one delta only the reasoning is delivered.
def delivered (delta : Delta) : AssistantMessage :=
  if delta.getReasoningContent ≠ "" then { reasoning := delta.getReasoningContent } else { text := delta.getContentString }

theorem Held.text (held : Held claude runFrom blocks) (delta : Delta) (always : Bool)
    (later : always = true → claude.lastMessagesType = .none ∨ claude.lastMessagesType = .tools) :
    contents (receiveEvents blocks (convertText always delta claude).1) = (contents blocks).join (delivered delta) ∧
      Held (convertText always delta claude).2 runFrom (receiveEvents blocks (convertText always delta claude).1) := by
  have switch : ∀ thinks, always = true → claude.lastMessagesType ≠ voiceKind thinks := by
    intro thinks first same
    rcases later first with none | tools
    · exact (voice_apart thinks).2 (same.symm.trans none)
    · exact (voice_apart thinks).1 (same.symm.trans tools)
  unfold convertText delivered
  by_cases reasoning : delta.getReasoningContent = ""
  · by_cases content : delta.getContentString = ""
    · simp only [reasoning, content, ne_eq, not_true_eq_false, if_false, receive_nil]
      exact ⟨by simp [AssistantMessage.join], held⟩
    · simp only [reasoning, content, ne_eq, not_true_eq_false, not_false_eq_true, if_false, if_true]
      have spoken := held.voiced always false delta.getContentString (switch false)
      exact ⟨spoken.1, spoken.2 runFrom⟩
  · simp only [reasoning, ne_eq, not_false_eq_true, if_true]
    have spoken := held.voiced always true delta.getReasoningContent (switch true)
    exact ⟨spoken.1, spoken.2 runFrom⟩

theorem text_weight (claude : ClaudeConvertInfo) (delta : Delta) (always : Bool) :
    eventsWeight (convertText always delta claude).1 ≤ delta.getReasoningContent.length + delta.getContentString.length := by
  unfold convertText
  split_ifs
  · have weight := delta_block_weight claude always true delta.getReasoningContent
    exact Nat.le_trans (Nat.le_of_eq weight) (Nat.le_add_right _ _)
  · have weight := delta_block_weight claude always false delta.getContentString
    exact Nat.le_trans (Nat.le_of_eq weight) (Nat.le_add_left _ _)
  · exact Nat.zero_le _

def spokenMessage (delta : Delta) : AssistantMessage := { reasoning := delta.getReasoningContent, text := delta.getContentString }

theorem delivered_whole (delta : Delta) :
    (delta.getReasoningContent = "" ∨ delta.getContentString = "" → delivered delta = spokenMessage delta) ∧
      (¬ (delta.getReasoningContent = "" ∨ delta.getContentString = "") → (delivered delta).weight < (spokenMessage delta).weight) := by
  unfold delivered spokenMessage
  by_cases reasoning : delta.getReasoningContent = ""
  · simp [reasoning]
  · by_cases content : delta.getContentString = ""
    · simp [reasoning, content]
    · have long : delta.getContentString.length ≠ 0 := by
        rw [ne_eq, String.length_eq_zero_iff]
        exact content
      simp only [reasoning, content, or_self, false_implies, not_false_eq_true, forall_const, true_and, ne_eq, if_true, AssistantMessage.weight,
        callsWeight, List.map_nil, List.sum_nil, String.length_empty]
      omega

theorem add_delta_cases {message next : AssistantMessage} {delta : Delta} (added : addDelta message delta = some next) :
    ∃ calls, addPieces message.toolCalls delta.toolCalls = some calls ∧ next = { message.join (spokenMessage delta) with toolCalls := calls } := by
  obtain ⟨calls, pieces, same⟩ := Option.map_eq_some_iff.mp added
  exact ⟨calls, pieces, by rw [← same]; simp [AssistantMessage.join, spokenMessage]⟩

theorem in_tools_last (claude : ClaudeConvertInfo) : claude.inTools.lastMessagesType = .tools := by
  unfold ClaudeConvertInfo.inTools
  split_ifs with other
  · rfl
  · exact not_not.mp other

-- A run of tool deltas begins after all blocks, or goes on with its own.
theorem Held.in_tools (held : Held claude runFrom blocks) :
    Running claude.inTools.toolCallBaseIndex (runFromOf claude (contents blocks).toolCalls.length runFrom) blocks ∧
      ∀ block ∈ blocks, block.1 ≤ claude.inTools.toolCallBaseIndex + claude.inTools.toolCallMaxIndexOffset := by
  unfold ClaudeConvertInfo.inTools runFromOf
  by_cases tools : claude.lastMessagesType = .tools
  · rw [if_pos tools, if_neg (by simp [tools])]
    refine ⟨held.tools tools, fun block member => ?_⟩
    have less := held.below block member
    simp only [ClaudeConvertInfo.upper, tools] at less
    omega
  · rw [if_neg tools, if_pos tools]
    dsimp only
    rw [(advance_upper claude).1]
    refine ⟨⟨blocks, [], by simp [runBlocks], rfl, held.below⟩, fun block member => ?_⟩
    have less := held.below block member
    omega

theorem Held.called (held : Held claude runFrom blocks) (pieces : List ToolCallResponse) {calls : List ToolCall}
    (added : addPieces (contents blocks).toolCalls pieces = some calls) :
    (PiecesKept (runFromOf claude (contents blocks).toolCalls.length runFrom) (contents blocks).toolCalls.length pieces →
        contents (receiveEvents blocks (convertTools pieces claude).1) = { contents blocks with toolCalls := calls } ∧
          Held (convertTools pieces claude).2 (runFromOf claude (contents blocks).toolCalls.length runFrom)
            (receiveEvents blocks (convertTools pieces claude).1)) ∧
      (¬ PiecesKept (runFromOf claude (contents blocks).toolCalls.length runFrom) (contents blocks).toolCalls.length pieces →
        (contents (receiveEvents blocks (convertTools pieces claude).1)).weight < AssistantMessage.weight { contents blocks with toolCalls := calls }) := by
  obtain ⟨running, below⟩ := held.in_tools
  obtain ⟨kept, dropped⟩ := running.pieces pieces below added
  have after : receiveEvents blocks (convertTools pieces claude).1 = receiveEvents blocks (pieceEvents claude.inTools.toolCallBaseIndex pieces) := by
    unfold convertTools
    dsimp only
    rw [receive_append, tool_offsets_indexed pieces (pieces_indexed added)]
    congr 1
    split_ifs
    · exact receive_stops claude blocks
    · rfl
  rw [after]
  refine ⟨fun whole => ?_, dropped⟩
  obtain ⟨next, same, bound⟩ := kept whole
  have last : (convertTools pieces claude).2.lastMessagesType = .tools := in_tools_last claude
  refine ⟨same, fun block member => ?_, fun thinks voice => ((voice_apart thinks).1 (voice.symm.trans last)).elim, fun _ => next⟩
  have less := bound block member
  simp only [ClaudeConvertInfo.upper, last]
  unfold convertTools
  dsimp only
  rw [tool_offsets_indexed pieces (pieces_indexed added)]
  omega

theorem tools_weight (claude : ClaudeConvertInfo) (pieces : List ToolCallResponse) {calls next : List ToolCall} (added : addPieces calls pieces = some next) :
    eventsWeight (convertTools pieces claude).1 + callsWeight calls ≤ callsWeight next := by
  have weight := pieces_weight claude.inTools.toolCallBaseIndex added
  unfold convertTools
  dsimp only
  rw [events_weight_append, tool_offsets_indexed pieces (pieces_indexed added)]
  have stops : eventsWeight (if claude.lastMessagesType ≠ .tools then stopOpenAI2ClaudeBlocks claude else []) = 0 := by
    split_ifs
    · exact stops_weight claude
    · rfl
  unfold pieceEvents at weight
  omega

theorem text_keeps_tools (delta : Delta) (always : Bool) (tools : (convertText always delta claude).2.lastMessagesType = .tools) :
    claude.lastMessagesType = .tools := by
  unfold convertText deltaBlock at tools
  split_ifs at tools <;> simp_all

theorem Held.later (held : Held claude runFrom blocks) (delta : Delta) {message : AssistantMessage}
    (added : addDelta (contents blocks) delta = some message) :
    (LaterKept delta claude (contents blocks).toolCalls.length runFrom →
        contents (receiveEvents blocks (convertDelta delta claude).1) = message ∧
          Held (convertDelta delta claude).2 (runFromOf claude (contents blocks).toolCalls.length runFrom)
            (receiveEvents blocks (convertDelta delta claude).1)) ∧
      (¬ LaterKept delta claude (contents blocks).toolCalls.length runFrom →
        (contents (receiveEvents blocks (convertDelta delta claude).1)).weight < message.weight) := by
  obtain ⟨calls, pieces, rfl⟩ := add_delta_cases added
  unfold LaterKept convertDelta
  by_cases tools : delta.toolCalls = []
  · have same : calls = (contents blocks).toolCalls := by
      rw [tools] at pieces
      exact (Option.some.inj pieces).symm
    subst same
    obtain ⟨spoken, _⟩ := held.text delta false (by simp)
    obtain ⟨whole, partly⟩ := delivered_whole delta
    have full : { (contents blocks).join (spokenMessage delta) with toolCalls := (contents blocks).toolCalls } = (contents blocks).join (spokenMessage delta) := by
      simp [AssistantMessage.join, spokenMessage]
    simp only [tools, ne_eq, not_true_eq_false, if_false]
    rw [spoken, full]
    refine ⟨fun one => ⟨by rw [whole one], ?_⟩, fun both => ?_⟩
    · have next := (held.text delta false (by simp)).2
      refine ⟨next.below, next.voice, fun last => ?_⟩
      rw [runFromOf, if_pos (text_keeps_tools delta false last)]
      exact next.tools last
    · have less := partly both
      rw [join_weight, join_weight]
      omega
  · obtain ⟨kept, dropped⟩ := held.called delta.toolCalls pieces
    simp only [tools, ne_eq, not_false_eq_true, if_true]
    refine ⟨fun quiet => ?_, fun lossy => ?_⟩
    · obtain ⟨whole, noReasoning, noText⟩ := quiet
      obtain ⟨same, next⟩ := kept whole
      refine ⟨?_, next⟩
      rw [same]
      simp [AssistantMessage.join, spokenMessage, noReasoning, noText]
    · have total : AssistantMessage.weight { (contents blocks).join (spokenMessage delta) with toolCalls := calls } =
          AssistantMessage.weight { contents blocks with toolCalls := calls } + delta.getReasoningContent.length + delta.getContentString.length := by
        simp only [AssistantMessage.weight, AssistantMessage.join, spokenMessage, String.length_append]
        omega
      rw [total]
      by_cases whole : PiecesKept (runFromOf claude (contents blocks).toolCalls.length runFrom) (contents blocks).toolCalls.length delta.toolCalls
      · have spoken : delta.getReasoningContent.length ≠ 0 ∨ delta.getContentString.length ≠ 0 := by
          rw [ne_eq, ne_eq, String.length_eq_zero_iff, String.length_eq_zero_iff]
          by_contra silent
          push Not at silent
          exact lossy ⟨whole, silent⟩
        rw [(kept whole).1]
        omega
      · have less := dropped whole
        omega

theorem delta_weight (claude : ClaudeConvertInfo) (delta : Delta) {message next : AssistantMessage} (added : addDelta message delta = some next) :
    eventsWeight (convertDelta delta claude).1 + message.weight ≤ next.weight := by
  obtain ⟨calls, pieces, rfl⟩ := add_delta_cases added
  have total : AssistantMessage.weight { message.join (spokenMessage delta) with toolCalls := calls } =
      message.reasoning.length + message.text.length + callsWeight calls + delta.getReasoningContent.length + delta.getContentString.length := by
    simp only [AssistantMessage.weight, AssistantMessage.join, spokenMessage, String.length_append]
    omega
  rw [total]
  unfold convertDelta
  split_ifs with tools
  · have weight := tools_weight claude delta.toolCalls pieces
    simp only [AssistantMessage.weight]
    omega
  · have weight := text_weight claude delta false
    rw [not_not.mp tools] at pieces
    cases pieces
    simp only [AssistantMessage.weight]
    omega

theorem no_pieces (pieces : List ToolCallResponse) {calls next : List ToolCall} (added : addPieces calls pieces = some next) :
    (NoPieces calls.length pieces → next = calls) ∧ (¬ NoPieces calls.length pieces → callsWeight calls < callsWeight next) := by
  induction pieces generalizing calls with
  | nil =>
      cases added
      exact ⟨fun _ => rfl, fun some_ => (some_ (by simp [NoPieces])).elim⟩
  | cons piece rest ih =>
      obtain ⟨middle, first, later⟩ := Option.bind_eq_some_iff.mp added
      have tail := pieces_weight 0 later
      have unfolded : NoPieces calls.length (piece :: rest) ↔
          (piece.index ≠ some (calls.length : Int) ∧ piece.arguments = "") ∧ NoPieces calls.length rest := by
        simp [NoPieces]
      rw [unfolded]
      rcases add_piece_cases first with ⟨begins, rfl⟩ | ⟨position, within, index, _, rfl⟩
      · refine ⟨fun both => (both.1.1 begins).elim, fun _ => ?_⟩
        rw [calls_weight_append] at tail
        simp only [callsWeight, List.map_cons, List.sum_cons] at tail ⊢
        omega
      · have apart : piece.index ≠ some (calls.length : Int) := by
          rw [index]
          simp only [ne_eq, Option.some.injEq]
          omega
        by_cases silent : piece.arguments = ""
        · rw [silent, extend_nothing] at later
          have rested := ih later
          exact ⟨fun both => rested.1 both.2, fun some_ => rested.2 fun none => some_ ⟨⟨apart, silent⟩, none⟩⟩
        · refine ⟨fun both => (silent both.1.2).elim, fun _ => ?_⟩
          have long : piece.arguments.length ≠ 0 := by
            rw [ne_eq, String.length_eq_zero_iff]
            exact silent
          rw [modify_weight _ _ within] at tail
          omega

-- A chunk after the end counts only if it holds something.
theorem silent_delta (delta : Delta) {message next : AssistantMessage} (added : addDelta message delta = some next) :
    (Silent delta message.toolCalls.length → next = message) ∧ (¬ Silent delta message.toolCalls.length → message.weight < next.weight) := by
  obtain ⟨calls, pieces, rfl⟩ := add_delta_cases added
  obtain ⟨none, some_⟩ := no_pieces delta.toolCalls pieces
  have total : AssistantMessage.weight { message.join (spokenMessage delta) with toolCalls := calls } =
      message.reasoning.length + message.text.length + callsWeight calls + delta.getReasoningContent.length + delta.getContentString.length := by
    simp only [AssistantMessage.weight, AssistantMessage.join, spokenMessage, String.length_append]
    omega
  refine ⟨fun silent => ?_, fun spoken => ?_⟩
  · obtain ⟨noPieces, noReasoning, noText⟩ := silent
    rw [none noPieces]
    simp [AssistantMessage.join, spokenMessage, noReasoning, noText]
  · rw [total, AssistantMessage.weight]
    have grown := pieces_weight 0 pieces
    by_cases noPieces : NoPieces message.toolCalls.length delta.toolCalls
    · have heard : delta.getReasoningContent.length ≠ 0 ∨ delta.getContentString.length ≠ 0 := by
        rw [ne_eq, ne_eq, String.length_eq_zero_iff, String.length_eq_zero_iff]
        by_contra silent
        push Not at silent
        exact spoken ⟨noPieces, silent⟩
      omega
    · have less := some_ noPieces
      omega

end Steps

section Runs

variable {info : RelayInfo} {runFrom : Nat} {blocks : List (Int × ClientBlock)}

def Following (info : RelayInfo) (runFrom : Nat) (blocks : List (Int × ClientBlock)) : Prop :=
  info.claude.done = false → Held info.claude runFrom blocks

theorem begun_after {calls next : List ToolCall} {pieces : List ToolCallResponse} (added : addPieces calls pieces = some next) :
    next.length = begunAfter calls.length pieces := by
  induction pieces generalizing calls with
  | nil =>
      cases added
      rfl
  | cons piece rest ih =>
      obtain ⟨middle, first, later⟩ := Option.bind_eq_some_iff.mp added
      rw [begunAfter, ih later]
      rcases add_piece_cases first with ⟨begins, rfl⟩ | ⟨position, within, index, _, rfl⟩
      · rw [if_pos begins, List.length_append, List.length_singleton]
      · rw [if_neg (by
          rw [index]
          simp only [Option.some.injEq]
          omega), List.length_modify]

theorem begun_by {message next : AssistantMessage} {chunk : ChatCompletionsStreamResponse} (added : addChunk message chunk = some next) :
    next.toolCalls.length = begunBy chunk message.toolCalls.length := by
  unfold addChunk at added
  unfold begunBy
  split at added
  · rename_i none
    cases added
    rw [none]
    rfl
  · rename_i choice one
    obtain ⟨calls, pieces, rfl⟩ := add_delta_cases added
    rw [one]
    simpa using begun_after pieces
  · cases added

theorem later_handled (chunk : ChatCompletionsStreamResponse) (begun : 1 ≤ info.sendResponseCount) :
    handleClaudeFormat chunk info =
      if info.claude.done = true then ([], receive chunk info) else streamLater chunk (receive chunk info) := by
  unfold handleClaudeFormat streamResponseOpenAI2Claude
  rw [if_neg (by simp only [receive]; omega : ¬ (receive chunk info).sendResponseCount = 1)]
  rfl

theorem later_weight (chunk : ChatCompletionsStreamResponse) (begun : 1 ≤ info.sendResponseCount) {message next : AssistantMessage}
    (added : addChunk message chunk = some next) : eventsWeight (handleClaudeFormat chunk info).1 + message.weight ≤ next.weight := by
  rw [later_handled chunk begun]
  unfold addChunk at added
  split_ifs with done
  · have none : eventsWeight [] = 0 := rfl
    rw [none]
    split at added
    · cases added
      omega
    · have grown := delta_weight info.claude _ added
      omega
    · cases added
  · unfold streamLater
    split at added
    · rename_i empty
      cases added
      rw [empty]
      dsimp only
      split
      · rename_i usage _
        have silent := (finalize_silent (some usage) (receive chunk info) []).2
        omega
      · exact Nat.le_of_eq (Nat.zero_add _)
    · rename_i choice one
      have grown := delta_weight (receive chunk info).claude _ added
      rw [one]
      dsimp only
      rw [events_weight_append, (finish_silent choice chunk.usage _ []).2]
      exact grown
    · cases added

theorem Following.later (following : Following info runFrom blocks) (begun : 1 ≤ info.sendResponseCount) (chunk : ChatCompletionsStreamResponse)
    {message : AssistantMessage} (added : addChunk (contents blocks) chunk = some message) :
    (ChunkKept chunk (receive chunk info) (contents blocks).toolCalls.length runFrom →
        contents (receiveEvents blocks (handleClaudeFormat chunk info).1) = message ∧
          Following (handleClaudeFormat chunk info).2 (runFromAfter (receive chunk info) (contents blocks).toolCalls.length runFrom)
            (receiveEvents blocks (handleClaudeFormat chunk info).1)) ∧
      (¬ ChunkKept chunk (receive chunk info) (contents blocks).toolCalls.length runFrom →
        (contents (receiveEvents blocks (handleClaudeFormat chunk info).1)).weight < message.weight) := by
  have notFirst : ¬ (receive chunk info).sendResponseCount = 1 := by
    simp only [receive]
    omega
  have same : (receive chunk info).claude.done = info.claude.done := rfl
  rw [later_handled chunk begun]
  unfold addChunk at added
  unfold ChunkKept DeltaKept
  simp only [notFirst, if_false, same, runFromAfter]
  cases done : info.claude.done with
  | true =>
      simp only [if_true, receive_nil]
      split at added
      · rename_i empty
        cases added
        rw [empty]
        exact ⟨fun _ => ⟨rfl, fun running => by simp [receive, done] at running⟩, fun some_ => (some_ (by simp)).elim⟩
      · rename_i choice one
        obtain ⟨silent, heard⟩ := silent_delta choice.delta added
        rw [one]
        simp only [List.mem_singleton, forall_eq]
        exact ⟨fun none => ⟨(silent none).symm, fun running => by simp [receive, done] at running⟩, heard⟩
      · cases added
  | false =>
      have held : Held (receive chunk info).claude runFrom blocks := by
        obtain ⟨below, voice, tools⟩ := following done
        exact ⟨below, voice, tools⟩
      simp only [Bool.false_eq_true, if_false]
      unfold streamLater
      split at added
      · rename_i empty
        cases added
        rw [empty]
        simp only [List.not_mem_nil, false_implies, implies_true, not_true_eq_false, and_true, forall_const]
        split
        · refine ⟨by rw [(finalize_silent (some _) (receive chunk info) blocks).1], fun running => ?_⟩
          simp [finalizeOpenAI2Claude, same, done] at running
        · refine ⟨rfl, fun _ => ⟨held.below, held.voice, fun tools => ?_⟩⟩
          rw [runFromOf, if_pos tools]
          exact held.tools tools
      · rename_i choice one
        obtain ⟨kept, dropped⟩ := held.later choice.delta added
        rw [one]
        simp only [List.mem_singleton, forall_eq]
        rw [receive_append, (finish_silent choice chunk.usage _ _).1]
        refine ⟨fun whole => ⟨(kept whole).1, fun running => ?_⟩, dropped⟩
        unfold finishChoice at running ⊢
        cases reason : choice.finished with
        | none => exact (kept whole).2
        | some text =>
            simp only [reason] at running
            unfold finalizeOpenAI2Claude at running
            split at running
            · rename_i ended
              simp_all
            · simp at running
      · cases added

theorem short_run (usage : Option Usage) (chunks : List ChatCompletionsStreamResponse) (begun : 1 ≤ info.sendResponseCount)
    {message final : AssistantMessage} (short : (contents blocks).weight < message.weight) (assembled : assemble message chunks = some final) :
    (contents (receiveEvents blocks (claudeEvents usage chunks info))).weight < final.weight := by
  induction chunks generalizing info blocks message with
  | nil =>
      cases assembled
      rw [claudeEvents, (finalize_silent usage info blocks).1]
      exact short
  | cons chunk rest ih =>
      obtain ⟨next, first, later⟩ := Option.bind_eq_some_iff.mp assembled
      have weight := later_weight chunk begun first
      have bound := events_weight blocks (handleClaudeFormat chunk info).1
      have count := handled_count chunk info
      rw [claudeEvents, receive_append]
      exact ih (by omega) (by omega) later

theorem kept_iff (usage : Option Usage) (chunks : List ChatCompletionsStreamResponse) (begun : 1 ≤ info.sendResponseCount)
    (following : Following info runFrom blocks) {final : AssistantMessage} (assembled : assemble (contents blocks) chunks = some final) :
    contents (receiveEvents blocks (claudeEvents usage chunks info)) = final ↔ KeptRun chunks info (contents blocks).toolCalls.length runFrom := by
  induction chunks generalizing info blocks runFrom with
  | nil =>
      cases assembled
      rw [claudeEvents, (finalize_silent usage info blocks).1]
      exact iff_of_true rfl trivial
  | cons chunk rest ih =>
      obtain ⟨next, first, later⟩ := Option.bind_eq_some_iff.mp assembled
      obtain ⟨whole, partly⟩ := following.later begun chunk first
      have count := handled_count chunk info
      rw [claudeEvents, receive_append, KeptRun]
      by_cases kept : ChunkKept chunk (receive chunk info) (contents blocks).toolCalls.length runFrom
      · obtain ⟨same, follows⟩ := whole kept
        have rested := ih (by omega) follows (by rw [same]; exact later)
        rw [rested, same, begun_by first]
        simp [kept]
      · refine iff_of_false (fun same => ?_) (fun both => kept both.1)
        have short := short_run usage rest (Nat.le_trans begun (by omega : info.sendResponseCount ≤ (handleClaudeFormat chunk info).2.sendResponseCount)) (partly kept) later
        rw [same] at short
        omega

def ToolCallResponse.call (piece : ToolCallResponse) : ToolCall := ⟨piece.id, piece.name, piece.arguments⟩

theorem first_tool_blocks (delta : Delta) (claude : ClaudeConvertInfo) (fresh : claude.lastMessagesType = .none) :
    contents (receiveEvents [] (firstToolCall delta claude).1) = { toolCalls := (delta.toolCalls.take 1).map ToolCallResponse.call } ∧
      Held (firstToolCall delta claude).2 0 (receiveEvents [] (firstToolCall delta claude).1) ∧
      ((firstToolCall delta claude).2.lastMessagesType = .none ∨ (firstToolCall delta claude).2.lastMessagesType = .tools) ∧
      (firstToolCall delta claude).2.done = claude.done := by
  unfold firstToolCall
  cases delta.toolCalls with
  | nil =>
      refine ⟨rfl, ⟨by simp, fun thinks voice => ((voice_apart thinks).2 (voice.symm.trans fresh)).elim, by simp [fresh]⟩, .inl fresh, rfl⟩
  | cons toolCall rest =>
      have start : receiveEvent [] (.contentBlockStart 0 (.toolUse toolCall.id toolCall.name)) = runBlocks 0 [⟨toolCall.id, toolCall.name, ""⟩] := rfl
      have after : receiveEvents [] (.contentBlockStart 0 (.toolUse toolCall.id toolCall.name) :: argumentsDelta 0 toolCall) =
          runBlocks 0 [toolCall.call] := by
        have arguments := receive_arguments_run [] 0 [⟨toolCall.id, toolCall.name, ""⟩] 0 (by simp) toolCall (by simp)
        rw [receive_cons, start]
        simpa [ToolCall.extend, ToolCallResponse.call] using arguments
      refine ⟨by rw [after]; exact run_blocks_contents 0 _, ⟨fun block member => ?_, fun thinks voice => ?_, fun _ => ?_⟩, .inr rfl, rfl⟩
      · rw [after] at member
        have bounds := run_blocks_keys _ _ block member
        simp only [ClaudeConvertInfo.upper]
        rw [List.length_singleton] at bounds
        omega
      · exact ((voice_apart thinks).1 voice.symm).elim
      · rw [after]
        exact ⟨[], [toolCall.call], rfl, rfl, by simp⟩

theorem first_pieces (pieces : List ToolCallResponse) {calls : List ToolCall} (added : addPieces [] pieces = some calls) :
    (NoPieces (begunAfter 0 (pieces.take 1)) (pieces.drop 1) → calls = (pieces.take 1).map ToolCallResponse.call) ∧
      (¬ NoPieces (begunAfter 0 (pieces.take 1)) (pieces.drop 1) → callsWeight ((pieces.take 1).map ToolCallResponse.call) < callsWeight calls) := by
  cases pieces with
  | nil =>
      cases added
      exact ⟨fun _ => rfl, fun some_ => (some_ (by simp [NoPieces])).elim⟩
  | cons piece rest =>
      obtain ⟨middle, first, later⟩ := Option.bind_eq_some_iff.mp added
      rcases add_piece_cases first with ⟨begins, rfl⟩ | ⟨position, within, _⟩
      · have one : begunAfter 0 [piece] = 1 := by
          have index : piece.index = some ((0 : Nat) : Int) := begins
          simp [begunAfter, index]
        simp only [List.take_succ_cons, List.take_zero, List.drop_succ_cons, List.drop_zero, one]
        exact no_pieces rest later
      · simp at within

theorem Following.first (chunk : ChatCompletionsStreamResponse) (estimatePromptTokens : Int) {message : AssistantMessage}
    (added : addChunk {} chunk = some message) :
    (ChunkKept chunk (receive chunk (.start estimatePromptTokens)) 0 0 →
        contents (receiveEvents [] (handleClaudeFormat chunk (.start estimatePromptTokens)).1) = message ∧
          Following (handleClaudeFormat chunk (.start estimatePromptTokens)).2 0
            (receiveEvents [] (handleClaudeFormat chunk (.start estimatePromptTokens)).1)) ∧
      (¬ ChunkKept chunk (receive chunk (.start estimatePromptTokens)) 0 0 →
        (contents (receiveEvents [] (handleClaudeFormat chunk (.start estimatePromptTokens)).1)).weight < message.weight) := by
  have handled : handleClaudeFormat chunk (.start estimatePromptTokens) = streamFirst chunk (receive chunk (.start estimatePromptTokens)) := rfl
  have kept : ∀ delta, DeltaKept delta (receive chunk (.start estimatePromptTokens)) 0 0 ↔ FirstKept delta := fun _ => Iff.rfl
  rw [handled]
  unfold addChunk at added
  unfold ChunkKept streamFirst
  simp only [kept]
  split at added
  · rename_i empty
    cases added
    rw [empty]
    refine ⟨fun _ => ⟨rfl, fun _ => ⟨by simp [receiveEvents, receiveEvent], fun thinks voice => ?_, fun tools => ?_⟩⟩, fun some_ => (some_ (by simp)).elim⟩
    · exact ((voice_apart thinks).2 voice.symm).elim
    · cases tools
  · rename_i choice one
    obtain ⟨calls, pieces, rfl⟩ := add_delta_cases added
    obtain ⟨tooled, held, untexted, running⟩ := first_tool_blocks choice.delta (receive chunk (.start estimatePromptTokens)).claude rfl
    obtain ⟨spoken, next⟩ := held.text choice.delta true (fun _ => untexted)
    obtain ⟨alone, more⟩ := first_pieces choice.delta.toolCalls pieces
    obtain ⟨whole, partly⟩ := delivered_whole choice.delta
    rw [one]
    simp only [List.mem_singleton, forall_eq, List.cons_append]
    rw [receive_cons, receive_append, receive_append, (finish_silent choice chunk.usage _ _).1]
    simp only [receiveEvent]
    rw [spoken, tooled]
    unfold FirstKept
    refine ⟨fun quiet => ⟨?_, fun unfinished => ?_⟩, fun lossy => ?_⟩
    · rw [alone quiet.1, whole quiet.2]
      simp [AssistantMessage.join, spokenMessage]
    · unfold finishChoice at unfinished ⊢
      cases reason : choice.finished with
      | none => exact next
      | some text =>
          simp only [reason] at unfinished
          unfold finalizeOpenAI2Claude at unfinished
          split at unfinished
          · rename_i ended
            simp_all
          · simp at unfinished
    · have total : AssistantMessage.weight { AssistantMessage.join {} (spokenMessage choice.delta) with toolCalls := calls } =
          callsWeight calls + (spokenMessage choice.delta).weight := by
        simp only [AssistantMessage.weight, AssistantMessage.join, spokenMessage, String.length_append, String.length_empty, callsWeight,
          List.map_nil, List.sum_nil]
        omega
      have first : AssistantMessage.weight { toolCalls := (choice.delta.toolCalls.take 1).map ToolCallResponse.call } =
          callsWeight ((choice.delta.toolCalls.take 1).map ToolCallResponse.call) := by
        simp [AssistantMessage.weight]
      rw [total, join_weight, first]
      by_cases noPieces : NoPieces (begunAfter 0 (choice.delta.toolCalls.take 1)) (choice.delta.toolCalls.drop 1)
      · have less := partly fun oneVoice => lossy ⟨noPieces, oneVoice⟩
        rw [alone noPieces]
        omega
      · have less := more noPieces
        have bound : (delivered choice.delta).weight ≤ (spokenMessage choice.delta).weight := by
          by_cases oneVoice : choice.delta.getReasoningContent = "" ∨ choice.delta.getContentString = ""
          · rw [whole oneVoice]
          · exact Nat.le_of_lt (partly oneVoice)
        omega
  · cases added

theorem stream_kept_iff (usage : Option Usage) (chunks : List ChatCompletionsStreamResponse) (estimatePromptTokens : Int)
    {message : AssistantMessage} (assembled : assemble {} chunks = some message) :
    reassembled (claudeEvents usage chunks (.start estimatePromptTokens)) = message ↔ KeptRun chunks (.start estimatePromptTokens) 0 0 := by
  unfold reassembled
  cases chunks with
  | nil =>
      cases assembled
      rw [claudeEvents, (finalize_silent usage _ []).1]
      exact iff_of_true rfl trivial
  | cons chunk rest =>
      obtain ⟨next, first, later⟩ := Option.bind_eq_some_iff.mp assembled
      obtain ⟨whole, partly⟩ := Following.first chunk estimatePromptTokens first
      have count : 1 ≤ (handleClaudeFormat chunk (.start estimatePromptTokens)).2.sendResponseCount := by
        rw [handled_count]
        exact Nat.le_add_left 1 _
      rw [claudeEvents, receive_append, KeptRun]
      by_cases kept : ChunkKept chunk (receive chunk (.start estimatePromptTokens)) 0 0
      · obtain ⟨same, follows⟩ := whole kept
        have rested := kept_iff usage rest count follows (by rw [same]; exact later)
        have begun := begun_by first
        rw [rested, same, begun]
        exact (and_iff_right kept).symm
      · refine iff_of_false (fun same => ?_) (fun both => kept both.1)
        have short := short_run usage rest count (partly kept) later
        rw [same] at short
        omega

end Runs

section Claim

variable {Params : Type} (unmarshal : String → Option Params)

def messageToolUses (message : AssistantMessage) : List (String × String × ToolInput Params) :=
  message.toolCalls.map fun toolUse => (toolUse.id, toolUse.name, toolInput unmarshal toolUse.arguments)

-- The whole response has text or tool uses, by the finish reason alone.
def WholeKept (message : AssistantMessage) (finishReason : String) : Prop :=
  if finishReason = "tool_calls" then message.text = "" else message.toolCalls = []

theorem whole_kept_iff (message : AssistantMessage) (finishReason : String) :
    wholeText (responseOpenAI2Claude unmarshal [⟨message, finishReason⟩]).1 = message.text ∧
        wholeToolUses (responseOpenAI2Claude unmarshal [⟨message, finishReason⟩]).1 = messageToolUses unmarshal message ↔
      WholeKept message finishReason := by
  have noText : ∀ calls : List ToolCall,
      wholeText (calls.map fun toolUse => (.toolUse toolUse.id toolUse.name (toolInput unmarshal toolUse.arguments) : WholeBlock Params)) = "" := by
    intro calls
    induction calls with
    | nil => rfl
    | cons call rest ih => exact ih
  have uses : ∀ calls : List ToolCall,
      wholeToolUses (calls.map fun toolUse => (.toolUse toolUse.id toolUse.name (toolInput unmarshal toolUse.arguments) : WholeBlock Params)) =
        calls.map fun toolUse => (toolUse.id, toolUse.name, toolInput unmarshal toolUse.arguments) := by
    intro calls
    induction calls with
    | nil => rfl
    | cons call rest ih => rw [List.map_cons, wholeToolUses, ih, List.map_cons]
  unfold responseOpenAI2Claude choiceContents WholeKept messageToolUses
  by_cases calls : finishReason = "tool_calls"
  · simp only [calls, if_true, List.flatMap_cons, List.flatMap_nil, List.append_nil]
    rw [noText, uses]
    exact ⟨fun both => both.1.symm, fun none => ⟨none.symm, rfl⟩⟩
  · simp only [calls, if_false, List.flatMap_cons, List.flatMap_nil, List.append_nil]
    refine ⟨fun both => ?_, fun none => ⟨by simp [wholeText], by simp [wholeToolUses, none]⟩⟩
    exact List.map_eq_nil_iff.mp both.2.symm

-- A client gets the message from the stream and from the whole response.
def ContentKept (usage : Option Usage) (chunks : List ChatCompletionsStreamResponse) (estimatePromptTokens : Int) (message : AssistantMessage)
    (finishReason : String) : Prop :=
  reassembled (claudeEvents usage chunks (.start estimatePromptTokens)) = message ∧
    wholeText (responseOpenAI2Claude unmarshal [⟨message, finishReason⟩]).1 = message.text ∧
    wholeToolUses (responseOpenAI2Claude unmarshal [⟨message, finishReason⟩]).1 = messageToolUses unmarshal message

theorem content_kept_iff (usage : Option Usage) (chunks : List ChatCompletionsStreamResponse) (estimatePromptTokens : Int)
    (message : AssistantMessage) (finishReason : String) (assembled : assemble {} chunks = some message) :
    ContentKept unmarshal usage chunks estimatePromptTokens message finishReason ↔
      KeptRun chunks (.start estimatePromptTokens) 0 0 ∧ WholeKept message finishReason :=
  and_congr (stream_kept_iff usage chunks estimatePromptTokens assembled) (whole_kept_iff unmarshal message finishReason)

end Claim

-- A call with its arguments in two chunks, and text that shares a chunk with a call.
def splitCall : List ChatCompletionsStreamResponse :=
  [{ choices := [{ delta := { content := some "Looking." } }] },
    { choices := [{ delta := { toolCalls := [{ index := some 0, id := "a", name := "f", arguments := "\x7b" }] } }] },
    { choices := [{ delta := { toolCalls := [{ index := some 0, arguments := "\x7d" }] }, finishReason := some "tool_calls" }] }]

theorem split_call_streams :
    reassembled (claudeEvents none splitCall (.start 0)) = ⟨"", "Looking.", [⟨"a", "f", "{}"⟩]⟩ ∧
      (ContentKept (fun _ => (none : Option Unit)) none splitCall 0 ⟨"", "Looking.", [⟨"a", "f", "{}"⟩]⟩ "tool_calls" ↔
        KeptRun splitCall (.start 0) 0 0 ∧ WholeKept ⟨"", "Looking.", [⟨"a", "f", "{}"⟩]⟩ "tool_calls") :=
  ⟨by decide +kernel, content_kept_iff _ none splitCall 0 _ "tool_calls" (by decide +kernel)⟩

def sharedChunk : List ChatCompletionsStreamResponse :=
  [{}, { choices := [{ delta := { content := some "Looking.", toolCalls := [{ index := some 0, id := "a", name := "f", arguments := "{}" }] } }] }]

theorem shared_chunk_loses_text :
    assemble {} sharedChunk = some ⟨"", "Looking.", [⟨"a", "f", "{}"⟩]⟩ ∧
      ¬ ContentKept (fun _ => (none : Option Unit)) none sharedChunk 0 ⟨"", "Looking.", [⟨"a", "f", "{}"⟩]⟩ "stop" ∧
      wholeToolUses (responseOpenAI2Claude (fun _ => (none : Option Unit)) [⟨⟨"", "Looking.", [⟨"a", "f", "{}"⟩]⟩, "stop"⟩]).1 = [] := by
  refine ⟨by decide +kernel, fun kept => ?_, rfl⟩
  exact absurd kept.1 (by decide +kernel)

end CodeGo.Translation
