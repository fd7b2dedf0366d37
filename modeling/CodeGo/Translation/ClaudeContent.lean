import CodeGo.Translation.ClaudeStream
import Mathlib.Data.String.Basic
import Mathlib.Tactic.SplitIfs
import Mathlib.Algebra.Ring.Nat

set_option autoImplicit false

namespace CodeGo.Translation

/- What of an assistant message reaches a client of the Claude protocol: from the events of the
   stream, and from the whole response. -/

structure ToolCall where
  id : String := ""
  name : String := ""
  arguments : String := ""
deriving DecidableEq, Repr

structure AssistantMessage where
  reasoning : String := ""
  text : String := ""
  toolCalls : List ToolCall := []
deriving DecidableEq, Repr

-- The pieces of a tool call as a chat client puts them together: the first one of an index has
-- the id and the name, and the indexes begin in order.
def addPiece (calls : List ToolCall) (piece : ToolCallResponse) : Option (List ToolCall) :=
  if piece.index = some (calls.length : Int) then some (calls ++ [⟨piece.id, piece.name, piece.arguments⟩])
  else
    match piece.index with
    | none => none
    | some index =>
        if 0 ≤ index ∧ index < calls.length ∧ piece.id = "" ∧ piece.name = "" then
          some (calls.modify index.toNat fun call => { call with arguments := call.arguments ++ piece.arguments })
        else none

def addPieces : List ToolCall → List ToolCallResponse → Option (List ToolCall)
  | calls, [] => some calls
  | calls, piece :: rest => (addPiece calls piece).bind fun next => addPieces next rest

def addDelta (message : AssistantMessage) (delta : Delta) : Option AssistantMessage :=
  (addPieces message.toolCalls delta.toolCalls).map fun calls =>
    { reasoning := message.reasoning ++ delta.getReasoningContent, text := message.text ++ delta.getContentString, toolCalls := calls }

def addChunk (message : AssistantMessage) (chunk : ChatCompletionsStreamResponse) : Option AssistantMessage :=
  match chunk.choices with
  | [] => some message
  | [choice] => addDelta message choice.delta
  | _ => none

-- The message whose chunks these are.
def assemble : AssistantMessage → List ChatCompletionsStreamResponse → Option AssistantMessage
  | message, [] => some message
  | message, chunk :: rest => (addChunk message chunk).bind fun next => assemble next rest

inductive ClientBlock where
  | text (text : String)
  | thinking (thinking : String)
  | toolUse (call : ToolCall)
deriving DecidableEq, Repr

def ContentBlock.blank : ContentBlock → ClientBlock
  | .text => .text ""
  | .thinking => .thinking ""
  | .toolUse id name => .toolUse ⟨id, name, ""⟩

def ClientBlock.add : ClientBlock → ContentDelta → ClientBlock
  | .text said, .textDelta more => .text (said ++ more)
  | .thinking thought, .thinkingDelta more => .thinking (thought ++ more)
  | .toolUse call, .inputJsonDelta more => .toolUse { call with arguments := call.arguments ++ more }
  | block, _ => block

def addAt (index : Int) (delta : ContentDelta) : List (Int × ClientBlock) → List (Int × ClientBlock)
  | [] => []
  | block :: rest => if block.1 = index then (block.1, block.2.add delta) :: rest else block :: addAt index delta rest

-- A client keeps its blocks by index and ignores a delta for an index it has no block of.
def receiveEvent (blocks : List (Int × ClientBlock)) : ClaudeResponse → List (Int × ClientBlock)
  | .contentBlockStart index block => blocks.filter (fun other => other.1 ≠ index) ++ [(index, block.blank)]
  | .contentBlockDelta index delta => addAt index delta blocks
  | _ => blocks

def receiveEvents (blocks : List (Int × ClientBlock)) (events : List ClaudeResponse) : List (Int × ClientBlock) := events.foldl receiveEvent blocks

def AssistantMessage.join (first second : AssistantMessage) : AssistantMessage :=
  { reasoning := first.reasoning ++ second.reasoning, text := first.text ++ second.text, toolCalls := first.toolCalls ++ second.toolCalls }

def ClientBlock.message : ClientBlock → AssistantMessage
  | .text said => { text := said }
  | .thinking thought => { reasoning := thought }
  | .toolUse call => { toolCalls := [call] }

def contents : List (Int × ClientBlock) → AssistantMessage
  | [] => {}
  | block :: rest => block.2.message.join (contents rest)

def reassembled (events : List ClaudeResponse) : AssistantMessage := contents (receiveEvents [] events)

-- The input of a tool use is the object its arguments decode to, or else the arguments.
inductive ToolInput (Params : Type) where
  | params (params : Params)
  | raw (arguments : String)
deriving DecidableEq, Repr

inductive WholeBlock (Params : Type) where
  | text (text : String)
  | toolUse (id name : String) (input : ToolInput Params)
deriving DecidableEq, Repr

structure WholeChoice where
  message : AssistantMessage
  finishReason : String
deriving DecidableEq, Repr

section Whole

variable {Params : Type} (unmarshal : String → Option Params)

def toolInput (arguments : String) : ToolInput Params :=
  match unmarshal arguments with
  | some params => .params params
  | none => .raw arguments

def choiceContents (choice : WholeChoice) : List (WholeBlock Params) :=
  if choice.finishReason = "tool_calls" then
    choice.message.toolCalls.map fun toolUse => .toolUse toolUse.id toolUse.name (toolInput unmarshal toolUse.arguments)
  else [.text choice.message.text]

def responseOpenAI2Claude (choices : List WholeChoice) : List (WholeBlock Params) × String :=
  (choices.flatMap (choiceContents unmarshal),
    choices.foldl (fun _ choice => openAIFinishReasonToClaudeStopReason choice.finishReason) "")

def wholeText : List (WholeBlock Params) → String
  | [] => ""
  | .text text :: rest => text ++ wholeText rest
  | _ :: rest => wholeText rest

def wholeToolUses : List (WholeBlock Params) → List (String × String × ToolInput Params)
  | [] => []
  | .toolUse id name input :: rest => (id, name, input) :: wholeToolUses rest
  | _ :: rest => wholeToolUses rest

end Whole

-- No piece that would begin a call or add to its arguments.
def NoPieces (begun : Nat) (pieces : List ToolCallResponse) : Prop := ∀ piece ∈ pieces, piece.index ≠ some (begun : Int) ∧ piece.arguments = ""

-- A call that begins has a name, and arguments that follow belong to a call begun in this run.
def PiecesKept (runFrom : Nat) : Nat → List ToolCallResponse → Prop
  | _, [] => True
  | begun, piece :: rest =>
      if piece.index = some (begun : Int) then piece.name ≠ "" ∧ PiecesKept runFrom (begun + 1) rest
      else (piece.arguments ≠ "" → ∀ index, piece.index = some index → (runFrom : Int) ≤ index) ∧ PiecesKept runFrom begun rest

def begunAfter : Nat → List ToolCallResponse → Nat
  | begun, [] => begun
  | begun, piece :: rest => if piece.index = some (begun : Int) then begunAfter (begun + 1) rest else begunAfter begun rest

def runFromOf (claude : ClaudeConvertInfo) (begun runFrom : Nat) : Nat := if claude.lastMessagesType = .tools then runFrom else begun

def FirstKept (delta : Delta) : Prop :=
  NoPieces (begunAfter 0 (delta.toolCalls.take 1)) (delta.toolCalls.drop 1) ∧ (delta.getReasoningContent = "" ∨ delta.getContentString = "")

def LaterKept (delta : Delta) (claude : ClaudeConvertInfo) (begun runFrom : Nat) : Prop :=
  if delta.toolCalls ≠ [] then
    PiecesKept (runFromOf claude begun runFrom) begun delta.toolCalls ∧ delta.getReasoningContent = "" ∧ delta.getContentString = ""
  else delta.getReasoningContent = "" ∨ delta.getContentString = ""

def Silent (delta : Delta) (begun : Nat) : Prop :=
  NoPieces begun delta.toolCalls ∧ delta.getReasoningContent = "" ∧ delta.getContentString = ""

def DeltaKept (delta : Delta) (info : RelayInfo) (begun runFrom : Nat) : Prop :=
  if info.claude.done = true then Silent delta begun
  else if info.sendResponseCount = 1 then FirstKept delta
  else LaterKept delta info.claude begun runFrom

def ChunkKept (chunk : ChatCompletionsStreamResponse) (info : RelayInfo) (begun runFrom : Nat) : Prop :=
  ∀ choice ∈ chunk.choices, DeltaKept choice.delta info begun runFrom

def begunBy (chunk : ChatCompletionsStreamResponse) (begun : Nat) : Nat :=
  begunAfter begun (chunk.choices.flatMap fun choice => choice.delta.toolCalls)

-- The first call of the run the converter is in.
def runFromAfter (info : RelayInfo) (begun runFrom : Nat) : Nat :=
  if info.sendResponseCount = 1 then 0 else runFromOf info.claude begun runFrom

def KeptRun : List ChatCompletionsStreamResponse → RelayInfo → Nat → Nat → Prop
  | [], _, _, _ => True
  | chunk :: rest, info, begun, runFrom =>
      ChunkKept chunk (receive chunk info) begun runFrom ∧
        KeptRun rest (handleClaudeFormat chunk info).2 (begunBy chunk begun) (runFromAfter (receive chunk info) begun runFrom)

section Contents

@[simp] theorem join_empty (message : AssistantMessage) : message.join {} = message := by simp [AssistantMessage.join]

@[simp] theorem empty_join (message : AssistantMessage) : AssistantMessage.join {} message = message := by simp [AssistantMessage.join]

theorem join_assoc (first second third : AssistantMessage) : (first.join second).join third = first.join (second.join third) := by
  simp [AssistantMessage.join, String.append_assoc]

theorem contents_append (early late : List (Int × ClientBlock)) : contents (early ++ late) = (contents early).join (contents late) := by
  induction early with
  | nil => simp [contents]
  | cons block rest ih => rw [List.cons_append, contents, contents, ih, join_assoc]

-- How much a message holds: its characters, and one for each call.
def callsWeight (calls : List ToolCall) : Nat := (calls.map fun call => 1 + call.arguments.length).sum

def AssistantMessage.weight (message : AssistantMessage) : Nat :=
  message.reasoning.length + message.text.length + callsWeight message.toolCalls

theorem calls_weight_append (early late : List ToolCall) : callsWeight (early ++ late) = callsWeight early + callsWeight late := by
  simp [callsWeight]

theorem join_weight (first second : AssistantMessage) : (first.join second).weight = first.weight + second.weight := by
  simp only [AssistantMessage.weight, AssistantMessage.join, String.length_append, calls_weight_append]
  omega

def ContentDelta.weight : ContentDelta → Nat
  | .textDelta said => said.length
  | .thinkingDelta thought => thought.length
  | .inputJsonDelta json => json.length

def eventWeight : ClaudeResponse → Nat
  | .contentBlockStart _ (.toolUse _ _) => 1
  | .contentBlockDelta _ delta => delta.weight
  | _ => 0

def eventsWeight (events : List ClaudeResponse) : Nat := (events.map eventWeight).sum

theorem events_weight_append (early late : List ClaudeResponse) : eventsWeight (early ++ late) = eventsWeight early + eventsWeight late := by
  simp [eventsWeight]

theorem add_weight (block : ClientBlock) (delta : ContentDelta) : (block.add delta).message.weight ≤ block.message.weight + delta.weight := by
  cases block <;> cases delta <;>
    simp [ClientBlock.add, ClientBlock.message, AssistantMessage.weight, ContentDelta.weight, callsWeight, String.length_append]
  omega

theorem add_at_weight (index : Int) (delta : ContentDelta) (blocks : List (Int × ClientBlock)) :
    (contents (addAt index delta blocks)).weight ≤ (contents blocks).weight + delta.weight := by
  induction blocks with
  | nil => simp [addAt]
  | cons block rest ih =>
      unfold addAt
      split
      · have added := add_weight block.2 delta
        simp only [contents, join_weight]
        omega
      · simp only [contents, join_weight]
        omega

theorem filter_weight (keep : Int × ClientBlock → Bool) (blocks : List (Int × ClientBlock)) :
    (contents (blocks.filter keep)).weight ≤ (contents blocks).weight := by
  induction blocks with
  | nil => simp
  | cons block rest ih =>
      rw [List.filter_cons]
      split
      · simp only [contents, join_weight]
        omega
      · simp only [contents, join_weight]
        omega

theorem event_weight (blocks : List (Int × ClientBlock)) (event : ClaudeResponse) :
    (contents (receiveEvent blocks event)).weight ≤ (contents blocks).weight + eventWeight event := by
  cases event with
  | contentBlockStart index block =>
      have kept := filter_weight (fun other => decide (other.1 ≠ index)) blocks
      simp only [receiveEvent, contents_append, join_weight, contents, join_empty]
      cases block <;>
        simp only [ContentBlock.blank, ClientBlock.message, AssistantMessage.weight, callsWeight, eventWeight, String.length_empty, List.map_cons,
          List.map_nil, List.sum_cons, List.sum_nil] <;>
        simp only [AssistantMessage.weight, callsWeight] at kept <;> omega
  | contentBlockDelta index delta => exact add_at_weight index delta blocks
  | messageStart id model tokens => exact Nat.le_add_right _ _
  | contentBlockStop index => exact Nat.le_add_right _ _
  | messageDelta stopReason usage => exact Nat.le_add_right _ _
  | messageStop => exact Nat.le_add_right _ _

@[simp] theorem receive_nil (blocks : List (Int × ClientBlock)) : receiveEvents blocks [] = blocks := rfl

theorem receive_cons (blocks : List (Int × ClientBlock)) (event : ClaudeResponse) (rest : List ClaudeResponse) :
    receiveEvents blocks (event :: rest) = receiveEvents (receiveEvent blocks event) rest := rfl

theorem receive_append (blocks : List (Int × ClientBlock)) (early late : List ClaudeResponse) :
    receiveEvents blocks (early ++ late) = receiveEvents (receiveEvents blocks early) late := by simp [receiveEvents]

theorem events_weight (blocks : List (Int × ClientBlock)) (events : List ClaudeResponse) :
    (contents (receiveEvents blocks events)).weight ≤ (contents blocks).weight + eventsWeight events := by
  induction events generalizing blocks with
  | nil => simp [eventsWeight]
  | cons event rest ih =>
      have first := event_weight blocks event
      have later := ih (receiveEvent blocks event)
      have sum : eventsWeight (event :: rest) = eventWeight event + eventsWeight rest := by simp [eventsWeight]
      rw [receive_cons, sum]
      omega

end Contents

section Blocks

theorem add_at_absent (index : Int) (delta : ContentDelta) (blocks : List (Int × ClientBlock)) (absent : ∀ block ∈ blocks, block.1 ≠ index) :
    addAt index delta blocks = blocks := by
  induction blocks with
  | nil => rfl
  | cons block rest ih =>
      rw [addAt, if_neg (absent block (by simp)), ih fun other member => absent other (by simp [member])]

theorem add_at_append (index : Int) (delta : ContentDelta) (early late : List (Int × ClientBlock)) (absent : ∀ block ∈ early, block.1 ≠ index) :
    addAt index delta (early ++ late) = early ++ addAt index delta late := by
  induction early with
  | nil => rfl
  | cons block rest ih =>
      rw [List.cons_append, addAt, if_neg (absent block (by simp)), ih fun other member => absent other (by simp [member])]
      rfl

theorem start_fresh (index : Int) (block : ContentBlock) (blocks : List (Int × ClientBlock)) (absent : ∀ other ∈ blocks, other.1 ≠ index) :
    receiveEvent blocks (.contentBlockStart index block) = blocks ++ [(index, block.blank)] := by
  have kept : blocks.filter (fun other => decide (other.1 ≠ index)) = blocks := by
    rw [List.filter_eq_self]
    intro other member
    simpa using absent other member
  simp only [receiveEvent]
  rw [kept]

def runBlocks (base : Int) : List ToolCall → List (Int × ClientBlock)
  | [] => []
  | call :: rest => (base, .toolUse call) :: runBlocks (base + 1) rest

theorem run_blocks_snoc (base : Int) (calls : List ToolCall) (call : ToolCall) :
    runBlocks base (calls ++ [call]) = runBlocks base calls ++ [(base + calls.length, .toolUse call)] := by
  induction calls generalizing base with
  | nil => simp [runBlocks]
  | cons first rest ih =>
      rw [List.cons_append, runBlocks, runBlocks, ih, List.cons_append, List.length_cons]
      congr 4
      push_cast
      omega

theorem run_blocks_keys (base : Int) (calls : List ToolCall) (block : Int × ClientBlock) (member : block ∈ runBlocks base calls) :
    base ≤ block.1 ∧ block.1 < base + calls.length := by
  induction calls generalizing base with
  | nil => simp [runBlocks] at member
  | cons call rest ih =>
      rw [runBlocks, List.mem_cons] at member
      rw [List.length_cons]
      push_cast
      rcases member with rfl | later
      · dsimp only
        omega
      · have bounds := ih (base + 1) later
        omega

theorem run_blocks_contents (base : Int) (calls : List ToolCall) : contents (runBlocks base calls) = { toolCalls := calls } := by
  induction calls generalizing base with
  | nil => rfl
  | cons call rest ih =>
      rw [runBlocks, contents, ih]
      simp [ClientBlock.message, AssistantMessage.join]

def ToolCall.extend (more : String) (call : ToolCall) : ToolCall := { call with arguments := call.arguments ++ more }

theorem add_at_run (base : Int) (calls : List ToolCall) (position : Nat) (within : position < calls.length) (more : String) :
    addAt (base + position) (.inputJsonDelta more) (runBlocks base calls) = runBlocks base (calls.modify position (ToolCall.extend more)) := by
  induction calls generalizing base position with
  | nil => simp at within
  | cons call rest ih =>
      cases position with
      | zero =>
          rw [runBlocks, addAt, if_pos (by simp)]
          rfl
      | succ position =>
          have shifted : base + ((position + 1 : Nat) : Int) = base + 1 + (position : Int) := by
            push_cast
            omega
          rw [runBlocks, addAt, if_neg (by dsimp only; omega), shifted, ih (base + 1) position (by simpa using within), List.modify_succ_cons]
          rfl

theorem modify_late (old recent : List ToolCall) (position : Nat) (more : String) :
    (old ++ recent).modify (old.length + position) (ToolCall.extend more) = old ++ recent.modify position (ToolCall.extend more) := by
  induction old with
  | nil => simp
  | cons call rest ih =>
      have shifted : (call :: rest).length + position = rest.length + position + 1 := by
        rw [List.length_cons]
        omega
      rw [shifted, List.cons_append, List.modify_succ_cons, ih]
      rfl

theorem modify_weight (calls : List ToolCall) (position : Nat) (within : position < calls.length) (more : String) :
    callsWeight (calls.modify position (ToolCall.extend more)) = callsWeight calls + more.length := by
  induction calls generalizing position with
  | nil => simp at within
  | cons call rest ih =>
      cases position with
      | zero =>
          simp only [callsWeight, List.modify_zero_cons, List.map_cons, List.sum_cons, ToolCall.extend, String.length_append]
          omega
      | succ position =>
          have later := ih position (by simpa using within)
          simp only [callsWeight, List.modify_succ_cons, List.map_cons, List.sum_cons] at later ⊢
          omega

end Blocks

section Pieces

-- A piece begins the next call or adds to the arguments of one that has begun.
theorem add_piece_cases {calls next : List ToolCall} {piece : ToolCallResponse} (added : addPiece calls piece = some next) :
    (piece.index = some (calls.length : Int) ∧ next = calls ++ [⟨piece.id, piece.name, piece.arguments⟩]) ∨
      ∃ position : Nat, position < calls.length ∧ piece.index = some (position : Int) ∧ piece.name = "" ∧
        next = calls.modify position (ToolCall.extend piece.arguments) := by
  unfold addPiece at added
  split_ifs at added with begins
  · exact .inl ⟨begins, (Option.some.inj added).symm⟩
  · cases index : piece.index with
    | none => simp [index] at added
    | some position =>
        simp only [index] at added
        split_ifs at added with follows
        obtain ⟨positive, within, _, unnamed⟩ := follows
        refine .inr ⟨position.toNat, by omega, ?_, unnamed, (Option.some.inj added).symm⟩
        rw [Int.toNat_of_nonneg positive]

def pieceOffset (piece : ToolCallResponse) : Int × ToolCallResponse := (piece.index.getD 0, piece)

theorem tool_offsets_indexed (pieces : List ToolCallResponse) (indexed : ∀ piece ∈ pieces, piece.index.isSome) :
    toolOffsets pieces = pieces.map pieceOffset := by
  unfold toolOffsets
  have general : ∀ (rest : List ToolCallResponse) (start : Nat), (∀ piece ∈ rest, piece.index.isSome) →
      (rest.zipIdx start).map (fun entry => ((entry.1.index.getD entry.2 : Int), entry.1)) = rest.map pieceOffset := by
    intro rest
    induction rest with
    | nil => intros; rfl
    | cons piece rest ih =>
        intro start all
        obtain ⟨index, given⟩ := Option.isSome_iff_exists.mp (all piece (by simp))
        simp only [List.zipIdx_cons, List.map_cons, pieceOffset, given, Option.getD_some]
        rw [ih (start + 1) fun other member => all other (by simp [member])]
  exact general pieces 0 indexed

theorem pieces_indexed {calls next : List ToolCall} {pieces : List ToolCallResponse} (added : addPieces calls pieces = some next) :
    ∀ piece ∈ pieces, piece.index.isSome := by
  induction pieces generalizing calls with
  | nil => simp
  | cons piece rest ih =>
      obtain ⟨middle, first, later⟩ := Option.bind_eq_some_iff.mp added
      intro other member
      rcases List.mem_cons.mp member with rfl | member
      · rcases add_piece_cases first with ⟨index, _⟩ | ⟨position, _, index, _⟩ <;> simp [index]
      · exact ih later other member

variable (base : Int)

def pieceEvents (pieces : List ToolCallResponse) : List ClaudeResponse := (pieces.map pieceOffset).flatMap (toolCallEvents base)

theorem arguments_weight (index : Int) (piece : ToolCallResponse) : eventsWeight (argumentsDelta index piece) = piece.arguments.length := by
  unfold argumentsDelta
  split_ifs with spoken
  · simp [eventsWeight, eventWeight, ContentDelta.weight]
  · rw [not_not.mp spoken]
    rfl

theorem piece_weight {calls next : List ToolCall} {piece : ToolCallResponse} (added : addPiece calls piece = some next) :
    eventsWeight (toolCallEvents base (pieceOffset piece)) + callsWeight calls ≤ callsWeight next := by
  unfold toolCallEvents pieceOffset
  rw [events_weight_append, arguments_weight]
  rcases add_piece_cases added with ⟨_, rfl⟩ | ⟨position, within, _, unnamed, rfl⟩
  · rw [calls_weight_append]
    have one : eventsWeight (if piece.name ≠ "" then
        [ClaudeResponse.contentBlockStart (base + piece.index.getD 0) (.toolUse piece.id piece.name)] else []) ≤ 1 := by
      split_ifs <;> simp [eventsWeight, eventWeight]
    simp only [callsWeight, List.map_cons, List.map_nil, List.sum_cons, List.sum_nil]
    omega
  · rw [modify_weight _ _ within]
    simp [unnamed, eventsWeight]
    omega

theorem pieces_weight {calls next : List ToolCall} {pieces : List ToolCallResponse} (added : addPieces calls pieces = some next) :
    eventsWeight (pieceEvents base pieces) + callsWeight calls ≤ callsWeight next := by
  induction pieces generalizing calls with
  | nil =>
      cases added
      simp [pieceEvents, eventsWeight]
  | cons piece rest ih =>
      obtain ⟨middle, first, later⟩ := Option.bind_eq_some_iff.mp added
      have head := piece_weight base first
      have tail := ih later
      have split : pieceEvents base (piece :: rest) = toolCallEvents base (pieceOffset piece) ++ pieceEvents base rest := rfl
      rw [split, events_weight_append]
      omega

-- The blocks of the current run come last, one for each call begun in it.
def Running (runFrom : Nat) (blocks : List (Int × ClientBlock)) : Prop :=
  ∃ earlier recent, blocks = earlier ++ runBlocks (base + runFrom) recent ∧ (contents earlier).toolCalls.length = runFrom ∧
    ∀ block ∈ earlier, block.1 < base

variable {base} {runFrom : Nat} {blocks : List (Int × ClientBlock)}

theorem receive_arguments (index : Int) (piece : ToolCallResponse) (absent : ∀ block ∈ blocks, block.1 ≠ index) :
    receiveEvents blocks (argumentsDelta index piece) = blocks := by
  unfold argumentsDelta
  split_ifs
  · exact add_at_absent index _ blocks absent
  · rfl

theorem receive_arguments_run (earlier : List (Int × ClientBlock)) (start : Int) (calls : List ToolCall) (position : Nat)
    (within : position < calls.length) (piece : ToolCallResponse) (apart : ∀ block ∈ earlier, block.1 < start) :
    receiveEvents (earlier ++ runBlocks start calls) (argumentsDelta (start + position) piece) =
      earlier ++ runBlocks start (calls.modify position (ToolCall.extend piece.arguments)) := by
  unfold argumentsDelta
  split_ifs with spoken
  · have absent : ∀ block ∈ earlier, block.1 ≠ start + position := by
      intro block member
      have less := apart block member
      omega
    rw [receive_cons, receive_nil]
    simp only [receiveEvent]
    rw [add_at_append _ _ _ _ absent, add_at_run start calls position within]
  · have silent : ToolCall.extend piece.arguments = id := by
      funext call
      simp [ToolCall.extend, not_not.mp spoken]
    rw [silent, List.modify_id]
    rfl

theorem Running.calls {earlier : List (Int × ClientBlock)} {recent : List ToolCall} (shape : blocks = earlier ++ runBlocks (base + runFrom) recent) :
    contents blocks = (contents earlier).join { toolCalls := recent } := by
  rw [shape, contents_append, run_blocks_contents]

-- A named piece starts the block of the next call, with its arguments.
theorem Running.begins (running : Running base runFrom blocks) (piece : ToolCallResponse) (named : piece.name ≠ "")
    (index : piece.index = some ((contents blocks).toolCalls.length : Int)) :
    Running base runFrom (receiveEvents blocks (toolCallEvents base (pieceOffset piece))) ∧
      contents (receiveEvents blocks (toolCallEvents base (pieceOffset piece))) =
        (contents blocks).join { toolCalls := [⟨piece.id, piece.name, piece.arguments⟩] } ∧
      ∀ block ∈ receiveEvents blocks (toolCallEvents base (pieceOffset piece)),
        (∃ other ∈ blocks, block.1 = other.1) ∨ block.1 = base + (contents blocks).toolCalls.length := by
  obtain ⟨earlier, recent, shape, old, apart⟩ := running
  have whole := Running.calls shape
  have count : (contents blocks).toolCalls.length = runFrom + recent.length := by
    rw [whole]
    simp [AssistantMessage.join, old]
  have place : base + (((contents blocks).toolCalls.length : Nat) : Int) = base + runFrom + recent.length := by
    rw [count]
    push_cast
    omega
  have fresh : ∀ other ∈ blocks, other.1 ≠ base + runFrom + recent.length := by
    intro other member
    rw [shape, List.mem_append] at member
    rcases member with before | within
    · have less := apart other before
      omega
    · have bounds := run_blocks_keys _ _ other within
      omega
  have after : receiveEvents blocks (toolCallEvents base (pieceOffset piece)) =
      earlier ++ runBlocks (base + runFrom) (recent ++ [⟨piece.id, piece.name, piece.arguments⟩]) := by
    unfold toolCallEvents pieceOffset
    rw [index, Option.getD_some, if_pos named, place, receive_append, receive_cons, receive_nil, start_fresh _ _ _ fresh, shape]
    have grown := run_blocks_snoc (base + runFrom) recent ⟨piece.id, piece.name, ""⟩
    rw [List.append_assoc]
    have begun : ContentBlock.blank (.toolUse piece.id piece.name) = .toolUse ⟨piece.id, piece.name, ""⟩ := rfl
    rw [begun, ← grown, receive_arguments_run earlier (base + runFrom) _ recent.length (by simp) piece
      (fun block member => by
        have less := apart block member
        omega)]
    have last : (recent ++ [(⟨piece.id, piece.name, ""⟩ : ToolCall)]).modify recent.length (ToolCall.extend piece.arguments) =
        recent ++ [⟨piece.id, piece.name, piece.arguments⟩] := by
      have late := modify_late recent [⟨piece.id, piece.name, ""⟩] 0 piece.arguments
      simpa [ToolCall.extend] using late
    rw [last]
  refine ⟨⟨earlier, _, after, old, apart⟩, ?_, fun block member => ?_⟩
  · rw [Running.calls after, whole, join_assoc]
    simp [AssistantMessage.join]
  · rw [after, run_blocks_snoc, ← List.append_assoc, List.mem_append, ← shape] at member
    rcases member with before | new
    · exact .inl ⟨block, before, rfl⟩
    · right
      rw [List.mem_singleton.mp new, place]

-- Arguments of a call of this run reach its block.
theorem Running.follows (running : Running base runFrom blocks) (piece : ToolCallResponse) (unnamed : piece.name = "") (position : Nat)
    (within : position < (contents blocks).toolCalls.length) (recent : runFrom ≤ position) (index : piece.index = some (position : Int)) :
    Running base runFrom (receiveEvents blocks (toolCallEvents base (pieceOffset piece))) ∧
      contents (receiveEvents blocks (toolCallEvents base (pieceOffset piece))) =
        { contents blocks with toolCalls := (contents blocks).toolCalls.modify position (ToolCall.extend piece.arguments) } ∧
      ∀ block ∈ receiveEvents blocks (toolCallEvents base (pieceOffset piece)), ∃ other ∈ blocks, block.1 = other.1 := by
  obtain ⟨earlier, calls, shape, old, apart⟩ := running
  have whole := Running.calls shape
  have count : (contents blocks).toolCalls.length = runFrom + calls.length := by
    rw [whole]
    simp [AssistantMessage.join, old]
  obtain ⟨offset, rfl⟩ := Nat.exists_eq_add_of_le recent
  have after : receiveEvents blocks (toolCallEvents base (pieceOffset piece)) =
      earlier ++ runBlocks (base + runFrom) (calls.modify offset (ToolCall.extend piece.arguments)) := by
    unfold toolCallEvents pieceOffset
    rw [index, Option.getD_some, if_neg (by simp [unnamed]), List.nil_append, shape]
    have place : base + ((runFrom + offset : Nat) : Int) = base + runFrom + offset := by
      push_cast
      omega
    rw [place]
    exact receive_arguments_run earlier (base + runFrom) calls offset (by omega) piece (fun block member => by
      have less := apart block member
      omega)
  refine ⟨⟨earlier, _, after, old, apart⟩, ?_, fun block member => ?_⟩
  · rw [Running.calls after, whole]
    have late := modify_late (contents earlier).toolCalls calls offset piece.arguments
    rw [old] at late
    simp [AssistantMessage.join, late]
  · rw [after, List.mem_append] at member
    rcases member with before | later
    · exact ⟨block, by rw [shape]; simp [before], rfl⟩
    · have bounds := run_blocks_keys _ _ block later
      rw [List.length_modify] at bounds
      obtain ⟨step, key⟩ : ∃ step : Nat, block.1 = base + runFrom + step := ⟨(block.1 - (base + runFrom)).toNat, by omega⟩
      have short : step < calls.length := by omega
      have keys : ∀ (start : Int) (calls : List ToolCall) (step : Nat), step < calls.length →
          ∃ other ∈ runBlocks start calls, other.1 = start + step := by
        intro start calls
        induction calls generalizing start with
        | nil => simp
        | cons call rest ih =>
            intro step short
            cases step with
            | zero => exact ⟨(start, .toolUse call), by simp [runBlocks], by simp⟩
            | succ step =>
                obtain ⟨other, member, key⟩ := ih (start + 1) step (by simpa using short)
                refine ⟨other, by simp [runBlocks, member], ?_⟩
                rw [key]
                push_cast
                omega
      obtain ⟨other, member, same⟩ := keys (base + runFrom) calls step short
      exact ⟨other, by rw [shape]; simp [member], by rw [same, key]⟩

-- Without a name the client has no block for the arguments.
theorem Running.lost (running : Running base runFrom blocks) (piece : ToolCallResponse) (unnamed : piece.name = "") (position : Nat)
    (outside : position = (contents blocks).toolCalls.length ∨ position < runFrom) (index : piece.index = some (position : Int)) :
    receiveEvents blocks (toolCallEvents base (pieceOffset piece)) = blocks := by
  obtain ⟨earlier, calls, shape, old, apart⟩ := running
  have count : (contents blocks).toolCalls.length = runFrom + calls.length := by
    rw [Running.calls shape]
    simp [AssistantMessage.join, old]
  unfold toolCallEvents pieceOffset
  rw [index, Option.getD_some, if_neg (by simp [unnamed]), List.nil_append]
  refine receive_arguments _ piece fun block member => ?_
  rw [shape, List.mem_append] at member
  rcases member with before | within
  · have less := apart block before
    omega
  · have bounds := run_blocks_keys _ _ block within
    omega

theorem extend_nothing (calls : List ToolCall) (position : Nat) : calls.modify position (ToolCall.extend "") = calls := by
  have silent : ToolCall.extend "" = id := by
    funext call
    simp [ToolCall.extend]
  rw [silent, List.modify_id]

-- What the pieces of one chunk leave behind: a kept piece arrives whole.
structure Arrived (runFrom : Nat) (base largest : Int) (before after : List (Int × ClientBlock)) (calls : List ToolCall) : Prop where
  running : Running base runFrom after
  same : contents after = { contents before with toolCalls := calls }
  below : ∀ block ∈ after, block.1 ≤ base + largest

theorem Running.kept_piece (running : Running base runFrom blocks) (piece : ToolCallResponse) {largest : Int}
    (below : ∀ block ∈ blocks, block.1 ≤ base + largest) {next : List ToolCall} (added : addPiece (contents blocks).toolCalls piece = some next)
    (kept : if piece.index = some ((contents blocks).toolCalls.length : Int) then piece.name ≠ ""
      else piece.arguments ≠ "" → ∀ index, piece.index = some index → (runFrom : Int) ≤ index) :
    Arrived runFrom base (max largest (piece.index.getD 0)) blocks (receiveEvents blocks (toolCallEvents base (pieceOffset piece))) next := by
  rcases add_piece_cases added with ⟨begins, rfl⟩ | ⟨position, within, index, unnamed, rfl⟩
  · rw [if_pos begins] at kept
    obtain ⟨next, same, keys⟩ := running.begins piece kept begins
    refine ⟨next, by rw [same]; simp [AssistantMessage.join], fun block member => ?_⟩
    rw [begins, Option.getD_some]
    rcases keys block member with ⟨other, before, key⟩ | key
    · have bound := below other before
      omega
    · omega
  · have apart : piece.index ≠ some ((contents blocks).toolCalls.length : Int) := by
      rw [index]
      simp only [ne_eq, Option.some.injEq]
      omega
    rw [if_neg apart] at kept
    by_cases recent : runFrom ≤ position
    · obtain ⟨next, same, keys⟩ := running.follows piece unnamed position within recent index
      refine ⟨next, same, fun block member => ?_⟩
      obtain ⟨other, before, key⟩ := keys block member
      have bound := below other before
      omega
    · have silent : piece.arguments = "" := by
        by_contra spoken
        have reached := kept spoken position index
        omega
      have lost := running.lost piece unnamed position (.inr (by omega)) index
      rw [lost, silent, extend_nothing]
      refine ⟨running, rfl, fun block member => ?_⟩
      have bound := below block member
      omega

theorem Running.lost_piece (running : Running base runFrom blocks) (piece : ToolCallResponse)
    {next : List ToolCall} (added : addPiece (contents blocks).toolCalls piece = some next)
    (dropped : ¬ if piece.index = some ((contents blocks).toolCalls.length : Int) then piece.name ≠ ""
      else piece.arguments ≠ "" → ∀ index, piece.index = some index → (runFrom : Int) ≤ index) :
    receiveEvents blocks (toolCallEvents base (pieceOffset piece)) = blocks ∧ callsWeight (contents blocks).toolCalls < callsWeight next := by
  rcases add_piece_cases added with ⟨begins, rfl⟩ | ⟨position, within, index, unnamed, rfl⟩
  · rw [if_pos begins, not_not] at dropped
    refine ⟨running.lost piece dropped _ (.inl rfl) begins, ?_⟩
    rw [calls_weight_append]
    simp only [callsWeight, List.map_cons, List.sum_cons]
    omega
  · have apart : piece.index ≠ some ((contents blocks).toolCalls.length : Int) := by
      rw [index]
      simp only [ne_eq, Option.some.injEq]
      omega
    rw [if_neg apart] at dropped
    push Not at dropped
    obtain ⟨spoken, position', index', early⟩ := dropped
    rw [index] at index'
    cases index'
    refine ⟨running.lost piece unnamed position (.inr (by omega)) index, ?_⟩
    rw [modify_weight _ _ within]
    have long : piece.arguments.length ≠ 0 := by
      rw [ne_eq, String.length_eq_zero_iff]
      exact spoken
    omega

theorem Running.pieces (running : Running base runFrom blocks) (pieces : List ToolCallResponse) {largest : Int}
    (below : ∀ block ∈ blocks, block.1 ≤ base + largest) {calls : List ToolCall} (added : addPieces (contents blocks).toolCalls pieces = some calls) :
    (PiecesKept runFrom (contents blocks).toolCalls.length pieces →
        Arrived runFrom base (maxOffset largest (pieces.map pieceOffset)) blocks (receiveEvents blocks (pieceEvents base pieces)) calls) ∧
      (¬ PiecesKept runFrom (contents blocks).toolCalls.length pieces →
        (contents (receiveEvents blocks (pieceEvents base pieces))).weight < AssistantMessage.weight { contents blocks with toolCalls := calls }) := by
  induction pieces generalizing blocks largest with
  | nil =>
      cases added
      exact ⟨fun _ => ⟨running, rfl, below⟩, fun dropped => (dropped trivial).elim⟩
  | cons piece rest ih =>
      obtain ⟨middle, first, later⟩ := Option.bind_eq_some_iff.mp added
      have split : receiveEvents blocks (pieceEvents base (piece :: rest)) =
          receiveEvents (receiveEvents blocks (toolCallEvents base (pieceOffset piece))) (pieceEvents base rest) := by
        rw [← receive_append]
        rfl
      have unfolded : PiecesKept runFrom (contents blocks).toolCalls.length (piece :: rest) ↔
          (if piece.index = some ((contents blocks).toolCalls.length : Int) then piece.name ≠ ""
            else piece.arguments ≠ "" → ∀ index, piece.index = some index → (runFrom : Int) ≤ index) ∧
            PiecesKept runFrom middle.length rest := by
        rw [PiecesKept]
        rcases add_piece_cases first with ⟨begins, rfl⟩ | ⟨position, within, index, _, rfl⟩
        · simp [begins]
        · have apart : piece.index ≠ some ((contents blocks).toolCalls.length : Int) := by
            rw [index]
            simp only [ne_eq, Option.some.injEq]
            omega
          rw [if_neg apart, if_neg apart, List.length_modify]
      rw [unfolded, split]
      by_cases kept : if piece.index = some ((contents blocks).toolCalls.length : Int) then piece.name ≠ ""
          else piece.arguments ≠ "" → ∀ index, piece.index = some index → (runFrom : Int) ≤ index
      · have arrived := running.kept_piece piece below first kept
        have calls_ : (contents (receiveEvents blocks (toolCallEvents base (pieceOffset piece)))).toolCalls = middle := by rw [arrived.same]
        have rested := ih arrived.running arrived.below (by rw [calls_]; exact later)
        rw [calls_, arrived.same] at rested
        refine ⟨fun both => ?_, fun dropped => ?_⟩
        · obtain ⟨next, same, bound⟩ := rested.1 both.2
          exact ⟨next, by rw [same, arrived.same], bound⟩
        · exact rested.2 fun whole => dropped ⟨kept, whole⟩
      · obtain ⟨unchanged, lighter⟩ := running.lost_piece piece first kept
        refine ⟨fun both => (kept both.1).elim, fun _ => ?_⟩
        have bound := events_weight blocks (pieceEvents base rest)
        have rested := pieces_weight base later
        rw [unchanged]
        simp only [AssistantMessage.weight] at bound ⊢
        omega

end Pieces

end CodeGo.Translation
