import CodeGo.Lib.Acceptor
import CodeGo.Translation.ClaudeStream
import Mathlib.Tactic.SplitIfs

set_option autoImplicit false

namespace CodeGo.Translation

open Acceptor

/- What a client of the Claude protocol accepts: one message_start, blocks numbered from zero in
   the order of their starts, deltas of the type of an open block, each block stopped once, then
   one message_delta and one message_stop. -/

inductive BlockKind where
  | text
  | thinking
  | toolUse
deriving DecidableEq, Repr

def ContentBlock.kind : ContentBlock → BlockKind
  | .text => .text
  | .thinking => .thinking
  | .toolUse _ _ => .toolUse

def ContentDelta.kind : ContentDelta → BlockKind
  | .textDelta _ => .text
  | .thinkingDelta _ => .thinking
  | .inputJsonDelta _ => .toolUse

inductive Phase where
  | waiting
  | streaming
  | closing
  | stopped
deriving DecidableEq, Repr

structure ClaudeClient where
  phase : Phase := .waiting
  started : Nat := 0
  openBlocks : List (Int × BlockKind) := []
deriving DecidableEq, Repr

def checkEvent (client : ClaudeClient) : ClaudeResponse → Option ClaudeClient
  | .messageStart _ _ _ => if client.phase = .waiting then some { client with phase := .streaming } else none
  | .contentBlockStart index block =>
      if client.phase = .streaming ∧ index = client.started then
        some { client with started := client.started + 1, openBlocks := client.openBlocks ++ [(index, block.kind)] }
      else none
  | .contentBlockDelta index delta =>
      if client.phase = .streaming ∧ (index, delta.kind) ∈ client.openBlocks then some client else none
  | .contentBlockStop index =>
      if client.phase = .streaming ∧ ∃ block ∈ client.openBlocks, block.1 = index then
        some { client with openBlocks := client.openBlocks.filter fun block => block.1 ≠ index }
      else none
  | .messageDelta _ _ => if client.phase = .streaming ∧ client.openBlocks = [] then some { client with phase := .closing } else none
  | .messageStop => if client.phase = .closing then some { client with phase := .stopped } else none

def WellFormed (events : List ClaudeResponse) : Prop :=
  ∃ client, scan checkEvent events {} = some client ∧ client.phase = .stopped

instance (events : List ClaudeResponse) : Decidable (WellFormed events) :=
  match ended : scan checkEvent events {} with
  | none => isFalse fun ⟨_, accepted, _⟩ => by rw [ended] at accepted; cases accepted
  | some client =>
      if stopped : client.phase = .stopped then isTrue ⟨client, ended, stopped⟩
      else isFalse fun ⟨_, accepted, same⟩ => by
        rw [ended] at accepted
        cases accepted
        exact stopped same

def startedBy (started : Nat) (call : Int × ToolCallResponse) : Nat := if call.2.name ≠ "" then started + 1 else started

def startedAfter (started : Nat) (calls : List (Int × ToolCallResponse)) : Nat := calls.foldl startedBy started

-- The names come at the offsets 0, 1, 2, ... of the run, and arguments only after their name.
def NamedInOrder : Nat → List (Int × ToolCallResponse) → Prop
  | _, [] => True
  | started, call :: rest =>
      (call.2.name ≠ "" → call.1 = started) ∧ (call.2.arguments ≠ "" → 0 ≤ call.1 ∧ call.1 < startedBy started call) ∧
        NamedInOrder (startedBy started call) rest

instance decidableNamedInOrder : (started : Nat) → (calls : List (Int × ToolCallResponse)) → Decidable (NamedInOrder started calls)
  | _, [] => isTrue trivial
  | started, call :: rest =>
      have := decidableNamedInOrder (startedBy started call) rest
      inferInstanceAs (Decidable (_ ∧ _ ∧ _))

-- At its end a run has named every offset up to the largest one it mentioned.
def RunEnded (claude : ClaudeConvertInfo) (started : Nat) : Prop :=
  claude.lastMessagesType = .tools → (started : Int) = claude.toolCallMaxIndexOffset + 1

instance (claude : ClaudeConvertInfo) (started : Nat) : Decidable (RunEnded claude started) := inferInstanceAs (Decidable (_ → _))

def runStarted (claude : ClaudeConvertInfo) (started : Nat) : Nat := if claude.lastMessagesType = .tools then started else 0

def DeltaTidy (delta : Delta) (claude : ClaudeConvertInfo) (started : Nat) : Prop :=
  if delta.toolCalls ≠ [] then NamedInOrder (runStarted claude started) (toolOffsets delta.toolCalls)
  else delta.getReasoningContent ≠ "" ∨ delta.getContentString ≠ "" → RunEnded claude started

instance (delta : Delta) (claude : ClaudeConvertInfo) (started : Nat) : Decidable (DeltaTidy delta claude started) :=
  if calls : delta.toolCalls ≠ [] then
    decidable_of_iff (NamedInOrder (runStarted claude started) (toolOffsets delta.toolCalls)) (by rw [DeltaTidy, if_pos calls])
  else
    decidable_of_iff (delta.getReasoningContent ≠ "" ∨ delta.getContentString ≠ "" → RunEnded claude started)
      (by rw [DeltaTidy, if_neg calls])

def startedByDelta (delta : Delta) (claude : ClaudeConvertInfo) (started : Nat) : Nat :=
  if delta.toolCalls ≠ [] then startedAfter (runStarted claude started) (toolOffsets delta.toolCalls)
  else if delta.getReasoningContent ≠ "" ∨ delta.getContentString ≠ "" then 0
  else started

-- The tool calls the blocks of the current run stand for, after the first chunk.
def startedByFirst (chunk : ChatCompletionsStreamResponse) : Nat :=
  match chunk.choices with
  | [] => 0
  | choice :: _ =>
      if choice.delta.getReasoningContent ≠ "" ∨ choice.delta.getContentString ≠ "" then 0
      else if choice.delta.toolCalls ≠ [] then 1
      else 0

def ChunkTidy (chunk : ChatCompletionsStreamResponse) (info : RelayInfo) (started : Nat) : Prop :=
  match chunk.choices with
  | [] => (chunk.usage.or info.claude.usage).isSome → RunEnded info.claude started
  | choice :: _ =>
      DeltaTidy choice.delta info.claude started ∧
        (choice.finished.isSome → RunEnded (convertDelta choice.delta info.claude).2 (startedByDelta choice.delta info.claude started))

def startedByChunk (chunk : ChatCompletionsStreamResponse) (info : RelayInfo) (started : Nat) : Nat :=
  match chunk.choices with
  | [] => started
  | choice :: _ => startedByDelta choice.delta info.claude started

-- Every chunk after the first one is tidy until the message is done, and so is the end.
def TidyRun : List ChatCompletionsStreamResponse → RelayInfo → Nat → Prop
  | [], info, started => info.claude.done = false → RunEnded info.claude started
  | chunk :: rest, info, started =>
      info.claude.done = false → ChunkTidy chunk (receive chunk info) started ∧
        TidyRun rest (handleClaudeFormat chunk info).2 (startedByChunk chunk (receive chunk info) started)

def TidyStream (chunks : List ChatCompletionsStreamResponse) (info : RelayInfo) : Prop :=
  match chunks with
  | [] => False
  | chunk :: rest => TidyRun rest (handleClaudeFormat chunk info).2 (startedByFirst chunk)

def toolBlocks (base : Int) : Nat → List (Int × BlockKind)
  | 0 => []
  | count + 1 => (base, .toolUse) :: toolBlocks (base + 1) count

theorem tool_blocks_snoc (base : Int) (count : Nat) : toolBlocks base count ++ [(base + count, .toolUse)] = toolBlocks base (count + 1) := by
  induction count generalizing base with
  | zero => simp [toolBlocks]
  | succ count ih =>
      have next := ih (base + 1)
      rw [toolBlocks, List.cons_append, toolBlocks]
      congr 1
      rw [← next]
      congr 3
      omega

theorem mem_tool_blocks (base : Int) (count : Nat) (index : Int) (kind : BlockKind) :
    (index, kind) ∈ toolBlocks base count ↔ kind = .toolUse ∧ base ≤ index ∧ index < base + count := by
  induction count generalizing base with
  | zero =>
      simp only [toolBlocks, List.not_mem_nil, false_iff]
      omega
  | succ count ih =>
      rw [toolBlocks, List.mem_cons, ih, Prod.mk.injEq]
      by_cases same : kind = .toolUse
      · simp only [same, and_true, true_and]
        omega
      · simp [same]

theorem scan_tool_stops (base : Int) (stops started count : Nat) (few : started ≤ stops) :
    scan checkEvent (toolStops base stops) ⟨.streaming, count, toolBlocks base started⟩ =
      if started = stops then some ⟨.streaming, count, []⟩ else none := by
  induction stops generalizing base started with
  | zero =>
      have none : started = 0 := by omega
      subst none
      rfl
  | succ stops ih =>
      cases started with
      | zero =>
          have missing : checkEvent ⟨.streaming, count, []⟩ (.contentBlockStop base) = none := by simp [checkEvent]
          rw [if_neg (by omega)]
          exact scan_cons_none checkEvent missing
      | succ started =>
          have rest : (toolBlocks (base + 1) started).filter (fun block => decide (block.1 ≠ base)) = toolBlocks (base + 1) started := by
            rw [List.filter_eq_self]
            rintro ⟨index, kind⟩ member
            have bounds := (mem_tool_blocks _ _ _ _).mp member
            simp only [decide_eq_true_eq]
            omega
          have stopped : checkEvent ⟨.streaming, count, toolBlocks base (started + 1)⟩ (.contentBlockStop base) =
              some ⟨.streaming, count, toolBlocks (base + 1) started⟩ := by
            simp only [checkEvent, toolBlocks, List.mem_cons, exists_eq_or_imp, true_or, and_self, if_true, List.filter_cons, ne_eq, not_true_eq_false,
              decide_false, Bool.false_eq_true, if_false]
            rw [rest]
          rw [toolStops, scan_cons_some checkEvent stopped, ih (base + 1) started (by omega)]
          simp only [Nat.succ.injEq]

def ClaudeConvertInfo.openBlocks (claude : ClaudeConvertInfo) (started : Nat) : List (Int × BlockKind) :=
  match claude.lastMessagesType with
  | .none => []
  | .text => [(claude.index, .text)]
  | .thinking => [(claude.index, .thinking)]
  | .tools => toolBlocks claude.toolCallBaseIndex started

-- The index after the blocks that are started.
def ClaudeConvertInfo.nextIndex (claude : ClaudeConvertInfo) (started : Nat) : Int :=
  match claude.lastMessagesType with
  | .none => claude.index
  | .text | .thinking => claude.index + 1
  | .tools => claude.toolCallBaseIndex + started

-- What the client has seen is what the converter believes it has sent.
structure Synced (claude : ClaudeConvertInfo) (started : Nat) (client : ClaudeClient) : Prop where
  streaming : client.phase = .streaming
  blocks : client.openBlocks = claude.openBlocks started
  count : (client.started : Int) = claude.nextIndex started
  mentioned : claude.lastMessagesType = .tools → (started : Int) ≤ claude.toolCallMaxIndexOffset + 1

section Scanning

variable {claude : ClaudeConvertInfo} {started : Nat} {client : ClaudeClient}

theorem scan_stop_one (index : Int) (kind : BlockKind) (count : Nat) :
    scan checkEvent [.contentBlockStop index] ⟨.streaming, count, [(index, kind)]⟩ = some ⟨.streaming, count, []⟩ := by
  simp [scan, checkEvent]

theorem Synced.stops (synced : Synced claude started client) :
    scan checkEvent (stopOpenAI2ClaudeBlocks claude) client =
      if RunEnded claude started then some { client with openBlocks := [] } else none := by
  obtain ⟨streaming, blocks, count, mentioned⟩ := synced
  obtain ⟨phase, begun, openBlocks⟩ := client
  simp only at streaming blocks count
  subst streaming blocks
  unfold stopOpenAI2ClaudeBlocks ClaudeConvertInfo.openBlocks
  cases last : claude.lastMessagesType with
  | none => simp [RunEnded, last]
  | text => simp [RunEnded, last, scan_stop_one]
  | thinking => simp [RunEnded, last, scan_stop_one]
  | tools =>
      have bound := mentioned last
      dsimp only
      rw [scan_tool_stops _ _ _ _ (by omega)]
      have same : started = (claude.toolCallMaxIndexOffset + 1).toNat ↔ RunEnded claude started := by
        simp only [RunEnded, last, forall_const]
        omega
      simp only [same]

theorem Synced.advance (synced : Synced claude started client) (ended : RunEnded claude started) :
    Synced claude.advance 0 { client with openBlocks := [] } := by
  obtain ⟨streaming, _, count, _⟩ := synced
  unfold ClaudeConvertInfo.nextIndex at count
  unfold ClaudeConvertInfo.advance
  cases last : claude.lastMessagesType with
  | none => exact ⟨streaming, by simp [ClaudeConvertInfo.openBlocks, last], by simp [ClaudeConvertInfo.nextIndex, last, count], by simp [last]⟩
  | text => exact ⟨streaming, by simp [ClaudeConvertInfo.openBlocks], by simp [ClaudeConvertInfo.nextIndex, last, count], by simp⟩
  | thinking => exact ⟨streaming, by simp [ClaudeConvertInfo.openBlocks], by simp [ClaudeConvertInfo.nextIndex, last, count], by simp⟩
  | tools =>
      have whole := ended last
      refine ⟨streaming, by simp [ClaudeConvertInfo.openBlocks], ?_, by simp⟩
      simp only [last] at count
      simp only [ClaudeConvertInfo.nextIndex]
      omega

theorem advance_none (claude : ClaudeConvertInfo) : claude.advance.lastMessagesType = .none := by
  unfold ClaudeConvertInfo.advance
  cases last : claude.lastMessagesType <;> simp [last]

-- The stop of what is open and the start of a block of another type, with its first delta.
theorem Synced.switches (synced : Synced claude started client) (kind : LastMessageType) (block : ContentBlock) (delta : ContentDelta)
    (other : claude.lastMessagesType ≠ kind) (matching : delta.kind = block.kind)
    (plain : (kind = .text ∧ block.kind = .text) ∨ (kind = .thinking ∧ block.kind = .thinking)) (always : Bool) :
    if RunEnded claude started then
      ∃ after, scan checkEvent (deltaBlock always kind block delta claude).1 client = some after ∧
        Synced (deltaBlock always kind block delta claude).2 0 after
    else scan checkEvent (deltaBlock always kind block delta claude).1 client = none := by
  unfold deltaBlock
  rw [if_pos other]
  split_ifs with ended
  · have closed := synced.stops
    rw [if_pos ended] at closed
    have count := (synced.advance ended).count
    have index : claude.advance.index = client.started := by
      simp only [ClaudeConvertInfo.nextIndex, advance_none] at count
      exact count.symm
    refine ⟨⟨.streaming, client.started + 1, [(claude.advance.index, block.kind)]⟩, ?_, ?_⟩
    · rw [scan_append_some checkEvent closed]
      simp [scan, checkEvent, index, matching, synced.streaming]
    · rcases plain with ⟨rfl, same⟩ | ⟨rfl, same⟩
      · exact ⟨rfl, by simp [ClaudeConvertInfo.openBlocks, same], by simp [ClaudeConvertInfo.nextIndex, index], by simp⟩
      · exact ⟨rfl, by simp [ClaudeConvertInfo.openBlocks, same], by simp [ClaudeConvertInfo.nextIndex, index], by simp⟩
  · have stuck := synced.stops
    rw [if_neg ended] at stuck
    exact scan_append_none checkEvent stuck

-- A delta of the type that is open goes to the open block.
theorem Synced.continues (synced : Synced claude started client) (kind : LastMessageType) (block : ContentBlock) (delta : ContentDelta)
    (same : claude.lastMessagesType = kind) (matching : (claude.index, delta.kind) ∈ claude.openBlocks started) :
    scan checkEvent (deltaBlock false kind block delta claude).1 client = some client ∧
      (deltaBlock false kind block delta claude).2 = claude := by
  unfold deltaBlock
  rw [if_neg (by simp [same])]
  simp [scan, checkEvent, synced.streaming, synced.blocks, matching]

theorem Synced.text (synced : Synced claude started client) (delta : Delta) (always : Bool)
    (later : always = true → claude.lastMessagesType = .none ∨ claude.lastMessagesType = .tools) :
    if delta.getReasoningContent ≠ "" ∨ delta.getContentString ≠ "" → RunEnded claude started then
      ∃ after, scan checkEvent (convertText always delta claude).1 client = some after ∧
        Synced (convertText always delta claude).2 (if delta.getReasoningContent ≠ "" ∨ delta.getContentString ≠ "" then 0 else started) after
    else scan checkEvent (convertText always delta claude).1 client = none := by
  have delivers : ∀ kind block content, ((kind = .text ∧ block = .text ∧ ContentDelta.kind content = .text) ∨
      (kind = .thinking ∧ block = .thinking ∧ ContentDelta.kind content = .thinking)) →
      if RunEnded claude started then
        ∃ after, scan checkEvent (deltaBlock always kind block content claude).1 client = some after ∧
          Synced (deltaBlock always kind block content claude).2 0 after
      else scan checkEvent (deltaBlock always kind block content claude).1 client = none := by
    intro kind block content plain
    by_cases same : claude.lastMessagesType = kind
    · have untied : claude.lastMessagesType ≠ .tools := by rcases plain with ⟨rfl, _⟩ | ⟨rfl, _⟩ <;> simp [same]
      have ended : RunEnded claude started := fun tools => (untied tools).elim
      have first : always = false := by
        cases told : always with
        | false => rfl
        | true => rcases later told with none | tools <;> rcases plain with ⟨rfl, _⟩ | ⟨rfl, _⟩ <;> simp_all
      subst first
      have matching : (claude.index, content.kind) ∈ claude.openBlocks started := by
        rcases plain with ⟨rfl, _, matches_⟩ | ⟨rfl, _, matches_⟩ <;> simp [ClaudeConvertInfo.openBlocks, same, matches_]
      obtain ⟨read, kept⟩ := synced.continues kind block content same matching
      rw [if_pos ended, read, kept]
      refine ⟨client, rfl, synced.streaming, ?_, ?_, fun tools => (untied tools).elim⟩
      · rw [synced.blocks]
        rcases plain with ⟨rfl, _⟩ | ⟨rfl, _⟩ <;> simp [ClaudeConvertInfo.openBlocks, same]
      · rw [synced.count]
        rcases plain with ⟨rfl, _⟩ | ⟨rfl, _⟩ <;> simp [ClaudeConvertInfo.nextIndex, same]
    · refine synced.switches kind block content same ?_ ?_ always
      · rcases plain with ⟨_, rfl, matches_⟩ | ⟨_, rfl, matches_⟩ <;> simp [matches_, ContentBlock.kind]
      · rcases plain with ⟨rfl, rfl, _⟩ | ⟨rfl, rfl, _⟩ <;> simp [ContentBlock.kind]
  unfold convertText
  by_cases reasoning : delta.getReasoningContent ≠ ""
  · simp only [reasoning, ne_eq, not_false_eq_true, true_or, if_true, forall_const]
    exact delivers .thinking .thinking _ (.inr ⟨rfl, rfl, rfl⟩)
  · by_cases content : delta.getContentString ≠ ""
    · simp only [reasoning, content, ne_eq, not_false_eq_true, or_true, if_true, if_false, forall_const]
      exact delivers .text .text _ (.inl ⟨rfl, rfl, rfl⟩)
    · simp only [reasoning, content, or_self, if_false, false_implies, if_true]
      exact ⟨client, rfl, synced⟩

end Scanning

section Tools

variable (base : Int) (started : Nat) (call : Int × ToolCallResponse)

theorem scan_arguments (client : ClaudeClient) (streaming : client.phase = .streaming) (count : Nat)
    (blocks : client.openBlocks = toolBlocks base count) :
    scan checkEvent (argumentsDelta (base + call.1) call.2) client =
      if call.2.arguments ≠ "" → 0 ≤ call.1 ∧ call.1 < count then some client else none := by
  unfold argumentsDelta
  by_cases silent : call.2.arguments = ""
  · simp [silent]
  · have reached : (base + call.1, BlockKind.toolUse) ∈ client.openBlocks ↔ 0 ≤ call.1 ∧ call.1 < count := by
      rw [blocks, mem_tool_blocks]
      simp only [true_and]
      omega
    simp only [silent, ne_eq, not_false_eq_true, if_true, forall_const]
    rw [scan_cons]
    simp only [checkEvent, streaming, ContentDelta.kind, true_and, reached]
    split_ifs <;> rfl

theorem scan_call (begun : Nat) (begins : (begun : Int) = base + started) :
    if (call.2.name ≠ "" → call.1 = started) ∧ (call.2.arguments ≠ "" → 0 ≤ call.1 ∧ call.1 < startedBy started call) then
      ∃ later : Nat, (later : Int) = base + startedBy started call ∧
        scan checkEvent (toolCallEvents base call) ⟨.streaming, begun, toolBlocks base started⟩ =
          some ⟨.streaming, later, toolBlocks base (startedBy started call)⟩
    else scan checkEvent (toolCallEvents base call) ⟨.streaming, begun, toolBlocks base started⟩ = none := by
  unfold toolCallEvents startedBy
  by_cases named : call.2.name = ""
  · have arguments := scan_arguments base call ⟨.streaming, begun, toolBlocks base started⟩ rfl started rfl
    simp only [named, ne_eq, not_true_eq_false, if_false, List.nil_append, false_implies, true_and]
    rw [arguments]
    split_ifs with reached
    · exact ⟨begun, begins, rfl⟩
    · rfl
  · simp only [named, ne_eq, not_false_eq_true, if_true, forall_const, List.cons_append, List.nil_append]
    by_cases next : call.1 = started
    · have start : checkEvent ⟨.streaming, begun, toolBlocks base started⟩ (.contentBlockStart (base + call.1) (.toolUse call.2.id call.2.name)) =
          some ⟨.streaming, begun + 1, toolBlocks base (started + 1)⟩ := by
        simp only [checkEvent, next, begins, and_self, if_true, ContentBlock.kind, tool_blocks_snoc]
      have arguments := scan_arguments base call ⟨.streaming, begun + 1, toolBlocks base (started + 1)⟩ rfl (started + 1) rfl
      rw [scan_cons_some checkEvent start, arguments]
      simp only [next, true_and]
      split_ifs with reached
      · exact ⟨begun + 1, by omega, rfl⟩
      · rfl
    · have start : checkEvent ⟨.streaming, begun, toolBlocks base started⟩ (.contentBlockStart (base + call.1) (.toolUse call.2.id call.2.name)) = none := by
        simp only [checkEvent, begins, true_and]
        rw [if_neg (by omega)]
      rw [if_neg (fun both => next both.1)]
      exact scan_cons_none checkEvent start

theorem scan_calls (calls : List (Int × ToolCallResponse)) (begun : Nat) (begins : (begun : Int) = base + started) :
    if NamedInOrder started calls then
      ∃ later : Nat, (later : Int) = base + startedAfter started calls ∧
        scan checkEvent (calls.flatMap (toolCallEvents base)) ⟨.streaming, begun, toolBlocks base started⟩ =
          some ⟨.streaming, later, toolBlocks base (startedAfter started calls)⟩
    else scan checkEvent (calls.flatMap (toolCallEvents base)) ⟨.streaming, begun, toolBlocks base started⟩ = none := by
  induction calls generalizing started begun with
  | nil => exact ⟨begun, begins, rfl⟩
  | cons call rest ih =>
      have first := scan_call base started call begun begins
      simp only [List.flatMap_cons, NamedInOrder]
      by_cases allowed : (call.2.name ≠ "" → call.1 = started) ∧ (call.2.arguments ≠ "" → 0 ≤ call.1 ∧ call.1 < startedBy started call)
      · rw [if_pos allowed] at first
        obtain ⟨middle, starts, read⟩ := first
        have later := ih (startedBy started call) middle starts
        rw [scan_append_some checkEvent read]
        by_cases rested : NamedInOrder (startedBy started call) rest
        · rw [if_pos rested] at later
          rw [if_pos ⟨allowed.1, allowed.2, rested⟩]
          exact later
        · rw [if_neg rested] at later
          rw [if_neg (fun whole => rested whole.2.2)]
          exact later
      · rw [if_neg allowed] at first
        rw [if_neg (fun both => allowed ⟨both.1, both.2.1⟩)]
        exact scan_append_none checkEvent first

-- A name comes at an offset the run has mentioned.
theorem started_le_max (calls : List (Int × ToolCallResponse)) (largest : Int) (ordered : NamedInOrder started calls)
    (mentioned : (started : Int) ≤ largest + 1) : (startedAfter started calls : Int) ≤ maxOffset largest calls + 1 := by
  induction calls generalizing started largest with
  | nil => exact mentioned
  | cons call rest ih =>
      obtain ⟨next, _, later⟩ := ordered
      refine ih (startedBy started call) (max largest call.1) later ?_
      unfold startedBy
      split_ifs with named
      · have offset := next named
        omega
      · omega

end Tools

section Chunks

variable {claude : ClaudeConvertInfo} {started : Nat} {client : ClaudeClient}

-- Before its calls a chunk of tool deltas stops what is open of another type.
theorem Synced.in_tools (synced : Synced claude started client) :
    ∃ count : Nat, (count : Int) = claude.inTools.toolCallBaseIndex + runStarted claude started ∧
      (runStarted claude started : Int) ≤ claude.inTools.toolCallMaxIndexOffset + 1 ∧
      scan checkEvent (if claude.lastMessagesType ≠ .tools then stopOpenAI2ClaudeBlocks claude else []) client =
        some ⟨.streaming, count, toolBlocks claude.inTools.toolCallBaseIndex (runStarted claude started)⟩ := by
  unfold ClaudeConvertInfo.inTools runStarted
  by_cases tools : claude.lastMessagesType = .tools
  · obtain ⟨streaming, blocks, count, mentioned⟩ := synced
    obtain ⟨phase, begun, openBlocks⟩ := client
    simp only [ClaudeConvertInfo.nextIndex, tools] at count
    simp only [ClaudeConvertInfo.openBlocks, tools] at blocks
    simp only at streaming
    subst streaming blocks
    simp only [tools, ne_eq, not_true_eq_false, if_false, if_true]
    exact ⟨begun, count, mentioned tools, rfl⟩
  · have ended : RunEnded claude started := fun same => (tools same).elim
    have closed := synced.stops
    rw [if_pos ended] at closed
    have count := (synced.advance ended).count
    simp only [ClaudeConvertInfo.nextIndex, advance_none] at count
    simp only [tools, ne_eq, not_false_eq_true, if_true, if_false]
    refine ⟨client.started, by omega, by omega, ?_⟩
    rw [closed]
    simp [synced.streaming, toolBlocks]

theorem Synced.tools (synced : Synced claude started client) (toolCalls : List ToolCallResponse) :
    if NamedInOrder (runStarted claude started) (toolOffsets toolCalls) then
      ∃ after, scan checkEvent (convertTools toolCalls claude).1 client = some after ∧
        Synced (convertTools toolCalls claude).2 (startedAfter (runStarted claude started) (toolOffsets toolCalls)) after
    else scan checkEvent (convertTools toolCalls claude).1 client = none := by
  obtain ⟨count, begins, mentioned, opened⟩ := synced.in_tools
  have calls := scan_calls claude.inTools.toolCallBaseIndex (runStarted claude started) (toolOffsets toolCalls) count begins
  have last : claude.inTools.lastMessagesType = .tools := by
    unfold ClaudeConvertInfo.inTools
    split_ifs with other
    · rfl
    · exact not_not.mp other
  unfold convertTools
  rw [scan_append_some checkEvent opened]
  by_cases ordered : NamedInOrder (runStarted claude started) (toolOffsets toolCalls)
  · rw [if_pos ordered] at calls ⊢
    obtain ⟨later, ends, read⟩ := calls
    refine ⟨_, read, rfl, ?_, ?_, fun _ => started_le_max _ _ _ ordered mentioned⟩
    · simp [ClaudeConvertInfo.openBlocks, last]
    · simp only [ClaudeConvertInfo.nextIndex, last]
      exact ends
  · rw [if_neg ordered] at calls ⊢
    exact calls

theorem Synced.delta (synced : Synced claude started client) (delta : Delta) :
    if DeltaTidy delta claude started then
      ∃ after, scan checkEvent (convertDelta delta claude).1 client = some after ∧
        Synced (convertDelta delta claude).2 (startedByDelta delta claude started) after
    else scan checkEvent (convertDelta delta claude).1 client = none := by
  unfold DeltaTidy convertDelta startedByDelta
  by_cases calls : delta.toolCalls = []
  · simp only [calls, ne_eq, not_true_eq_false, if_false]
    exact synced.text delta false (by simp)
  · simp only [calls, ne_eq, not_false_eq_true, if_true]
    exact synced.tools delta.toolCalls

theorem Synced.finalize (info : RelayInfo) (synced : Synced info.claude started client) (running : info.claude.done = false)
    (usage : Option Usage) :
    if RunEnded info.claude started then
      ∃ after, scan checkEvent (finalizeOpenAI2Claude usage info).1 client = some after ∧ after.phase = .stopped ∧
        (finalizeOpenAI2Claude usage info).2.claude.done = true
    else scan checkEvent (finalizeOpenAI2Claude usage info).1 client = none := by
  have stops := synced.stops
  unfold finalizeOpenAI2Claude
  simp only [running, Bool.false_eq_true, if_false]
  by_cases ended : RunEnded info.claude started
  · rw [if_pos ended] at stops ⊢
    rw [scan_append_some checkEvent stops]
    exact ⟨⟨.stopped, client.started, []⟩, by simp [scan, checkEvent, synced.streaming], rfl, trivial⟩
  · rw [if_neg ended] at stops ⊢
    exact scan_append_none checkEvent stops

-- The client follows the converter: it has seen the end, or what is open.
def Followed (info : RelayInfo) (started : Nat) (client : ClaudeClient) : Prop :=
  if info.claude.done = true then client.phase = .stopped else Synced info.claude started client

theorem convert_keeps_done (delta : Delta) (always : Bool) (claude : ClaudeConvertInfo) :
    (convertText always delta claude).2.done = claude.done ∧ (convertDelta delta claude).2.done = claude.done := by
  have advanced : claude.advance.done = claude.done := by
    unfold ClaudeConvertInfo.advance
    cases claude.lastMessagesType <;> rfl
  have text : ∀ first, (convertText first delta claude).2.done = claude.done := by
    intro first
    unfold convertText deltaBlock
    split_ifs <;> first | exact advanced | rfl
  refine ⟨text always, ?_⟩
  unfold convertDelta
  split_ifs
  · unfold convertTools ClaudeConvertInfo.inTools
    dsimp only
    split_ifs
    · exact advanced
    · rfl
  · exact text false

-- A finish reason ends the message after the delta of its chunk.
theorem Synced.finish (info : RelayInfo) (synced : Synced info.claude started client) (running : info.claude.done = false)
    (choice : Choice) (usage : Option Usage) :
    (choice.finished.isSome → RunEnded info.claude started) ∧
        (∃ after, scan checkEvent (finishChoice choice usage info).1 client = some after ∧ Followed (finishChoice choice usage info).2 started after) ∨
      ¬ (choice.finished.isSome → RunEnded info.claude started) ∧ scan checkEvent (finishChoice choice usage info).1 client = none := by
  unfold finishChoice
  cases reason : choice.finished with
  | none =>
      left
      refine ⟨by simp, client, rfl, ?_⟩
      unfold Followed
      simpa [running] using synced
  | some text =>
      have ends := Synced.finalize { info with finishReason := text } synced running usage
      dsimp only at ends ⊢
      by_cases ended : RunEnded info.claude started
      · rw [if_pos ended] at ends
        obtain ⟨after, read, stopped, done⟩ := ends
        left
        refine ⟨fun _ => ended, after, read, ?_⟩
        unfold Followed
        rw [if_pos done]
        exact stopped
      · rw [if_neg ended] at ends
        right
        exact ⟨fun always => ended (always rfl), ends⟩

theorem Synced.later {info : RelayInfo} (synced : Synced info.claude started client) (running : info.claude.done = false)
    (chunk : ChatCompletionsStreamResponse) :
    ChunkTidy chunk info started ∧
        (∃ after, scan checkEvent (streamLater chunk info).1 client = some after ∧
          Followed (streamLater chunk info).2 (startedByChunk chunk info started) after) ∨
      ¬ ChunkTidy chunk info started ∧ scan checkEvent (streamLater chunk info).1 client = none := by
  unfold streamLater ChunkTidy startedByChunk
  cases chunk.choices with
  | nil =>
      dsimp only
      cases usage : chunk.usage.or info.claude.usage with
      | none =>
          left
          refine ⟨by simp, client, rfl, ?_⟩
          unfold Followed
          simpa [running] using synced
      | some told =>
          have ends := synced.finalize info running (some told)
          by_cases ended : RunEnded info.claude started
          · rw [if_pos ended] at ends
            obtain ⟨after, read, stopped, done⟩ := ends
            left
            refine ⟨fun _ => ended, after, read, ?_⟩
            unfold Followed
            rw [if_pos done]
            exact stopped
          · rw [if_neg ended] at ends
            right
            exact ⟨fun always => ended (always rfl), ends⟩
  | cons choice rest =>
      have converted := synced.delta choice.delta
      have still := (convert_keeps_done choice.delta false info.claude).2.trans running
      dsimp only
      by_cases tidy : DeltaTidy choice.delta info.claude started
      · rw [if_pos tidy] at converted
        obtain ⟨middle, read, next⟩ := converted
        rw [scan_append_some checkEvent read]
        have finish := Synced.finish { info with claude := (convertDelta choice.delta info.claude).2 } next still choice chunk.usage
        rcases finish with ⟨ended, after⟩ | ⟨unended, stuck⟩
        · exact .inl ⟨⟨tidy, ended⟩, after⟩
        · exact .inr ⟨fun both => unended both.2, stuck⟩
      · rw [if_neg tidy] at converted
        exact .inr ⟨fun both => tidy both.1, scan_append_none checkEvent converted⟩

end Chunks

section Runs

def Accepts (events : List ClaudeResponse) (client : ClaudeClient) : Prop :=
  ∃ last, scan checkEvent events client = some last ∧ last.phase = .stopped

theorem accepts_append {early late : List ClaudeResponse} {client middle : ClaudeClient} (read : scan checkEvent early client = some middle) :
    Accepts (early ++ late) client ↔ Accepts late middle := by
  unfold Accepts
  rw [scan_append_some checkEvent read]

theorem not_accepts_append {early late : List ClaudeResponse} {client : ClaudeClient} (stuck : scan checkEvent early client = none) :
    ¬ Accepts (early ++ late) client := by
  rintro ⟨last, read, _⟩
  rw [scan_append_none checkEvent stuck] at read
  cases read

theorem done_events (usage : Option Usage) (chunks : List ChatCompletionsStreamResponse) (info : RelayInfo) (done : info.claude.done = true) :
    claudeEvents usage chunks info = [] := by
  induction chunks generalizing info with
  | nil => simp [claudeEvents, finalizeOpenAI2Claude, done]
  | cons chunk rest ih =>
      have received : (receive chunk info).claude.done = true := done
      have handled : handleClaudeFormat chunk info = ([], receive chunk info) := by
        simp [handleClaudeFormat, streamResponseOpenAI2Claude, received]
      rw [claudeEvents, handled]
      exact ih (receive chunk info) received

theorem accepts_iff_tidy (usage : Option Usage) (chunks : List ChatCompletionsStreamResponse) (info : RelayInfo) (started : Nat)
    (client : ClaudeClient) (followed : Followed info started client) (begun : 1 ≤ info.sendResponseCount) :
    Accepts (claudeEvents usage chunks info) client ↔ TidyRun chunks info started := by
  induction chunks generalizing info started client with
  | nil =>
      cases done : info.claude.done with
      | true =>
          unfold Followed at followed
          rw [if_pos done] at followed
          rw [done_events usage [] info done]
          simp [Accepts, TidyRun, done, followed]
      | false =>
          unfold Followed at followed
          rw [if_neg (by simp [done])] at followed
          have ends := followed.finalize info done usage
          simp only [claudeEvents, TidyRun, done, forall_const]
          by_cases ended : RunEnded info.claude started
          · rw [if_pos ended] at ends
            obtain ⟨after, read, stopped, _⟩ := ends
            exact iff_of_true ⟨after, read, stopped⟩ ended
          · rw [if_neg ended] at ends
            refine iff_of_false ?_ ended
            rintro ⟨last, read, _⟩
            rw [ends] at read
            cases read
  | cons chunk rest ih =>
      cases done : info.claude.done with
      | true =>
          unfold Followed at followed
          rw [if_pos done] at followed
          rw [done_events usage (chunk :: rest) info done]
          simp [Accepts, TidyRun, done, followed]
      | false =>
          unfold Followed at followed
          rw [if_neg (by simp [done])] at followed
          have synced : Synced (receive chunk info).claude started client :=
            ⟨followed.streaming, followed.blocks, followed.count, followed.mentioned⟩
          have handled : handleClaudeFormat chunk info = streamLater chunk (receive chunk info) := by
            unfold handleClaudeFormat streamResponseOpenAI2Claude
            rw [if_neg (by simp [receive, done]), if_neg (by simp only [receive]; omega)]
          have count := handled_count chunk info
          simp only [claudeEvents, TidyRun, done, forall_const]
          rw [handled] at count ⊢
          rcases synced.later done chunk with ⟨tidy, after, read, next⟩ | ⟨untidy, stuck⟩
          · rw [accepts_append read, ih _ _ after next (by omega)]
            simp [tidy]
          · exact iff_of_false (not_accepts_append stuck) (fun both => untidy both.1)

-- The first tool call takes block 0.
theorem synced_first_tool (delta : Delta) (claude : ClaudeConvertInfo) (fresh : claude.lastMessagesType = .none) (unused : claude.index = 0) :
    ∃ after, scan checkEvent (firstToolCall delta claude).1 ⟨.streaming, 0, []⟩ = some after ∧
      Synced (firstToolCall delta claude).2 (if delta.toolCalls ≠ [] then 1 else 0) after ∧
      RunEnded (firstToolCall delta claude).2 (if delta.toolCalls ≠ [] then 1 else 0) ∧
      ((firstToolCall delta claude).2.lastMessagesType = .none ∨ (firstToolCall delta claude).2.lastMessagesType = .tools) ∧
      (firstToolCall delta claude).2.done = claude.done := by
  unfold firstToolCall
  cases delta.toolCalls with
  | nil =>
      refine ⟨_, rfl, ⟨rfl, ?_, ?_, ?_⟩, ?_, .inl fresh, rfl⟩
      · simp [ClaudeConvertInfo.openBlocks, fresh]
      · simp [ClaudeConvertInfo.nextIndex, fresh, unused]
      · simp [fresh]
      · simp [RunEnded, fresh]
  | cons toolCall rest =>
      have start : checkEvent ⟨.streaming, 0, []⟩ (.contentBlockStart 0 (.toolUse toolCall.id toolCall.name)) =
          some ⟨.streaming, 1, toolBlocks 0 1⟩ := rfl
      have arguments := scan_arguments 0 (0, toolCall) ⟨.streaming, 1, toolBlocks 0 1⟩ rfl 1 rfl
      rw [if_pos (by simp)] at arguments
      refine ⟨⟨.streaming, 1, toolBlocks 0 1⟩, ?_, ⟨rfl, ?_, ?_, ?_⟩, ?_, .inr rfl, rfl⟩
      · rw [scan_cons_some checkEvent start]
        exact arguments
      · simp [ClaudeConvertInfo.openBlocks]
      · simp [ClaudeConvertInfo.nextIndex]
      · simp
      · simp [RunEnded]

-- Text leaves no tool block open.
theorem text_ended (delta : Delta) (always : Bool) (claude : ClaudeConvertInfo) (started : Nat) (ended : RunEnded claude started) :
    RunEnded (convertText always delta claude).2 (if delta.getReasoningContent ≠ "" ∨ delta.getContentString ≠ "" then 0 else started) := by
  unfold convertText
  by_cases reasoning : delta.getReasoningContent = ""
  · by_cases content : delta.getContentString = ""
    · simpa [reasoning, content] using ended
    · intro tools
      unfold deltaBlock at tools
      split_ifs at tools <;> simp_all
  · intro tools
    unfold deltaBlock at tools
    split_ifs at tools <;> simp_all

theorem followed_first (chunk : ChatCompletionsStreamResponse) (info : RelayInfo) (fresh : info.claude.lastMessagesType = .none)
    (unused : info.claude.index = 0) (running : info.claude.done = false) :
    ∃ after, scan checkEvent (streamFirst chunk info).1 {} = some after ∧ Followed (streamFirst chunk info).2 (startedByFirst chunk) after := by
  have start : ∀ id model tokens, checkEvent {} (.messageStart id model tokens) = some ⟨.streaming, 0, []⟩ := fun _ _ _ => rfl
  unfold streamFirst startedByFirst
  cases chunk.choices with
  | nil =>
      refine ⟨⟨.streaming, 0, []⟩, scan_cons_some checkEvent (start _ _ _), ?_⟩
      unfold Followed
      rw [if_neg (by simp [running])]
      exact ⟨rfl, by simp [ClaudeConvertInfo.openBlocks, fresh], by simp [ClaudeConvertInfo.nextIndex, fresh, unused], by simp [fresh]⟩
  | cons choice rest =>
      obtain ⟨middle, toolRead, tooled, toolEnded, untexted, toolRunning⟩ := synced_first_tool choice.delta info.claude fresh unused
      have texted := tooled.text choice.delta true (fun _ => untexted)
      rw [if_pos (fun _ => toolEnded)] at texted
      obtain ⟨next, textRead, synced⟩ := texted
      have textRunning := (convert_keeps_done choice.delta true (firstToolCall choice.delta info.claude).2).1.trans (toolRunning.trans running)
      have ended := text_ended choice.delta true _ _ toolEnded
      have finish := Synced.finish { info with claude := (convertText true choice.delta (firstToolCall choice.delta info.claude).2).2 }
        synced textRunning choice chunk.usage
      rcases finish with ⟨_, after, finishRead, followed⟩ | ⟨unended, _⟩
      · refine ⟨after, ?_, followed⟩
        dsimp only
        rw [List.cons_append, List.cons_append, scan_cons_some checkEvent (start _ _ _), List.append_assoc,
          scan_append_some checkEvent toolRead, scan_append_some checkEvent textRead]
        exact finishRead
      · exact (unended fun _ => ended).elim

-- The events form a Claude message exactly when the tool deltas after the first chunk name their
-- calls in order, without repeats or gaps, in each run.
theorem claude_events_well_formed_iff (usage : Option Usage) (chunks : List ChatCompletionsStreamResponse) (estimatePromptTokens : Int) :
    WellFormed (claudeEvents usage chunks (.start estimatePromptTokens)) ↔ TidyStream chunks (.start estimatePromptTokens) := by
  cases chunks with
  | nil =>
      refine iff_of_false ?_ id
      rintro ⟨client, read, _⟩
      simp [claudeEvents, finalizeOpenAI2Claude, RelayInfo.start, stopOpenAI2ClaudeBlocks, scan, checkEvent] at read
  | cons chunk rest =>
      have handled : handleClaudeFormat chunk (.start estimatePromptTokens) = streamFirst chunk (receive chunk (.start estimatePromptTokens)) := rfl
      have count := handled_count chunk (.start estimatePromptTokens)
      obtain ⟨after, read, followed⟩ := followed_first chunk (receive chunk (.start estimatePromptTokens)) rfl rfl rfl
      rw [handled] at count
      have rested := accepts_iff_tidy usage rest _ (startedByFirst chunk) after followed (by omega)
      unfold TidyStream
      simp only [handled]
      refine Iff.trans ?_ rested
      rw [claudeEvents, handled]
      exact accepts_append read

-- A name that comes twice and an index that is skipped.
def toolChunk (index : Int) (name arguments : String) : ChatCompletionsStreamResponse :=
  { choices := [{ delta := { toolCalls := [{ index := some index, id := "call", name := name, arguments := arguments }] } }] }

theorem repeated_name_and_skipped_index :
    ¬ WellFormed (claudeEvents none [{}, toolChunk 0 "f" "", toolChunk 0 "f" "{}"] (.start 0)) ∧
      ¬ WellFormed (claudeEvents none [{}, toolChunk 1 "f" "{}"] (.start 0)) := by
  decide +kernel

end Runs

end CodeGo.Translation
