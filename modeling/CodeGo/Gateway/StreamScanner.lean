import CodeGo.Lib.Bytes
import Mathlib.Data.List.TakeWhile

set_option autoImplicit false

namespace CodeGo.Gateway.Stream

open Bytes

abbrev Text := List UInt8

def dataField : Text := [0x64, 0x61, 0x74, 0x61, 0x3A]

def doneMarker : Text := [0x5B, 0x44, 0x4F, 0x4E, 0x45, 0x5D]

inductive Scanned where
  | skipped
  | done
  | frame (data : Text)
deriving DecidableEq, Repr

def scanLine (line : Text) : Scanned :=
  if line.length < 6 then .skipped
  else if line.take 5 ≠ dataField ∧ line.take 6 ≠ doneMarker then .skipped
  else
    let data := trimSpace (line.drop 5)
    if data = [] then .skipped
    else if doneMarker.isPrefixOf data then .done
    else .frame data

-- The reasons a stream ends with when nothing is timed out, disconnected or stopped by its handler.
inductive EndReason where
  | done
  | eof
deriving DecidableEq, Repr

def dataChanCapacity : Nat := 10

-- The upstream worker; a frame it has read waits for room in the channel.
inductive Scanner where
  | reading
  | sending (data : Text)
  | closed
deriving DecidableEq, Repr

-- The coordinator: it waits for the scanner and then either lets the data worker drain or cancels it.
inductive Monitor where
  | monitoring
  | draining
  | stopping
  | cancelled
deriving DecidableEq, Repr

structure State where
  unread : List Text
  scanner : Scanner := .reading
  dataChan : List Text := []
  endReason : Option EndReason := none
  errorCount : Nat := 0
  monitor : Monitor := .monitoring
  handled : List Text := []
  dataDone : Bool := false
deriving DecidableEq, Repr

def opened (lines : List Text) : State := { unread := lines }

def normalScannerEnd (state : State) : Bool := state.endReason.isSome && state.errorCount == 0

inductive Move where
  | scan
  | send
  | join
  | cancelData
  | handle
  | channelClosed
  | dataCancelled
deriving DecidableEq, Repr

section

-- The soft errors that the handler records for a frame after the ones it has had before.
variable (softErrors : List Text → Text → Nat)

-- A cancelled data worker may take another frame or return: a select between two ready cases picks either.
def step (state : State) : Move → Option State
  | .scan =>
      if state.scanner ≠ .reading then none
      else
        match state.unread with
        | [] => some { state with scanner := .closed, endReason := some .eof }
        | line :: rest =>
            match scanLine line with
            | .skipped => some { state with unread := rest }
            | .done => some { state with unread := rest, scanner := .closed, endReason := some .done }
            | .frame data => some { state with unread := rest, scanner := .sending data }
  | .send =>
      match state.scanner with
      | .sending data =>
          if state.dataChan.length < dataChanCapacity then some { state with scanner := .reading, dataChan := state.dataChan ++ [data] } else none
      | _ => none
  | .join =>
      if state.monitor = .monitoring ∧ state.scanner = .closed then
        some { state with monitor := if normalScannerEnd state then .draining else .stopping }
      else none
  | .cancelData => if state.monitor = .stopping then some { state with monitor := .cancelled } else none
  | .handle =>
      if state.dataDone then none
      else
        match state.dataChan with
        | [] => none
        | data :: rest =>
            some { state with dataChan := rest, handled := state.handled ++ [data], errorCount := state.errorCount + softErrors state.handled data }
  | .channelClosed => if state.dataDone = false ∧ state.dataChan = [] ∧ state.scanner = .closed then some { state with dataDone := true } else none
  | .dataCancelled => if state.dataDone = false ∧ state.monitor = .cancelled then some { state with dataDone := true } else none

def run : State → List Move → Option State
  | state, [] => some state
  | state, move :: rest => (step softErrors state move).bind fun next => run next rest

def Halted (state : State) : Prop := ∀ move, step softErrors state move = none

end

/- What the lines stand for: the payloads of the data lines in front of the first end marker. -/

def Data (line : Text) : Prop := dataField <+: line

instance (line : Text) : Decidable (Data line) := inferInstanceAs (Decidable (_ <+: _))

def payload (line : Text) : Text := trimSpace (line.drop 5)

-- An end marker is a data line that says so, or a bare line that does.
def EndMarker (line : Text) : Prop := Data line ∧ doneMarker <+: payload line ∨ doneMarker <+: line

instance (line : Text) : Decidable (EndMarker line) := inferInstanceAs (Decidable (_ ∧ _ ∨ _))

def extracted (lines : List Text) : List Text :=
  (((lines.takeWhile fun line => ¬ EndMarker line).filter fun line => Data line).map payload).filter fun data => data ≠ []

def ending (lines : List Text) : EndReason := if ∃ line ∈ lines, EndMarker line then .done else .eof

-- A finished call has handled the frames of the lines, gives their end for a reason and has passed no marker on.
structure Exact (lines : List Text) (final : State) : Prop where
  frames : final.handled = extracted lines
  reason : final.endReason = some (ending lines)
  unmarked : ∀ data ∈ final.handled, ¬ doneMarker <+: data
  returned : final.dataDone = true ∧ (final.monitor = .draining ∨ final.monitor = .cancelled)

-- Every order in which the workers take their steps comes to an end, and to an exact one.
structure Extracts (softErrors : List Text → Text → Nat) (lines : List Text) : Prop where
  ends : ∃ bound, ∀ moves final, run softErrors (opened lines) moves = some final → moves.length ≤ bound
  exact : ∀ moves final, run softErrors (opened lines) moves = some final → Halted softErrors final → Exact lines final

/- What the scanner makes of the lines. -/

def frames : List Text → List Text
  | [] => []
  | line :: rest =>
      match scanLine line with
      | .skipped => frames rest
      | .done => []
      | .frame data => data :: frames rest

def finish : List Text → EndReason
  | [] => .eof
  | line :: rest =>
      match scanLine line with
      | .done => .done
      | _ => finish rest

-- A line that carries a marker without being a data line.
def Bare (line : Text) : Prop := EndMarker line ∧ ¬ Data line

def bracket : UInt8 := 0x5D

theorem data_unmarked {line : Text} (data : Data line) : ¬ doneMarker <+: line := by
  intro marked
  obtain ⟨rest, rfl⟩ := data
  simp [dataField, doneMarker] at marked

theorem data_long {line : Text} (data : Data line) (filled : payload line ≠ []) : ¬ line.length < 6 := by
  intro short
  apply filled
  have gone : line.drop 5 = [] := List.drop_eq_nil_of_le (by omega)
  rw [payload, gone]
  rfl

theorem scan_data {line : Text} (data : Data line) :
    scanLine line =
      if payload line = [] then .skipped else if doneMarker.isPrefixOf (payload line) then .done else .frame (payload line) := by
  by_cases blank : payload line = []
  · rw [if_pos blank, scanLine]
    split_ifs
    · rfl
    · rfl
    · exact if_pos blank
  · have long := data_long data blank
    have leads : line.take 5 = dataField := (List.prefix_iff_eq_take.mp data).symm
    rw [scanLine, if_neg long, if_neg (by simp [leads])]
    rfl

theorem scan_other {line : Text} (other : ¬ Data line) (unmarked : ¬ doneMarker <+: line) : scanLine line = .skipped := by
  rw [scanLine]
  split_ifs with short fields
  · rfl
  · rfl
  · rw [not_and_or, not_not, not_not] at fields
    rcases fields with leads | leads
    · exact absurd (List.prefix_iff_eq_take.mpr leads.symm) other
    · exact absurd (List.prefix_iff_eq_take.mpr leads.symm) unmarked

-- The common slice leaves the last byte of a bare marker, which no end marker begins with.
theorem scan_bare {line : Text} (bare : Bare line) : ∃ kept, scanLine line = .frame (bracket :: kept) := by
  obtain ⟨ends, other⟩ := bare
  have marked : doneMarker <+: line := ends.resolve_left fun both => other both.1
  obtain ⟨rest, rfl⟩ := marked
  obtain ⟨kept, trimmed⟩ := trim_space_head bracket rest (by decide)
  have sliced : trimSpace ((doneMarker ++ rest).drop 5) = bracket :: kept := trimmed
  refine ⟨kept, ?_⟩
  rw [scanLine, if_neg (by simp [doneMarker]), if_neg (by simp [doneMarker])]
  simp only [sliced]
  rw [if_neg (by simp), if_neg (by simp [doneMarker, bracket])]

-- Up to the first end marker the scanner reads the lines as they are meant; a bare marker it takes for a frame.
theorem frames_split (lines : List Text) :
    (∀ line ∈ lines.find? (fun line => EndMarker line), Data line) ∧ frames lines = extracted lines ∧ finish lines = ending lines ∨
      (∃ line ∈ lines.find? (fun line => EndMarker line), ¬ Data line) ∧
        ∃ kept rest, frames lines = extracted lines ++ (bracket :: kept) :: rest := by
  induction lines with
  | nil => exact .inl ⟨by simp, rfl, rfl⟩
  | cons line rest ih =>
      by_cases ends : EndMarker line
      · by_cases data : Data line
        · left
          have marked : doneMarker <+: payload line := by
            rcases ends with both | leads
            · exact both.2
            · exact absurd leads (data_unmarked data)
          have filled : payload line ≠ [] := by
            intro blank
            simp [blank, doneMarker] at marked
          have scanned : scanLine line = .done := by
            rw [scan_data data, if_neg filled, if_pos (List.isPrefixOf_iff_prefix.mpr marked)]
          simp [frames, finish, extracted, ending, scanned, ends, data]
        · right
          obtain ⟨kept, scanned⟩ := scan_bare ⟨ends, data⟩
          refine ⟨by simp [ends, data], kept, frames rest, ?_⟩
          simp [frames, extracted, scanned, ends]
      · have found : (line :: rest).find? (fun line => EndMarker line) = rest.find? (fun line => EndMarker line) := by
          simp [ends]
        have ended : ending (line :: rest) = ending rest := by simp [ending, ends]
        have outcome : (scanLine line = .skipped ∧ extracted (line :: rest) = extracted rest) ∨
            ∃ data, scanLine line = .frame data ∧ extracted (line :: rest) = data :: extracted rest := by
          by_cases data : Data line
          · have unmarked : ¬ doneMarker <+: payload line := fun marked => ends (.inl ⟨data, marked⟩)
            by_cases blank : payload line = []
            · left
              exact ⟨by rw [scan_data data, if_pos blank], by simp [extracted, ends, data, blank]⟩
            · right
              refine ⟨payload line, ?_, by simp [extracted, ends, data, blank]⟩
              rw [scan_data data, if_neg blank, if_neg fun leads => unmarked (List.isPrefixOf_iff_prefix.mp leads)]
          · left
            exact ⟨scan_other data fun marked => ends (.inr marked), by simp [extracted, ends, data]⟩
        rw [found, ended]
        rcases outcome with ⟨scanned, same⟩ | ⟨data, scanned, more⟩
        · simpa only [frames, finish, scanned, same] using ih
        · simpa only [frames, finish, scanned, more, List.cons_append, List.cons.injEq, true_and] using ih

section Runs

variable (softErrors : List Text → Text → Nat)

-- What a step can do, whoever takes it.
inductive Took (state : State) : State → Prop where
  | skipped (line : Text) (rest : List Text) (reads : state.scanner = .reading) (next : state.unread = line :: rest)
      (scanned : scanLine line = .skipped) : Took state { state with unread := rest }
  | found (line : Text) (rest : List Text) (data : Text) (reads : state.scanner = .reading) (next : state.unread = line :: rest)
      (scanned : scanLine line = .frame data) : Took state { state with unread := rest, scanner := .sending data }
  | finished (unread : List Text) (reason : EndReason) (reads : state.scanner = .reading) (none : frames state.unread = [])
      (ends : finish state.unread = reason) (shorter : unread.length ≤ state.unread.length) :
      Took state { state with unread := unread, scanner := .closed, endReason := some reason }
  | sent (data : Text) (sends : state.scanner = .sending data) (room : state.dataChan.length < dataChanCapacity) :
      Took state { state with scanner := .reading, dataChan := state.dataChan ++ [data] }
  | joined (monitors : state.monitor = .monitoring) (closed : state.scanner = .closed) :
      Took state { state with monitor := if normalScannerEnd state then .draining else .stopping }
  | cancelled (stops : state.monitor = .stopping) : Took state { state with monitor := .cancelled }
  | handled (data : Text) (rest : List Text) (active : state.dataDone = false) (next : state.dataChan = data :: rest) :
      Took state { state with dataChan := rest, handled := state.handled ++ [data], errorCount := state.errorCount + softErrors state.handled data }
  | returned (active : state.dataDone = false) (ready : state.dataChan = [] ∧ state.scanner = .closed ∨ state.monitor = .cancelled) :
      Took state { state with dataDone := true }

theorem took_of_step {state next : State} {move : Move} (moved : step softErrors state move = some next) : Took softErrors state next := by
  cases move with
  | scan =>
      simp only [step] at moved
      split at moved
      · simp at moved
      · rename_i reads
        rw [not_not] at reads
        split at moved
        · rename_i empty
          obtain rfl := Option.some.inj moved
          have same : ({ state with scanner := .closed, endReason := some .eof } : State) =
              { state with unread := state.unread, scanner := .closed, endReason := some .eof } := rfl
          rw [same]
          exact .finished _ _ reads (by simp [empty, frames]) (by simp [empty, finish]) le_rfl
        · rename_i line rest next
          split at moved
          · rename_i scanned
            obtain rfl := Option.some.inj moved
            exact .skipped line rest reads next scanned
          · rename_i scanned
            obtain rfl := Option.some.inj moved
            exact .finished rest .done reads (by simp [next, frames, scanned]) (by simp [next, finish, scanned]) (by simp [next])
          · rename_i data scanned
            obtain rfl := Option.some.inj moved
            exact .found line rest data reads next scanned
  | send =>
      simp only [step] at moved
      split at moved
      · rename_i data sends
        split at moved
        · rename_i room
          obtain rfl := Option.some.inj moved
          exact .sent data sends room
        · simp at moved
      · simp at moved
  | join =>
      simp only [step] at moved
      split at moved
      · rename_i ready
        obtain rfl := Option.some.inj moved
        exact .joined ready.1 ready.2
      · simp at moved
  | cancelData =>
      simp only [step] at moved
      split at moved
      · rename_i stops
        obtain rfl := Option.some.inj moved
        exact .cancelled stops
      · simp at moved
  | handle =>
      simp only [step] at moved
      split at moved
      · simp at moved
      · rename_i active
        split at moved
        · simp at moved
        · rename_i data rest next
          obtain rfl := Option.some.inj moved
          exact .handled data rest (by simpa using active) next
  | channelClosed =>
      simp only [step] at moved
      split at moved
      · rename_i ready
        obtain rfl := Option.some.inj moved
        exact .returned ready.1 (.inl ready.2)
      · simp at moved
  | dataCancelled =>
      simp only [step] at moved
      split at moved
      · rename_i ready
        obtain rfl := Option.some.inj moved
        exact .returned ready.1 (.inr ready.2)
      · simp at moved

-- The soft errors of the frames handled so far.
def recorded (before : List Text) : List Text → Nat
  | [] => 0
  | data :: rest => softErrors before data + recorded (before ++ [data]) rest

theorem recorded_snoc (before after : List Text) (data : Text) :
    recorded softErrors before (after ++ [data]) = recorded softErrors before after + softErrors (before ++ after) data := by
  induction after generalizing before with
  | nil => simp [recorded]
  | cons first rest ih =>
      rw [List.cons_append, recorded, recorded, ih, Nat.add_assoc, List.append_assoc]
      rfl

theorem recorded_zero_iff (before handled : List Text) :
    recorded softErrors before handled = 0 ↔ ∀ early data late, handled = early ++ data :: late → softErrors (before ++ early) data = 0 := by
  induction handled generalizing before with
  | nil => simp [recorded]
  | cons first rest ih =>
      rw [recorded, Nat.add_eq_zero_iff, ih]
      constructor
      · rintro ⟨now, later⟩ early data late split
        cases early with
        | nil =>
            obtain ⟨rfl, rfl⟩ := List.cons.inj split
            simpa using now
        | cons head tail =>
            obtain ⟨rfl, rest⟩ := List.cons.inj split
            simpa using later tail data late rest
      · intro none
        refine ⟨by simpa using none [] first rest rfl, fun early data late split => ?_⟩
        simpa using none (first :: early) data late (by simp [split])

def Scanner.pending (unread : List Text) : Scanner → List Text
  | .reading => frames unread
  | .sending data => data :: frames unread
  | .closed => []

-- Every frame of the lines is in one place: handled, in the channel, held by the scanner, or still to be read.
structure Flow (lines : List Text) (state : State) : Prop where
  whole : state.handled ++ state.dataChan ++ state.scanner.pending state.unread = frames lines
  unfinished : state.scanner ≠ .closed → finish state.unread = finish lines
  closed : state.scanner = .closed → state.endReason = some (finish lines)
  counted : state.errorCount = recorded softErrors [] state.handled
  joined : state.monitor ≠ .monitoring ∨ state.dataDone = true → state.scanner = .closed
  stopped : state.monitor = .stopping ∨ state.monitor = .cancelled → state.errorCount ≠ 0
  drained : state.dataDone = true → state.dataChan = [] ∨ state.monitor = .cancelled

variable {softErrors}

theorem Flow.took {lines : List Text} {state next : State} (flow : Flow softErrors lines state) (took : Took softErrors state next) :
    Flow softErrors lines next := by
  cases took with
  | skipped line rest reads unread scanned =>
      have whole := flow.whole
      have unfinished := flow.unfinished (by simp [reads])
      rw [unread] at whole unfinished
      simp only [reads, Scanner.pending, frames, finish, scanned] at whole unfinished
      exact { flow with whole := by simpa [reads, Scanner.pending] using whole, unfinished := fun _ => unfinished }
  | found line rest data reads unread scanned =>
      have whole := flow.whole
      have unfinished := flow.unfinished (by simp [reads])
      rw [unread] at whole unfinished
      simp only [reads, Scanner.pending, frames, finish, scanned] at whole unfinished
      have joined : ¬ (state.monitor ≠ .monitoring ∨ state.dataDone = true) := fun early => by
        have closed := flow.joined early
        simp [reads] at closed
      exact { flow with whole := whole, unfinished := fun _ => unfinished, closed := by simp, joined := fun early => absurd early joined }
  | finished unread reason reads empty ends shorter =>
      have whole := flow.whole
      have unfinished := flow.unfinished (by simp [reads])
      simp only [reads, Scanner.pending, empty] at whole
      exact { flow with
        whole := whole, unfinished := fun still => absurd rfl still, closed := fun _ => by rw [← ends, unfinished], joined := fun _ => rfl }
  | sent data sends room =>
      have whole := flow.whole
      have unfinished := flow.unfinished (by simp [sends])
      simp only [sends, Scanner.pending] at whole
      have joined : ¬ (state.monitor ≠ .monitoring ∨ state.dataDone = true) := fun early => by
        have closed := flow.joined early
        simp [sends] at closed
      exact { flow with
        whole := by simpa [Scanner.pending] using whole
        unfinished := fun _ => unfinished
        closed := by simp
        joined := fun early => absurd early joined
        drained := fun early => absurd (.inr early) joined }
  | joined monitors closed =>
      have reason := flow.closed closed
      refine { flow with joined := fun _ => closed, stopped := ?_, drained := ?_ }
      · intro stops counted
        have zero : state.errorCount = 0 := counted
        simp [normalScannerEnd, reason, zero] at stops
      · intro early
        rcases flow.drained early with empty | cancelled
        · exact .inl empty
        · simp [monitors] at cancelled
  | cancelled stops =>
      have closed := flow.joined (.inl (by simp [stops]))
      exact { flow with joined := fun _ => closed, stopped := fun _ => flow.stopped (.inl stops), drained := fun _ => .inr rfl }
  | handled data rest active next =>
      have whole := flow.whole
      rw [next] at whole
      refine { flow with whole := by simpa using whole, counted := ?_, stopped := ?_, drained := ?_ }
      · rw [recorded_snoc, ← flow.counted]
        rfl
      · intro stops none
        exact flow.stopped stops (Nat.eq_zero_of_add_eq_zero_right none)
      · simp [active]
  | returned active ready =>
      have closed : state.scanner = .closed := by
        rcases ready with done | cancelled
        · exact done.2
        · exact flow.joined (.inl (by simp [cancelled]))
      exact { flow with joined := fun _ => closed, drained := fun _ => ready.imp_left And.left }

theorem Flow.run {lines : List Text} {state final : State} (flow : Flow softErrors lines state) (moves : List Move)
    (ran : run softErrors state moves = some final) : Flow softErrors lines final := by
  induction moves generalizing state with
  | nil =>
      obtain rfl := Option.some.inj ran
      exact flow
  | cons move rest ih =>
      obtain ⟨next, moved, ran⟩ := Option.bind_eq_some_iff.mp ran
      exact ih (flow.took (took_of_step softErrors moved)) ran

theorem flow_opened (lines : List Text) : Flow softErrors lines (opened lines) where
  whole := rfl
  unfinished _ := rfl
  closed closed := by simp [opened] at closed
  counted := rfl
  joined early := by simp [opened] at early
  stopped stops := by simp [opened] at stops
  drained early := by simp [opened] at early

def Scanner.owes : Scanner → Nat
  | .reading => 1
  | .sending _ => 3
  | .closed => 0

def Monitor.owes : Monitor → Nat
  | .monitoring => 2
  | .stopping => 1
  | _ => 0

-- The steps that are left: each frame is read, sent and handled once, and each worker ends once.
def State.owes (state : State) : Nat :=
  3 * state.unread.length + state.scanner.owes + state.dataChan.length + state.monitor.owes + if state.dataDone then 0 else 1

theorem Took.owes {state next : State} (took : Took softErrors state next) : next.owes < state.owes := by
  cases took with
  | skipped line rest reads unread scanned => simp [State.owes, unread]
  | found line rest data reads unread scanned => simp [State.owes, reads, unread, Scanner.owes]; omega
  | finished unread reason reads empty ends shorter => simp [State.owes, reads, Scanner.owes]; omega
  | sent data sends room => simp [State.owes, sends, Scanner.owes]; omega
  | joined monitors closed =>
      simp only [State.owes, monitors]
      cases normalScannerEnd state <;> simp [Monitor.owes]
  | cancelled stops => simp [State.owes, stops, Monitor.owes]
  | handled data rest active next => simp [State.owes, next]
  | returned active ready => simp [State.owes, active]

theorem run_owes (moves : List Move) {state final : State} (ran : run softErrors state moves = some final) :
    moves.length + final.owes ≤ state.owes := by
  induction moves generalizing state with
  | nil =>
      obtain rfl := Option.some.inj ran
      simp
  | cons move rest ih =>
      obtain ⟨next, moved, ran⟩ := Option.bind_eq_some_iff.mp ran
      have fewer := (took_of_step softErrors moved).owes
      have rest := ih ran
      rw [List.length_cons]
      omega

theorem run_append (early late : List Move) {state middle : State} (ran : run softErrors state early = some middle) :
    run softErrors state (early ++ late) = run softErrors middle late := by
  induction early generalizing state with
  | nil =>
      obtain rfl := Option.some.inj ran
      rfl
  | cons move rest ih =>
      obtain ⟨next, moved, ran⟩ := Option.bind_eq_some_iff.mp ran
      rw [List.cons_append, run, moved, Option.bind_some, ih ran]

-- Every run goes on to a state without steps.
theorem halts (softErrors : List Text → Text → Nat) (state : State) : ∃ moves final, run softErrors state moves = some final ∧ Halted softErrors final := by
  induction fuel : state.owes using Nat.strong_induction_on generalizing state with
  | _ fuel ih =>
      by_cases halted : Halted softErrors state
      · exact ⟨[], state, rfl, halted⟩
      · obtain ⟨move, moves⟩ := not_forall.mp halted
        obtain ⟨next, moved⟩ := Option.ne_none_iff_exists'.mp moves
        obtain ⟨later, final, ran, halted⟩ := ih next.owes (fuel ▸ (took_of_step softErrors moved).owes) next rfl
        exact ⟨move :: later, final, by rw [run, moved, Option.bind_some, ran], halted⟩

-- A state without steps is one that the call has returned in.
theorem halted_returned {lines : List Text} {state : State} (flow : Flow softErrors lines state) (halted : Halted softErrors state) :
    state.scanner = .closed ∧ state.dataDone = true ∧ (state.monitor = .draining ∨ state.monitor = .cancelled) := by
  have closed : state.scanner = .closed := by
    cases scanner : state.scanner with
    | reading =>
        have stuck := halted .scan
        simp only [step, scanner, ne_eq, not_true, if_false] at stuck
        split at stuck
        · simp at stuck
        · split at stuck <;> simp at stuck
    | sending data =>
        have full : ¬ state.dataChan.length < dataChanCapacity := fun room => by
          have stuck := halted .send
          simp [step, scanner, room] at stuck
        have active : state.dataDone = false := by
          by_contra done
          have closed := flow.joined (.inr (by simpa using done))
          simp [scanner] at closed
        cases queue : state.dataChan with
        | nil => simp [queue, dataChanCapacity] at full
        | cons data rest =>
            have stuck := halted .handle
            simp [step, active, queue] at stuck
    | closed => rfl
  have done : state.dataDone = true := by
    by_contra active
    rw [Bool.not_eq_true] at active
    cases queue : state.dataChan with
    | nil =>
        have stuck := halted .channelClosed
        simp [step, active, queue, closed] at stuck
    | cons data rest =>
        have stuck := halted .handle
        simp [step, active, queue] at stuck
  refine ⟨closed, done, ?_⟩
  cases monitor : state.monitor with
  | monitoring =>
      have stuck := halted .join
      simp [step, monitor, closed] at stuck
  | stopping =>
      have stuck := halted .cancelData
      simp [step, monitor] at stuck
  | draining => exact .inl rfl
  | cancelled => exact .inr rfl

-- The scanner can read all of its lines while the data worker falls behind by a few last frames.
theorem reads_ahead (state : State) (early late : List Text) (reads : state.scanner = .reading) (monitors : state.monitor = .monitoring)
    (active : state.dataDone = false) (split : frames state.unread = early ++ late) (behind : state.dataChan = [] ∨ early = [])
    (room : state.dataChan.length + late.length ≤ dataChanCapacity) :
    ∃ moves final, run softErrors state moves = some final ∧ final.scanner = .closed ∧ final.dataChan = state.dataChan ++ late ∧
      final.handled = state.handled ++ early ∧ final.monitor = .monitoring ∧ final.dataDone = false := by
  induction unread : state.unread generalizing state early late with
  | nil =>
      rw [unread, frames] at split
      obtain ⟨rfl, rfl⟩ := List.append_eq_nil_iff.mp split.symm
      refine ⟨[.scan], { state with scanner := .closed, endReason := some .eof }, ?_, rfl, by simp, by simp, monitors, active⟩
      simp [run, step, reads, unread]
  | cons line rest ih =>
      cases scanned : scanLine line with
      | skipped =>
          simp only [unread, frames, scanned] at split
          obtain ⟨moves, final, ran, outcome⟩ := ih { state with unread := rest, scanner := .reading } early late rfl monitors active split behind room rfl
          refine ⟨.scan :: moves, final, ?_, outcome⟩
          simpa [run, step, reads, unread, scanned] using ran
      | done =>
          simp only [unread, frames, scanned] at split
          obtain ⟨rfl, rfl⟩ := List.append_eq_nil_iff.mp split.symm
          refine ⟨[.scan], { state with unread := rest, scanner := .closed, endReason := some .done }, ?_, rfl, by simp, by simp, monitors, active⟩
          simp [run, step, reads, unread, scanned]
      | frame data =>
          simp only [unread, frames, scanned] at split
          cases early with
          | nil =>
              cases late with
              | nil => simp at split
              | cons head tail =>
                  obtain ⟨rfl, others⟩ := List.cons.inj split
                  rw [List.length_cons] at room
                  have space : state.dataChan.length < dataChanCapacity := by omega
                  obtain ⟨moves, final, ran, closed, queue, handled, kept⟩ := ih
                    { state with unread := rest, scanner := .reading, dataChan := state.dataChan ++ [data] } [] tail rfl monitors active others
                    (.inr rfl) (by rw [List.length_append, List.length_singleton]; omega) rfl
                  refine ⟨.scan :: .send :: moves, final, ?_, closed, by simpa using queue, handled, kept⟩
                  simpa [run, step, reads, unread, scanned, space] using ran
          | cons head tail =>
              obtain ⟨rfl, others⟩ := List.cons.inj split
              have empty : state.dataChan = [] := behind.resolve_right (by simp)
              obtain ⟨moves, final, ran, closed, queue, handled, kept⟩ := ih
                { state with
                  unread := rest, scanner := .reading, dataChan := [], handled := state.handled ++ [data]
                  errorCount := state.errorCount + softErrors state.handled data }
                tail late rfl monitors active others (.inl rfl) (by simpa [empty] using room) rfl
              refine ⟨.scan :: .send :: .handle :: moves, final, ?_, closed, by simpa [empty] using queue, by simpa using handled, kept⟩
              simpa [run, step, reads, unread, scanned, empty, dataChanCapacity, active] using ran

theorem run_handled (moves : List Move) {state final : State} (ran : run softErrors state moves = some final) : state.handled <+: final.handled := by
  induction moves generalizing state with
  | nil =>
      obtain rfl := Option.some.inj ran
      exact List.prefix_rfl
  | cons move rest ih =>
      obtain ⟨next, moved, ran⟩ := Option.bind_eq_some_iff.mp ran
      have grows : state.handled <+: next.handled := by
        cases took_of_step softErrors moved with
        | handled data rest active next => exact List.prefix_append _ _
        | _ => exact List.prefix_rfl
      exact grows.trans (ih ran)

end Runs

section Outcome

variable {softErrors : List Text → Text → Nat} {lines : List Text}

theorem extracted_unmarked : ∀ data ∈ extracted lines, ¬ doneMarker <+: data := by
  intro data within marked
  obtain ⟨line, listed, rfl⟩ := List.mem_map.mp (List.mem_filter.mp within).1
  obtain ⟨ahead, isData⟩ := List.mem_filter.mp listed
  have ends : EndMarker line := .inl ⟨of_decide_eq_true isData, marked⟩
  have passed := List.mem_takeWhile_imp ahead
  simp [ends] at passed

-- Without soft errors ahead of the last frame nothing that was read is lost.
theorem exact_of_halted (read : frames lines = extracted lines) (ended : finish lines = ending lines)
    (quiet : ∀ before data after, extracted lines = before ++ data :: after → after ≠ [] → softErrors before data = 0)
    (moves : List Move) (final : State) (ran : run softErrors (opened lines) moves = some final) (halted : Halted softErrors final) :
    Exact lines final := by
  have flow := (flow_opened lines).run moves ran
  obtain ⟨closed, done, returned⟩ := halted_returned flow halted
  have whole := flow.whole
  rw [closed, Scanner.pending, List.append_nil, read] at whole
  have empty : final.dataChan = [] := by
    rcases flow.drained done with empty | cancelled
    · exact empty
    · by_contra left
      apply flow.stopped (.inr cancelled)
      rw [flow.counted, recorded_zero_iff]
      intro before data after split
      apply quiet before data (after ++ final.dataChan)
      · rw [← whole, split, List.append_assoc]
        rfl
      · simp [left]
  have frames : final.handled = extracted lines := by simpa [empty] using whole
  exact { frames, reason := by rw [flow.closed closed, ended], unmarked := frames ▸ extracted_unmarked, returned := ⟨done, returned⟩ }

-- A bare marker reaches the handler in every run that nothing else cuts short.
theorem not_exact_of_bare {kept : Text} {rest : List Text} (more : frames lines = extracted lines ++ (bracket :: kept) :: rest) :
    ¬ Extracts softErrors lines := by
  intro extracts
  obtain ⟨early, middle, ran, _, _, handled, _⟩ := @reads_ahead softErrors (opened lines) (frames lines) [] rfl rfl rfl (by simp [opened]) (.inl rfl)
    (by simp [opened])
  obtain ⟨late, final, later, halted⟩ := halts softErrors middle
  have outcome := extracts.exact (early ++ late) final (by rw [run_append early late ran, later]) halted
  have grown := (run_handled late later).length_le
  rw [handled, outcome.frames, more, List.length_append, List.length_append, List.length_cons] at grown
  omega

-- A soft error ahead of the last frame lets the cancelled worker return without it.
theorem not_exact_of_soft_error (read : frames lines = extracted lines) {before after : List Text} {data : Text}
    (split : extracted lines = before ++ data :: after) (later : after ≠ []) (complains : softErrors before data ≠ 0) :
    ¬ Extracts softErrors lines := by
  intro extracts
  obtain ⟨others, last, rfl⟩ := (List.eq_nil_or_concat after).resolve_left later
  have ahead : frames lines = (before ++ data :: others) ++ [last] := by simp [read, split]
  obtain ⟨early, middle, ran, closed, queue, handled, monitors, active⟩ :=
    @reads_ahead softErrors (opened lines) (before ++ data :: others) [last] rfl rfl rfl ahead (.inl rfl) (by simp [opened, dataChanCapacity])
  have flow := (flow_opened lines).run early ran
  have errors : middle.errorCount ≠ 0 := by
    rw [flow.counted, handled]
    intro none
    exact complains ((recorded_zero_iff softErrors [] _).mp none before data others rfl)
  have final : run softErrors middle [.join, .cancelData, .dataCancelled] = some { middle with monitor := .cancelled, dataDone := true } := by
    simp [run, step, monitors, closed, active, normalScannerEnd, errors]
  have halted : Halted softErrors { middle with monitor := .cancelled, dataDone := true } := by
    intro move
    cases move <;> simp [step, closed]
  have outcome := extracts.exact (early ++ [.join, .cancelData, .dataCancelled]) _ (by rw [run_append early _ ran, final]) halted
  have same := outcome.frames
  simp only [handled, opened, List.nil_append, split, List.append_cancel_left_eq, List.cons.injEq, true_and] at same
  simpa using congrArg List.length same

end Outcome

/- The handler gets the frames that the lines stand for, in every order of the workers' steps, exactly when the first
   end marker is not a bare one and the handler records no soft error before the last frame. -/
theorem extracts_iff (softErrors : List Text → Text → Nat) (lines : List Text) :
    Extracts softErrors lines ↔
      (∀ line ∈ lines.find? (fun line => EndMarker line), Data line) ∧
        ∀ before data after, extracted lines = before ++ data :: after → after ≠ [] → softErrors before data = 0 := by
  rcases frames_split lines with ⟨first, read, ended⟩ | ⟨⟨line, found, bare⟩, kept, rest, more⟩
  · constructor
    · intro extracts
      refine ⟨first, fun before data after split later => ?_⟩
      by_contra complains
      exact not_exact_of_soft_error read split later complains extracts
    · rintro ⟨_, quiet⟩
      refine ⟨⟨(opened lines).owes, fun moves final ran => ?_⟩, exact_of_halted read ended quiet⟩
      exact (Nat.le_add_right _ _).trans (run_owes moves ran)
  · constructor
    · intro extracts
      exact absurd extracts (not_exact_of_bare more)
    · rintro ⟨first, _⟩
      exact absurd (first line found) bare

-- Three lines, of which a bare marker is to end the stream, and two of which the first is a bad frame for the handler.
def bareLines : List Text := [dataField ++ [0x20, 0x68, 0x69], doneMarker, dataField ++ [0x20, 0x6C, 0x61, 0x74, 0x65]]

def twoLines : List Text := [dataField ++ [0x61], dataField ++ [0x62]]

def bareMoves : List Move := [.scan, .send, .scan, .send, .handle, .scan, .send, .handle, .handle, .scan, .join, .channelClosed]

def lossyMoves : List Move := [.scan, .send, .handle, .scan, .send, .scan, .join, .cancelData, .dataCancelled]

-- The bare marker is handed on as a frame and the stream goes on to its end of file; a soft error loses the second frame.
theorem bare_marker_handled :
    (run (fun _ _ => 0) (opened bareLines) bareMoves).map (fun final => (final.handled, final.endReason)) =
        some ([[0x68, 0x69], [bracket], [0x6C, 0x61, 0x74, 0x65]], some .eof) ∧
      (extracted bareLines, ending bareLines) = ([[0x68, 0x69]], .done) ∧ ¬ Extracts (fun _ _ => 0) bareLines ∧
      (run (fun _ _ => 1) (opened twoLines) lossyMoves).map (fun final => (final.handled, final.endReason)) = some ([[0x61]], some .eof) ∧
      (extracted twoLines, ending twoLines) = ([[0x61], [0x62]], .eof) ∧ ¬ Extracts (fun _ _ => 1) twoLines := by
  have bare : frames bareLines = extracted bareLines ++ [bracket] :: [[0x6C, 0x61, 0x74, 0x65]] := by decide +kernel
  have split : extracted twoLines = [] ++ [0x61] :: [[0x62]] := by decide +kernel
  refine ⟨by decide +kernel, by decide +kernel, not_exact_of_bare bare, by decide +kernel, by decide +kernel, ?_⟩
  exact not_exact_of_soft_error (by decide +kernel) split (by simp) (by simp)

end CodeGo.Gateway.Stream
