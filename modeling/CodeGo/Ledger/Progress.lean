import CodeGo.Ledger.Effects

set_option autoImplicit false

namespace CodeGo.Billing

open Relational Text

/- When an operation of the ledger succeeds: its ids are new, its keys are free and its
   funds are there. -/

section Inserts

variable {α β : Type} [Indexed α] (table : Ledger → Table α) (store : Ledger → Table α → Ledger) (row : α) (next : α → LedgerTx β) (ledger : Ledger)

theorem insert_then {written : Table α} (inserted : (table ledger).insert? row = some written) :
    (insertRow table store row >>= next) ledger = next row (store ledger written) := by
  refine Tx.bind_ran ?_ next
  rw [insertRow, Tx.bind_view]
  simp only [inserted]
  rfl

theorem insert_refused (refused : (table ledger).insert? row = none) :
    (insertRow table store row >>= next) ledger = (.error .uniqueViolation, ledger) := by
  refine Tx.bind_failed ?_ next
  rw [insertRow, Tx.bind_view]
  simp only [refused]
  rfl

end Inserts

section Records

variable (env : LedgerEnv)

theorem fill_value (ledger : Ledger) : fillID env "" ledger = (.ok (env.uuid ledger.drawn), { ledger with drawn := ledger.drawn + 1 }) := by
  rw [fillID, if_pos (by decide)]
  rfl

-- A request whose texts are present and trimmed, the account's apart.
structure Recordable (input : OutboxEventInput) : Prop where
  account : ¬ Blank input.accountID
  aggregate : Tight input.aggregateType
  id : Tight input.aggregateID
  kind : Tight input.eventType
  key : Tight input.idempotencyKey

def eventOf (drawn : Nat) (input : OutboxEventInput) : BillingOutboxEvent :=
  { eventID := env.uuid drawn, accountID := trimSpace input.accountID, aggregateType := input.aggregateType,
    aggregateID := input.aggregateID, eventType := input.eventType, idempotencyKey := input.idempotencyKey }

def entryOf (drawn : Nat) (given : BillingLedgerEntry) : BillingLedgerEntry :=
  { given with entryID := env.uuid drawn, metadata := "\x7b\x7d" }

-- What is left of a recordable request after its checks and its trims.
theorem record_value (input : OutboxEventInput) (recordable : Recordable input) (ledger : Ledger) :
    recordOutboxEvent env input ledger =
      match ledger.outbox.find? fun row => row.idempotencyKey = input.idempotencyKey with
      | some existing => validateExistingOutboxEvent existing (eventOf env ledger.drawn input) ledger
      | none => (insertRow Ledger.outbox (fun ledger outbox => { ledger with outbox }) (eventOf env ledger.drawn input) >>= fun _ => pure ())
          { ledger with drawn := ledger.drawn + 1 } := by
  obtain ⟨account, aggregate, id, kind, key⟩ := recordable
  have passed : ¬ (Blank input.accountID ∨ Blank input.aggregateType ∨ Blank input.aggregateID ∨ Blank input.eventType ∨
      Blank input.idempotencyKey) := by
    simp [account, not_blank_of_tight _ aggregate, not_blank_of_tight _ id, not_blank_of_tight _ kind, not_blank_of_tight _ key]
  rw [recordOutboxEvent, Tx.bind_accepted passed, findOutboxEvent, Tx.bind_view]
  simp only [trim_space_tight _ aggregate, trim_space_tight _ id, trim_space_tight _ kind, trim_space_tight _ key]
  cases ledger.outbox.find? fun row => row.idempotencyKey = input.idempotencyKey with
  | some existing => rfl
  | none =>
      simp only [createOutboxEvent, Tx.bind_assoc]
      rw [Tx.bind_ran (fill_value env ledger)]
      rfl

theorem create_entry_value {α : Type} (given : BillingLedgerEntry) (unfilled : given.entryID = "") (bare : given.metadata = "")
    (next : BillingLedgerEntry → LedgerTx α) (ledger : Ledger) :
    (createEntry env given >>= next) ledger =
      (insertRow Ledger.entries (fun ledger entries => { ledger with entries }) (entryOf env ledger.drawn given) >>= next)
        { ledger with drawn := ledger.drawn + 1 } := by
  have filled : fillID env given.entryID ledger = (.ok (env.uuid ledger.drawn), { ledger with drawn := ledger.drawn + 1 }) := by
    rw [unfilled]
    exact fill_value env ledger
  have row : (if given.metadata = "" then "\x7b\x7d" else given.metadata) = "\x7b\x7d" := if_pos bare
  rw [createEntry, Tx.bind_assoc, Tx.bind_ran filled, row]
  rfl

end Records

-- The ids still to be drawn are on no row, and no two of them are the same.
structure Unused (env : LedgerEnv) (ledger : Ledger) : Prop where
  tight : ∀ drawn, Tight (env.uuid drawn)
  apart : ∀ first second, env.uuid first = env.uuid second → first = second
  reservations : ∀ row ∈ ledger.reservations.rows, ∀ drawn, ledger.drawn ≤ drawn → row.reservationID ≠ env.uuid drawn
  entries : ∀ row ∈ ledger.entries.rows, ∀ drawn, ledger.drawn ≤ drawn → row.entryID ≠ env.uuid drawn
  settlements : ∀ row ∈ ledger.settlements.rows, ∀ drawn, ledger.drawn ≤ drawn → row.settlementID ≠ env.uuid drawn
  outbox : ∀ row ∈ ledger.outbox.rows, ∀ drawn, ledger.drawn ≤ drawn → row.eventID ≠ env.uuid drawn

-- An id library that counts in strokes.
def tallyEnv : LedgerEnv := ⟨true, fun drawn => "id" ++ String.ofList (List.replicate drawn '1') ++ "f"⟩

theorem tally_tight (drawn : Nat) : Tight (tallyEnv.uuid drawn) := tight_append _ _ (solid_head_append _ _ (by decide)) (by decide)

theorem tally_apart (first second : Nat) (same : tallyEnv.uuid first = tallyEnv.uuid second) : first = second := by
  have lengths := congrArg String.length same
  simpa [tallyEnv, String.length_append] using lengths

-- The keys one operation may write, table by table.
structure Keys where
  reservation : List String := []
  entry : List String := []
  settlement : List String := []
  event : List String := []

def Drawn (env : LedgerEnv) (ledger after : Ledger) (id : String) : Prop := ∃ place, ledger.drawn ≤ place ∧ place < after.drawn ∧ id = env.uuid place

-- What is new in the tables carries a key of the operation and an id drawn by it.
structure Grown (env : LedgerEnv) (keys : Keys) (ledger after : Ledger) : Prop where
  drawn : ledger.drawn ≤ after.drawn
  snapshots : ∀ accountID snapshot, ledger.snapshots.find? (fun row => row.accountID = accountID) = some snapshot →
    after.snapshots.find? (fun row => row.accountID = accountID) = some (after.balance accountID)
  reservations : ∀ row ∈ after.reservations.rows,
    (∃ before ∈ ledger.reservations.rows, before.reservationID = row.reservationID ∧ before.idempotencyKey = row.idempotencyKey) ∨
      (row.idempotencyKey ∈ keys.reservation ∧ Drawn env ledger after row.reservationID)
  entries : ∀ row ∈ after.entries.rows, row ∈ ledger.entries.rows ∨ (row.idempotencyKey ∈ keys.entry ∧ Drawn env ledger after row.entryID)
  settlements : ∀ row ∈ after.settlements.rows,
    row ∈ ledger.settlements.rows ∨ (row.idempotencyKey ∈ keys.settlement ∧ Drawn env ledger after row.settlementID)
  outbox : ∀ row ∈ after.outbox.rows, row ∈ ledger.outbox.rows ∨ (row.idempotencyKey ∈ keys.event ∧ Drawn env ledger after row.eventID)

theorem Drawn.ne {env : LedgerEnv} {ledger after : Ledger} {id : String} (drawn : Drawn env ledger after id)
    (apart : ∀ first second, env.uuid first = env.uuid second → first = second) (later : Nat) (bound : after.drawn ≤ later) : id ≠ env.uuid later := by
  obtain ⟨place, _, below, rfl⟩ := drawn
  intro same
  have equal := apart place later same
  omega

theorem Grown.unused {env : LedgerEnv} {keys : Keys} {ledger after : Ledger} (grown : Grown env keys ledger after) (unused : Unused env ledger) :
    Unused env after where
  tight := unused.tight
  apart := unused.apart
  reservations row member later bound := by
    rcases grown.reservations row member with ⟨before, beforeIn, same, _⟩ | ⟨_, drawn⟩
    · rw [← same]
      exact unused.reservations before beforeIn later (grown.drawn.trans bound)
    · exact drawn.ne unused.apart later bound
  entries row member later bound := by
    rcases grown.entries row member with before | ⟨_, drawn⟩
    · exact unused.entries row before later (grown.drawn.trans bound)
    · exact drawn.ne unused.apart later bound
  settlements row member later bound := by
    rcases grown.settlements row member with before | ⟨_, drawn⟩
    · exact unused.settlements row before later (grown.drawn.trans bound)
    · exact drawn.ne unused.apart later bound
  outbox row member later bound := by
    rcases grown.outbox row member with before | ⟨_, drawn⟩
    · exact unused.outbox row before later (grown.drawn.trans bound)
    · exact drawn.ne unused.apart later bound

section Rows

variable {env : LedgerEnv} {ledger : Ledger} (unused : Unused env ledger) (middle : Ledger) (ahead : ledger.drawn ≤ middle.drawn)

include unused ahead

theorem record_ran (same : middle.outbox = ledger.outbox) (input : OutboxEventInput) (recordable : Recordable input)
    (free : ∀ row ∈ ledger.outbox.rows, row.idempotencyKey ≠ input.idempotencyKey) :
    ∃ outbox, recordOutboxEvent env input middle = (.ok (), { middle with outbox, drawn := middle.drawn + 1 }) ∧
      outbox.rows = ledger.outbox.rows ++ [eventOf env middle.drawn input] := by
  have fresh : Table.Fresh ledger.outbox (eventOf env middle.drawn input) := by
    rintro row member (sameID | sameKey)
    · exact unused.outbox row member middle.drawn ahead sameID
    · exact free row member sameKey
  obtain ⟨outbox, inserted, rows⟩ := Table.insert?_of_fresh ledger.outbox _ fresh
  refine ⟨outbox, ?_, rows⟩
  have missing : middle.outbox.find? (fun row => row.idempotencyKey = input.idempotencyKey) = none := by
    rw [Table.find?_eq_none_iff, same]
    intro row member
    exact decide_eq_false (free row member)
  rw [record_value env input recordable middle]
  simp only [missing]
  rw [← same] at inserted
  exact insert_then Ledger.outbox _ _ _ { middle with drawn := middle.drawn + 1 } inserted

theorem entry_ran (same : middle.entries = ledger.entries) (given : BillingLedgerEntry) (unfilled : given.entryID = "") (bare : given.metadata = "")
    (free : ∀ row ∈ ledger.entries.rows, row.idempotencyKey ≠ given.idempotencyKey) :
    ∃ entries, createEntry env given middle = (.ok (entryOf env middle.drawn given), { middle with entries, drawn := middle.drawn + 1 }) ∧
      entries.rows = ledger.entries.rows ++ [entryOf env middle.drawn given] := by
  have fresh : Table.Fresh ledger.entries (entryOf env middle.drawn given) := by
    rintro row member (sameID | sameKey)
    · exact unused.entries row member middle.drawn ahead sameID
    · exact free row member sameKey
  obtain ⟨entries, inserted, rows⟩ := Table.insert?_of_fresh ledger.entries _ fresh
  refine ⟨entries, ?_, rows⟩
  rw [← same] at inserted
  have value := create_entry_value env given unfilled bare pure middle
  rw [insert_then Ledger.entries _ _ _ { middle with drawn := middle.drawn + 1 } inserted] at value
  rw [← Tx.bind_pure_right (createEntry env given), value]
  rfl

theorem settlement_ran (same : middle.settlements = ledger.settlements) (given : BillingSettlement) (unfilled : given.settlementID = "")
    (unsettled : ∀ row ∈ ledger.settlements.rows, row.reservationID ≠ given.reservationID)
    (free : ∀ row ∈ ledger.settlements.rows, row.idempotencyKey ≠ given.idempotencyKey) :
    ∃ settlements, createSettlement env given middle =
        (.ok { given with settlementID := env.uuid middle.drawn }, { middle with settlements, drawn := middle.drawn + 1 }) ∧
      settlements.rows = ledger.settlements.rows ++ [{ given with settlementID := env.uuid middle.drawn }] := by
  have fresh : Table.Fresh ledger.settlements { given with settlementID := env.uuid middle.drawn } := by
    rintro row member (sameID | sameReservation | sameKey)
    · exact unused.settlements row member middle.drawn ahead sameID
    · exact unsettled row member sameReservation
    · exact free row member sameKey
  obtain ⟨settlements, inserted, rows⟩ := Table.insert?_of_fresh ledger.settlements _ fresh
  refine ⟨settlements, ?_, rows⟩
  rw [← same] at inserted
  have filled : fillID env given.settlementID middle = (.ok (env.uuid middle.drawn), { middle with drawn := middle.drawn + 1 }) := by
    rw [unfilled]
    exact fill_value env middle
  rw [createSettlement, Tx.bind_ran filled]
  have value := insert_then Ledger.settlements (fun ledger settlements => { ledger with settlements }) { given with settlementID := env.uuid middle.drawn }
    pure { middle with drawn := middle.drawn + 1 } inserted
  rwa [Tx.bind_pure_right] at value

end Rows

section Reads

variable {ledger : Ledger}

theorem lock_ran {accountID : String} {snapshot : BillingBalanceSnapshot}
    (found : ledger.snapshots.find? (fun row => row.accountID = accountID) = some snapshot) :
    ensureAndLockBalanceSnapshot accountID ledger = (.ok snapshot, ledger) := by
  rw [ensureAndLockBalanceSnapshot, findSnapshot, Tx.bind_view]
  simp only [found]
  rfl

theorem reservation_ran {current : BillingReservation} (member : current ∈ ledger.reservations.rows) :
    lockReservation current.reservationID ledger = (.ok current, ledger) := by
  have found : ledger.reservations.find? (fun row => row.reservationID = current.reservationID) = some current := by
    apply Table.find?_of_mem _ _ current member (by simp)
    intro other same
    exact .inl (of_decide_eq_true same).symm
  rw [lockReservation, Tx.bind_view]
  simp only [found]
  rfl

end Reads

-- The keys that settling a reservation under a key writes.
def settleKeys (key : String) : Keys := { entry := ["entry:" ++ key], settlement := [key], event := ["outbox:" ++ key] }

-- No row of the store stands in the way of settling a reservation under a key.
structure Settleable (ledger : Ledger) (current : BillingReservation) (key : String) : Prop where
  member : current ∈ ledger.reservations.rows
  opened : current.status = .opened
  present : ¬ Blank current.reservationID
  account : ¬ Blank current.accountID
  tight : Tight key
  unsettled : ∀ row ∈ ledger.settlements.rows, row.reservationID ≠ current.reservationID
  settlement : ∀ row ∈ ledger.settlements.rows, row.idempotencyKey ≠ key
  entry : ∀ row ∈ ledger.entries.rows, row.idempotencyKey ≠ "entry:" ++ key
  event : ∀ row ∈ ledger.outbox.rows, row.idempotencyKey ≠ "outbox:" ++ key

-- Saving a row rewrites no id and no key.
theorem save_snapshot_ran (snapshot : BillingBalanceSnapshot) (ledger : Ledger) :
    ∃ snapshots, saveSnapshot snapshot ledger = (.ok (), { ledger with snapshots }) ∧
      ∀ accountID row, ledger.snapshots.find? (fun row => row.accountID = accountID) = some row →
        ∃ later, snapshots.find? (fun row => row.accountID = accountID) = some later := by
  refine ⟨_, rfl, fun accountID row found => ?_⟩
  have looked := Table.find?_update ledger.snapshots (fun row => row.accountID = snapshot.accountID) (fun row => row.accountID = accountID)
    (fun row => { snapshot with accountID := row.accountID }) (fun _ => rfl) fun _ => rfl
  rw [found] at looked
  exact ⟨_, looked⟩

theorem save_reservation_ran (reservation : BillingReservation) (ledger : Ledger) :
    ∃ reservations, saveReservation reservation ledger = (.ok (), { ledger with reservations }) ∧
      ∀ row ∈ reservations.rows, ∃ before ∈ ledger.reservations.rows,
        before.reservationID = row.reservationID ∧ before.idempotencyKey = row.idempotencyKey := by
  refine ⟨_, rfl, ?_⟩
  intro row member
  rw [Table.mem_update] at member
  rcases member with ⟨before, _⟩ | ⟨before, beforeIn, _, rfl⟩
  · exact ⟨row, before, rfl, rfl⟩
  · exact ⟨before, beforeIn, rfl, rfl⟩

theorem recordable_event {accountID aggregateType aggregateID kind key : String} (account : ¬ Blank accountID) (aggregate : Tight aggregateType)
    (id : Tight aggregateID) (event : Tight kind) (present : ¬ Blank key) :
    Recordable ⟨accountID, aggregateType, aggregateID, kind, "outbox:" ++ trimSpace key⟩ where
  account := account
  aggregate := aggregate
  id := id
  kind := event
  key := tight_append _ _ (by decide) (tight_trim_space key present).2

-- Tables that each gained the given rows.
theorem grown_of_appended {env : LedgerEnv} {keys : Keys} {ledger after : Ledger} (drawn : ledger.drawn ≤ after.drawn)
    (snapshots : ∀ accountID snapshot, ledger.snapshots.find? (fun row => row.accountID = accountID) = some snapshot →
      ∃ later, after.snapshots.find? (fun row => row.accountID = accountID) = some later)
    (reservations : ∀ row ∈ after.reservations.rows, ∃ before ∈ ledger.reservations.rows,
      before.reservationID = row.reservationID ∧ before.idempotencyKey = row.idempotencyKey)
    {entries : List BillingLedgerEntry} {settlements : List BillingSettlement} {events : List BillingOutboxEvent}
    (posted : after.entries.rows = ledger.entries.rows ++ entries) (settled : after.settlements.rows = ledger.settlements.rows ++ settlements)
    (noted : after.outbox.rows = ledger.outbox.rows ++ events)
    (entry : ∀ row ∈ entries, row.idempotencyKey ∈ keys.entry ∧ Drawn env ledger after row.entryID)
    (settlement : ∀ row ∈ settlements, row.idempotencyKey ∈ keys.settlement ∧ Drawn env ledger after row.settlementID)
    (event : ∀ row ∈ events, row.idempotencyKey ∈ keys.event ∧ Drawn env ledger after row.eventID) : Grown env keys ledger after where
  drawn := drawn
  snapshots accountID snapshot found := by
    obtain ⟨later, seen⟩ := snapshots accountID snapshot found
    rw [seen, Ledger.balance, balanceOf, seen, Option.getD_some]
  reservations row member := .inl (reservations row member)
  entries row member := by
    rw [posted, List.mem_append] at member
    exact member.imp_right (entry row)
  settlements row member := by
    rw [settled, List.mem_append] at member
    exact member.imp_right (settlement row)
  outbox row member := by
    rw [noted, List.mem_append] at member
    exact member.imp_right (event row)

section Settle

variable {env : LedgerEnv} {ledger : Ledger} {current : BillingReservation} {params : SettleReservationParams}

theorem settle_ran (params : SettleReservationParams) (unused : Unused env ledger) (settleable : Settleable ledger current params.idempotencyKey)
    (named : params.reservationID = current.reservationID) (actual : 0 ≤ params.actualAmount)
    (found : ledger.snapshots.find? (fun row => row.accountID = current.accountID) = some (ledger.balance current.accountID))
    (covered : current.reservedAmount ≤ (ledger.balance current.accountID).reservedBalance)
    (affordable : params.actualAmount - current.reservedAmount ≤ 0 ∨
      params.actualAmount - current.reservedAmount ≤ (ledger.balance current.accountID).availableBalance) :
    ∃ settlement after, settleReservationTx env params ledger = (.ok settlement, after) ∧ Grown env (settleKeys params.idempotencyKey) ledger after := by
  obtain ⟨member, opened, present, account, tight, unsettled, freeSettlement, freeEntry, freeEvent⟩ := settleable
  have keyed : trimSpace params.idempotencyKey = params.idempotencyKey := trim_space_tight _ tight
  have arguments : ¬ (Blank params.reservationID ∨ Blank params.idempotencyKey) := by simp [named, present, not_blank_of_tight _ tight]
  have missing : ledger.settlements.find? (fun row => row.idempotencyKey = params.idempotencyKey) = none := by
    rw [Table.find?_eq_none_iff]
    intro row rowIn
    exact decide_eq_false (freeSettlement row rowIn)
  rw [settleReservationTx, Tx.bind_accepted arguments, Tx.bind_accepted (by omega), findSettlementByIdempotency, Tx.bind_view]
  simp only [missing, named]
  rw [Tx.bind_ran (reservation_ran member), Tx.bind_accepted (by simp [opened]), Tx.bind_accepted (by simp [opened]), Tx.bind_ran (lock_ran found),
    Tx.bind_accepted (by omega), Tx.bind_accepted (by omega)]
  obtain ⟨snapshots, saved, seen⟩ := save_snapshot_ran (settleFunds (ledger.balance current.accountID) current.reservedAmount params.actualAmount) ledger
  rw [Tx.bind_ran saved, Tx.bind_view]
  obtain ⟨settlements, created, settled⟩ := settlement_ran unused { ledger with snapshots } le_rfl rfl
    { reservationID := current.reservationID, usageEvidenceID := trimSpace params.usageEvidenceID, actualAmount := params.actualAmount,
      deltaAmount := params.actualAmount - current.reservedAmount, status := .completed, idempotencyKey := trimSpace params.idempotencyKey,
      settledAt := ledger.clock } rfl unsettled (by rwa [keyed])
  rw [Tx.bind_ran created]
  obtain ⟨reservations, kept, same⟩ := save_reservation_ran { current with status := .settled }
    { ledger with snapshots, settlements, drawn := ledger.drawn + 1 }
  rw [Tx.bind_ran kept]
  have recordable := recordable_event account (show Tight "settlement" by decide) (unused.tight ledger.drawn)
    (show Tight "billing.reservation_settled" by decide) (not_blank_of_tight _ tight)
  split
  · rename_i moved
    obtain ⟨entries, posted, appended⟩ := entry_ran unused { ledger with snapshots, settlements, reservations, drawn := ledger.drawn + 1 } (Nat.le_succ _) rfl
      (settlementEntry current.accountID (env.uuid ledger.drawn) (trimSpace params.idempotencyKey) (params.actualAmount - current.reservedAmount)
        (settleFunds (ledger.balance current.accountID) current.reservedAmount params.actualAmount).availableBalance) rfl rfl (by rwa [keyed])
    obtain ⟨outbox, recorded, noted⟩ := record_ran unused
      { ledger with snapshots, settlements, reservations, entries, drawn := ledger.drawn + 2 } (by simp) rfl _ recordable (by rwa [keyed])
    rw [Tx.bind_ran posted, Tx.bind_ran recorded]
    refine ⟨_, _, rfl, grown_of_appended (by simp; omega) seen same appended settled noted ?_ ?_ ?_⟩
    · rw [List.forall_mem_singleton]
      exact ⟨by simp [entryOf, settlementEntry, settleKeys, keyed], ledger.drawn + 1, by omega, by simp, rfl⟩
    · rw [List.forall_mem_singleton]
      exact ⟨by simp [settleKeys, keyed], ledger.drawn, le_rfl, by dsimp only; omega, rfl⟩
    · rw [List.forall_mem_singleton]
      exact ⟨by simp [eventOf, settleKeys, keyed], ledger.drawn + 2, by omega, by simp, rfl⟩
  · obtain ⟨outbox, recorded, noted⟩ := record_ran unused { ledger with snapshots, settlements, reservations, drawn := ledger.drawn + 1 }
      (Nat.le_succ _) rfl _ recordable (by rwa [keyed])
    rw [Tx.bind_ran recorded]
    refine ⟨_, _, rfl, grown_of_appended (by simp; omega) seen same (List.append_nil _).symm settled noted ?_ ?_ ?_⟩
    · simp
    · rw [List.forall_mem_singleton]
      exact ⟨by simp [settleKeys, keyed], ledger.drawn, le_rfl, by dsimp only; omega, rfl⟩
    · rw [List.forall_mem_singleton]
      exact ⟨by simp [eventOf, settleKeys, keyed], ledger.drawn + 1, by omega, by simp, rfl⟩

-- The call settles the reservation it names.
theorem settled_ran (settleable : Settleable ledger current params.idempotencyKey) (named : params.reservationID = current.reservationID)
    {settlement : BillingSettlement} {after : Ledger} (ran : settleReservationTx env params ledger = (.ok settlement, after)) :
    Settled ledger params current settlement after := by
  obtain ⟨_, old, key, _⟩ | ⟨other, otherIn, settled⟩ := settled_of_settle env params ledger after settlement ran
  · exact (settleable.settlement settlement old key).elim
  · have same : other = current := Table.eq_of_clash _ other current otherIn settleable.member (.inl (settled.named.trans named))
    exact same ▸ settled

-- Settling one reservation leaves the way free for another under another key.
theorem Settleable.kept {other : BillingReservation} {otherKey : String} (free : Settleable ledger other otherKey)
    (settleable : Settleable ledger current params.idempotencyKey) {settlement : BillingSettlement} {after : Ledger}
    (settled : Settled ledger params current settlement after) (grown : Grown env (settleKeys params.idempotencyKey) ledger after)
    (apart : other ≠ current) (keys : otherKey ≠ params.idempotencyKey) : Settleable after other otherKey where
  member := (settled.reservations.kept other free.member).resolve_left apart
  opened := free.opened
  present := free.present
  account := free.account
  tight := free.tight
  unsettled row member := by
    rw [settled.settlements, List.mem_append, List.mem_singleton] at member
    rcases member with before | rfl
    · exact free.unsettled row before
    · obtain ⟨_, _, rfl⟩ := settled.completed
      intro same
      exact apart (Table.eq_of_clash _ other current free.member settleable.member (.inl same.symm))
  settlement row member := by
    rcases grown.settlements row member with before | ⟨key, _⟩
    · exact free.settlement row before
    · rw [List.mem_singleton.mp key]
      exact keys.symm
  entry row member := by
    rcases grown.entries row member with before | ⟨key, _⟩
    · exact free.entry row before
    · rw [List.mem_singleton.mp key]
      simpa using keys.symm
  event row member := by
    rcases grown.outbox row member with before | ⟨key, _⟩
    · exact free.event row before
    · rw [List.mem_singleton.mp key]
      simpa using keys.symm

end Settle

end CodeGo.Billing
