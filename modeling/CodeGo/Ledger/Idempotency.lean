import CodeGo.Ledger.Replay

set_option autoImplicit false

namespace CodeGo.Billing

open Relational Text

/- Rows are never deleted and keys are stored trimmed, so the row that a committed operation
   leaves behind stops every repetition: a lookup answers with it, or an insert runs into it. -/

structure Trimmed (ledger : Ledger) : Prop where
  entries : ∀ entry ∈ ledger.entries.rows, entry.entryType ≠ .adjustment → trimSpace entry.idempotencyKey = entry.idempotencyKey
  reservations : ∀ reservation ∈ ledger.reservations.rows, trimSpace reservation.idempotencyKey = reservation.idempotencyKey

theorem trim_entry_key (key : String) : trimSpace ("entry:" ++ trimSpace key) = "entry:" ++ trimSpace key := by
  by_cases blank : Blank key
  · rw [show trimSpace key = "" from blank]
    decide
  · exact trim_space_tight _ (tight_append _ _ (by decide) (tight_trim_space key blank).2)

theorem trimmed_append (ledger after : Ledger) (entries : List BillingLedgerEntry) (trimmed : Trimmed ledger)
    (appended : after.entries.rows = ledger.entries.rows ++ entries)
    (new : ∀ entry ∈ entries, entry.entryType ≠ .adjustment → trimSpace entry.idempotencyKey = entry.idempotencyKey)
    (reservations : ∀ reservation ∈ after.reservations.rows, trimSpace reservation.idempotencyKey = reservation.idempotencyKey) :
    Trimmed after := by
  refine ⟨?_, reservations⟩
  intro entry member
  rw [appended, List.mem_append] at member
  rcases member with before | now
  · exact trimmed.entries entry before
  · exact new entry now

theorem trimmed_replaced (reservations next : Table BillingReservation) (old new : BillingReservation)
    (replaced : Table.Replaced reservations next old new) (sameKey : new.idempotencyKey = old.idempotencyKey)
    (trimmed : ∀ row ∈ reservations.rows, trimSpace row.idempotencyKey = row.idempotencyKey) :
    ∀ row ∈ next.rows, trimSpace row.idempotencyKey = row.idempotencyKey := by
  intro row member
  rcases replaced.mem row member with rfl | ⟨kept, _⟩
  · rw [sameKey]
    exact trimmed old replaced.old_mem
  · exact trimmed row kept

theorem Trimmed.effect {ledger after : Ledger} {op : LedgerOp} (trimmed : Trimmed ledger) (effect : Effect ledger after op) :
    Trimmed after := by
  cases effect with
  | unmoved _ same => exact ⟨by rw [same.entries]; exact trimmed.entries, by rw [same.reservations]; exact trimmed.reservations⟩
  | audited params entry audited =>
      exact trimmed_append ledger after [entry] trimmed audited.entries (by simp [audited.kind])
        (by rw [audited.reservations]; exact trimmed.reservations)
  | credited params entry credited =>
      exact trimmed_append ledger after [entry] trimmed credited.posted.entries (by simp [credited.line.key])
        (by rw [credited.reservations]; exact trimmed.reservations)
  | held params reservation held =>
      obtain ⟨entry, posted, line⟩ := held.posted
      obtain ⟨reservationID, now, rfl⟩ := held.opened
      refine trimmed_append ledger after [entry] trimmed posted.entries (by simp [line.key, trim_entry_key]) ?_
      intro row member
      rw [held.reservations, List.mem_append, List.mem_singleton] at member
      rcases member with before | rfl
      · exact trimmed.reservations row before
      · simp [openReservation]
  | raised params current raised =>
      obtain ⟨entry, posted, line⟩ := raised.posted
      exact trimmed_append ledger after [entry] trimmed posted.entries (by simp [line.key])
        (trimmed_replaced _ _ _ _ raised.reservations rfl trimmed.reservations)
  | released params current released =>
      obtain ⟨entry, posted, line⟩ := released.posted
      exact trimmed_append ledger after [entry] trimmed posted.entries (by simp [line.key])
        (trimmed_replaced _ _ _ _ released.reservations rfl trimmed.reservations)
  | dropped params current dropped =>
      exact trimmed_append ledger after [] trimmed (by simp [dropped.entries]) (by simp)
        (trimmed_replaced _ _ _ _ dropped.reservations rfl trimmed.reservations)
  | settled params current settlement settled =>
      obtain ⟨entries, posted, shape⟩ := settled.posted
      obtain ⟨settlementID, settledAt, completed⟩ := settled.completed
      refine trimmed_append ledger after entries trimmed posted.entries ?_
        (trimmed_replaced _ _ _ _ settled.reservations rfl trimmed.reservations)
      rcases shape with ⟨_, rfl⟩ | ⟨_, entry, _, _, _, rfl, rfl⟩
      · simp
      · simp [settlementEntry, completed, trim_entry_key]
  | adjusted params entry _ adjusted =>
      exact trimmed_append ledger after [entry] trimmed adjusted.posted.entries (by simp [adjusted.line.key])
        (by rw [adjusted.reservations]; exact trimmed.reservations)

-- What survives of a ledger in every later one.
structure Extends (ledger later : Ledger) : Prop where
  entries : ∀ entry ∈ ledger.entries.rows, entry ∈ later.entries.rows
  settlements : ∀ settlement ∈ ledger.settlements.rows, settlement ∈ later.settlements.rows
  reservations : ∀ reservation ∈ ledger.reservations.rows, ∃ stored ∈ later.reservations.rows,
    stored.reservationID = reservation.reservationID ∧ stored.idempotencyKey = reservation.idempotencyKey
  closed : ∀ reservation ∈ ledger.reservations.rows, reservation.status ≠ .opened → reservation ∈ later.reservations.rows

theorem Extends.refl (ledger : Ledger) : Extends ledger ledger :=
  ⟨fun _ member => member, fun _ member => member, fun row member => ⟨row, member, rfl, rfl⟩, fun _ member _ => member⟩

theorem Extends.trans {first second third : Ledger} (early : Extends first second) (late : Extends second third) : Extends first third := by
  refine ⟨fun entry member => late.entries entry (early.entries entry member),
    fun settlement member => late.settlements settlement (early.settlements settlement member), ?_,
    fun reservation member closed => late.closed reservation (early.closed reservation member closed) closed⟩
  intro reservation member
  obtain ⟨middle, middleIn, sameID, sameKey⟩ := early.reservations reservation member
  obtain ⟨stored, storedIn, storedID, storedKey⟩ := late.reservations middle middleIn
  exact ⟨stored, storedIn, storedID.trans sameID, storedKey.trans sameKey⟩

theorem extends_same (ledger after : Ledger) (entries : ∀ entry ∈ ledger.entries.rows, entry ∈ after.entries.rows)
    (reservations : after.reservations = ledger.reservations) (settlements : after.settlements = ledger.settlements) :
    Extends ledger after := by
  refine ⟨entries, by simp [settlements], ?_, by simp +contextual [reservations]⟩
  intro reservation member
  exact ⟨reservation, reservations ▸ member, rfl, rfl⟩

theorem extends_replaced (ledger after : Ledger) (old new : BillingReservation)
    (entries : ∀ entry ∈ ledger.entries.rows, entry ∈ after.entries.rows)
    (settlements : ∀ settlement ∈ ledger.settlements.rows, settlement ∈ after.settlements.rows)
    (replaced : Table.Replaced ledger.reservations after.reservations old new) (opened : old.status = .opened)
    (sameID : new.reservationID = old.reservationID) (sameKey : new.idempotencyKey = old.idempotencyKey) : Extends ledger after := by
  refine ⟨entries, settlements, ?_, fun reservation member closed => kept_of_replaced _ _ _ _ _ replaced opened member closed⟩
  intro reservation member
  rcases replaced.kept reservation member with rfl | kept
  · exact ⟨new, replaced.new_mem, sameID, sameKey⟩
  · exact ⟨reservation, kept, rfl, rfl⟩

theorem Effect.extends {ledger after : Ledger} {op : LedgerOp} (effect : Effect ledger after op) : Extends ledger after := by
  cases effect with
  | unmoved _ same => exact extends_same ledger after (by simp [same.entries]) same.reservations same.settlements
  | audited params entry audited =>
      exact extends_same ledger after (by simp +contextual [audited.entries]) audited.reservations audited.settlements
  | credited params entry credited =>
      exact extends_same ledger after (by simp +contextual [credited.posted.entries]) credited.reservations credited.settlements
  | held params reservation held =>
      obtain ⟨entry, posted, _⟩ := held.posted
      refine ⟨by simp +contextual [posted.entries], by simp [held.settlements], ?_, by simp +contextual [held.reservations]⟩
      intro row member
      exact ⟨row, by simp [held.reservations, member], rfl, rfl⟩
  | raised params current raised =>
      obtain ⟨entry, posted, _⟩ := raised.posted
      exact extends_replaced ledger after _ _ (by simp +contextual [posted.entries]) (by simp [raised.settlements]) raised.reservations
        raised.opened rfl rfl
  | released params current released =>
      obtain ⟨entry, posted, _⟩ := released.posted
      exact extends_replaced ledger after _ _ (by simp +contextual [posted.entries]) (by simp [released.settlements]) released.reservations
        released.opened rfl rfl
  | dropped params current dropped =>
      exact extends_replaced ledger after _ _ (by simp [dropped.entries]) (by simp [dropped.settlements]) dropped.reservations
        dropped.opened rfl rfl
  | settled params current settlement settled =>
      obtain ⟨entries, posted, _⟩ := settled.posted
      exact extends_replaced ledger after _ _ (by simp +contextual [posted.entries]) (by simp +contextual [settled.settlements])
        settled.reservations settled.opened rfl rfl
  | adjusted params entry _ adjusted =>
      exact extends_same ledger after (by simp +contextual [adjusted.posted.entries]) adjusted.reservations adjusted.settlements

theorem extends_run (env : LedgerEnv) (ledger : Ledger) (ops : List LedgerOp) : Extends ledger (run (step env) ledger ops) :=
  run_keeps (step env) (Extends ledger) (fun _ => True)
    (fun state op _ kept => kept.trans (step_effect env state op).extends) ledger (.refl ledger) ops (fun _ _ => trivial)

theorem trimmed_run (env : LedgerEnv) (ops : List LedgerOp) : Trimmed (run (step env) Ledger.empty ops) :=
  run_keeps (step env) Trimmed (fun _ => True) (fun state op _ kept => kept.effect (step_effect env state op)) Ledger.empty
    ⟨by simp [Ledger.empty], by simp [Ledger.empty]⟩ ops (fun _ _ => trivial)

-- The operations that move money under an idempotency key.
def LedgerOp.MovesMoney : LedgerOp → Prop
  | .creditAccount _ | .createReservation _ | .increaseReservation _ | .releaseReservation _ | .settleReservation _
  | .adjustAvailableBalance _ => True
  | _ => False

-- The mark a committed operation leaves, in a form every later ledger still has.
def Done (ledger : Ledger) : LedgerOp → LedgerRow → Prop
  | .creditAccount params, .entry row =>
      row ∈ ledger.entries.rows ∧ row.idempotencyKey = trimSpace params.idempotencyKey
  | .createReservation params, .reservation row =>
      ∃ stored ∈ ledger.reservations.rows, stored.reservationID = row.reservationID ∧ stored.idempotencyKey = trimSpace params.idempotencyKey
  | .increaseReservation params, .reservation row =>
      row.reservationID = params.reservationID ∧ ∃ entry ∈ ledger.entries.rows, entry.idempotencyKey = trimSpace params.idempotencyKey
  | .releaseReservation params, .reservation row =>
      row ∈ ledger.reservations.rows ∧ row.status = .released ∧ row.reservationID = params.reservationID
  | .settleReservation params, .settlement row => row ∈ ledger.settlements.rows ∧ row.reservationID = params.reservationID
  | .adjustAvailableBalance params, .entry row =>
      row ∈ ledger.entries.rows ∧ row.idempotencyKey = trimSpace params.idempotencyKey ∧ params.usageAmount ≠ 0
  | .adjustAvailableBalance params, .nothing => params.usageAmount = 0
  | _, _ => False

-- A repetition answers with the row of the first call; a reservation may have moved on since.
def Original (ledger : Ledger) : LedgerRow → LedgerRow → Prop
  | .entry first, .entry again => again = first
  | .settlement first, .settlement again => again = first
  | .reservation first, .reservation again => again ∈ ledger.reservations.rows ∧ again.reservationID = first.reservationID
  | .nothing, .nothing => True
  | _, _ => False

theorem Done.later {ledger later : Ledger} {op : LedgerOp} {row : LedgerRow} (done : Done ledger op row) (extends_ : Extends ledger later) :
    Done later op row := by
  cases op <;> cases row <;> simp only [Done] at done ⊢
  · exact ⟨extends_.entries _ done.1, done.2⟩
  · obtain ⟨stored, member, sameID, sameKey⟩ := done
    obtain ⟨kept, keptIn, keptID, keptKey⟩ := extends_.reservations stored member
    exact ⟨kept, keptIn, keptID.trans sameID, keptKey.trans sameKey⟩
  · obtain ⟨named, entry, member, key⟩ := done
    exact ⟨named, entry, extends_.entries entry member, key⟩
  · exact ⟨extends_.closed _ done.1 (by simp [done.2.1]), done.2⟩
  · exact ⟨extends_.settlements _ done.1, done.2⟩
  · exact ⟨extends_.entries _ done.1, done.2⟩
  · exact done

theorem entry_key_unique (ledger : Ledger) (first second : BillingLedgerEntry) (firstIn : first ∈ ledger.entries.rows)
    (secondIn : second ∈ ledger.entries.rows) (same : first.idempotencyKey = second.idempotencyKey) : first = second :=
  Table.eq_of_clash ledger.entries first second firstIn secondIn (.inr same)

theorem entry_key_fresh (ledger after : Ledger) (entry old : BillingLedgerEntry)
    (appended : after.entries.rows = ledger.entries.rows ++ [entry]) (member : old ∈ ledger.entries.rows) :
    old.idempotencyKey ≠ entry.idempotencyKey := by
  intro same
  have pairs := after.entries.unique
  rw [appended, List.pairwise_append] at pairs
  exact pairs.2.2 old member entry (by simp) (.inr same)

theorem reservation_key_fresh (ledger after : Ledger) (reservation old : BillingReservation)
    (appended : after.reservations.rows = ledger.reservations.rows ++ [reservation]) (member : old ∈ ledger.reservations.rows) :
    old.idempotencyKey ≠ reservation.idempotencyKey := by
  intro same
  have pairs := after.reservations.unique
  rw [appended, List.pairwise_append] at pairs
  exact pairs.2.2 old member reservation (by simp) (.inr same)

theorem settlement_reservation_fresh (ledger after : Ledger) (settlement old : BillingSettlement)
    (appended : after.settlements.rows = ledger.settlements.rows ++ [settlement]) (member : old ∈ ledger.settlements.rows) :
    old.reservationID ≠ settlement.reservationID := by
  intro same
  have pairs := after.settlements.unique
  rw [appended, List.pairwise_append] at pairs
  exact pairs.2.2 old member settlement (by simp) (.inr (.inl same))

-- An entry that moved money and carries the raw key proves that the raw key was trimmed all along.
theorem trimmed_key (ledger : Ledger) (trimmed : Trimmed ledger) (entry : BillingLedgerEntry) (key : String)
    (member : entry ∈ ledger.entries.rows) (moves : entry.entryType ≠ .adjustment) (raw : entry.idempotencyKey = key) :
    entry.idempotencyKey = trimSpace key := by
  rw [← trimmed.entries entry member moves, raw]

theorem done_of_committed (env : LedgerEnv) (ledger after : Ledger) (op : LedgerOp) (row : LedgerRow) (money : op.MovesMoney)
    (trimmed : Trimmed ledger) (ran : execute env op ledger = (.ok row, after)) : Done after op row := by
  cases op with
  | creditAccount params =>
      simp only [execute, Tx.ran_bind, Tx.ran_pure] at ran
      obtain ⟨entry, _, credit, rfl, rfl⟩ := ran
      obtain ⟨rfl, member, raw, kind, _⟩ | credited := credited_of_credit env params _ _ entry credit
      · exact ⟨member, trimmed_key _ trimmed entry _ member (by simp [kind]) raw⟩
      · exact ⟨by simp [credited.posted.entries], credited.line.key⟩
  | createReservation params =>
      simp only [execute, Tx.ran_bind, Tx.ran_pure] at ran
      obtain ⟨reservation, _, created, rfl, rfl⟩ := ran
      obtain ⟨rfl, member, raw, _⟩ | held := held_of_create env params _ _ reservation created
      · exact ⟨reservation, member, rfl, by rw [← trimmed.reservations reservation member, raw]⟩
      · obtain ⟨reservationID, now, opened⟩ := held.opened
        exact ⟨reservation, by simp [held.reservations], rfl, by simp [opened, openReservation]⟩
  | increaseReservation params =>
      simp only [execute, Tx.ran_bind, Tx.ran_pure] at ran
      obtain ⟨reservation, _, increased, rfl, rfl⟩ := ran
      obtain ⟨current, _, named, _, ⟨rfl, rfl, entry, member, key⟩ | ⟨raised, rfl⟩⟩ := raised_of_increase env params _ _ reservation increased
      · exact ⟨named, entry, member, key⟩
      · obtain ⟨entry, posted, line⟩ := raised.posted
        exact ⟨named, entry, by simp [posted.entries], line.key⟩
  | releaseReservation params =>
      simp only [execute, Tx.ran_bind, Tx.ran_pure] at ran
      obtain ⟨reservation, _, closed, rfl, rfl⟩ := ran
      obtain ⟨rfl, member, named, status⟩ | ⟨current, _, rfl, released | dropped⟩ := released_of_release env params _ _ reservation closed
      · exact ⟨member, status, named⟩
      · exact ⟨released.reservations.new_mem, rfl, released.named⟩
      · exact ⟨dropped.reservations.new_mem, rfl, dropped.named⟩
  | settleReservation params =>
      simp only [execute, Tx.ran_bind, Tx.ran_pure] at ran
      obtain ⟨settlement, _, closing, rfl, rfl⟩ := ran
      obtain ⟨rfl, member, _, named, _⟩ | ⟨current, _, settled⟩ := settled_of_settle env params _ _ settlement closing
      · exact ⟨member, named⟩
      · obtain ⟨settlementID, settledAt, completed⟩ := settled.completed
        exact ⟨by simp [settled.settlements], by simp [completed, settled.named]⟩
  | adjustAvailableBalance params =>
      obtain ⟨result, moved, rfl⟩ := ran_adjust env params ledger after row ran
      obtain ⟨rfl, zero, rfl⟩ | ⟨rfl, entry, member, rfl, raw, kind, nonzero⟩ | ⟨_, entry, rfl, adjusted⟩ :=
        adjusted_of_adjust env params _ _ result moved
      · exact zero
      · refine ⟨member, trimmed_key _ trimmed entry _ member ?_ raw, nonzero⟩
        rw [kind]
        split_ifs <;> simp
      · exact ⟨by simp [adjusted.posted.entries], adjusted.line.key, adjusted.nonzero⟩
  | _ => exact money.elim

theorem repeated_of_done (env : LedgerEnv) (ledger after : Ledger) (op : LedgerOp) (first again : LedgerRow) (trimmed : Trimmed ledger)
    (done : Done ledger op first) (ran : execute env op ledger = (.ok again, after)) : after = ledger ∧ Original ledger first again := by
  cases op with
  | creditAccount params =>
      simp only [execute, Tx.ran_bind, Tx.ran_pure] at ran
      obtain ⟨entry, _, credit, rfl, rfl⟩ := ran
      cases first with
      | entry original =>
          obtain ⟨same, member, raw, kind, _⟩ | credited := credited_of_credit env params _ _ entry credit
          · have key := trimmed_key _ trimmed entry _ member (by simp [kind]) raw
            exact ⟨same, entry_key_unique ledger entry original member done.1 (key.trans done.2.symm)⟩
          · exact (entry_key_fresh ledger _ entry original credited.posted.entries done.1 (done.2.trans credited.line.key.symm)).elim
      | _ => exact done.elim
  | createReservation params =>
      simp only [execute, Tx.ran_bind, Tx.ran_pure] at ran
      obtain ⟨reservation, _, created, rfl, rfl⟩ := ran
      cases first with
      | reservation original =>
          obtain ⟨stored, storedIn, storedID, storedKey⟩ := done
          obtain ⟨same, member, raw, _⟩ | held := held_of_create env params _ _ reservation created
          · have key : reservation.idempotencyKey = trimSpace params.idempotencyKey := by
              rw [← trimmed.reservations reservation member, raw]
            have isStored := Table.eq_of_clash ledger.reservations reservation stored member storedIn (.inr (key.trans storedKey.symm))
            exact ⟨same, member, isStored ▸ storedID⟩
          · obtain ⟨reservationID, now, opened⟩ := held.opened
            have newKey : reservation.idempotencyKey = trimSpace params.idempotencyKey := by simp [opened, openReservation]
            exact (reservation_key_fresh ledger _ reservation stored held.reservations storedIn (storedKey.trans newKey.symm)).elim
      | _ => exact done.elim
  | increaseReservation params =>
      simp only [execute, Tx.ran_bind, Tx.ran_pure] at ran
      obtain ⟨reservation, _, increased, rfl, rfl⟩ := ran
      cases first with
      | reservation original =>
          obtain ⟨named, entry, entryIn, key⟩ := done
          obtain ⟨current, currentIn, currentNamed, _, ⟨same, rfl, _⟩ | ⟨raised, _⟩⟩ := raised_of_increase env params _ _ reservation increased
          · exact ⟨same, currentIn, currentNamed.trans named.symm⟩
          · obtain ⟨fresh, posted, line⟩ := raised.posted
            exact (entry_key_fresh ledger _ fresh entry posted.entries entryIn (key.trans line.key.symm)).elim
      | _ => exact done.elim
  | releaseReservation params =>
      simp only [execute, Tx.ran_bind, Tx.ran_pure] at ran
      obtain ⟨reservation, _, closed, rfl, rfl⟩ := ran
      cases first with
      | reservation original =>
          obtain ⟨member, status, named⟩ := done
          have notOpen : original.status ≠ .opened := by simp [status]
          obtain ⟨same, againIn, againNamed, _⟩ | ⟨current, currentIn, _, released | dropped⟩ :=
            released_of_release env params _ _ reservation closed
          · exact ⟨same, againIn, againNamed.trans named.symm⟩
          · exact (notOpen (open_of_named ledger current original currentIn member (released.named.trans named.symm) released.opened)).elim
          · exact (notOpen (open_of_named ledger current original currentIn member (dropped.named.trans named.symm) dropped.opened)).elim
      | _ => exact done.elim
  | settleReservation params =>
      simp only [execute, Tx.ran_bind, Tx.ran_pure] at ran
      obtain ⟨settlement, _, closing, rfl, rfl⟩ := ran
      cases first with
      | settlement original =>
          obtain ⟨same, member, _, named, _⟩ | ⟨current, _, settled⟩ := settled_of_settle env params _ _ settlement closing
          · exact ⟨same, Table.eq_of_clash ledger.settlements settlement original member done.1 (.inr (.inl (named.trans done.2.symm)))⟩
          · obtain ⟨settlementID, settledAt, completed⟩ := settled.completed
            have names : settlement.reservationID = params.reservationID := by simp [completed, settled.named]
            exact (settlement_reservation_fresh ledger _ settlement original settled.settlements done.1 (done.2.trans names.symm)).elim
      | _ => exact done.elim
  | adjustAvailableBalance params =>
      obtain ⟨result, moved, rfl⟩ := ran_adjust env params ledger after again ran
      cases first with
      | entry original =>
          obtain ⟨_, zero, _⟩ | ⟨same, entry, member, rfl, raw, kind, _⟩ | ⟨_, entry, _, adjusted⟩ :=
            adjusted_of_adjust env params _ _ result moved
          · exact (done.2.2 zero).elim
          · have moves : entry.entryType ≠ .adjustment := by
              rw [kind]
              split_ifs <;> simp
            have key := trimmed_key _ trimmed entry _ member moves raw
            exact ⟨same, entry_key_unique ledger entry original member done.1 (key.trans done.2.1.symm)⟩
          · exact (entry_key_fresh ledger _ entry original adjusted.posted.entries done.1 (done.2.1.trans adjusted.line.key.symm)).elim
      | nothing =>
          obtain ⟨same, _, rfl⟩ | ⟨_, _, _, _, _, _, nonzero⟩ | ⟨_, _, _, adjusted⟩ := adjusted_of_adjust env params _ _ result moved
          · exact ⟨same, trivial⟩
          · exact (nonzero done).elim
          · exact (adjusted.nonzero done).elim
      | _ => exact done.elim
  | _ => exact done.elim

-- Once an operation has committed, repeating it at any later time and any number of times changes nothing,
-- and a repetition that is not refused answers with the row of the first call.
theorem at_most_once (env : LedgerEnv) (earlier later : List LedgerOp) (op : LedgerOp) (money : op.MovesMoney) (row : LedgerRow)
    (committed : (transact env op (run (step env) Ledger.empty earlier)).1 = .ok row) (times : Nat) :
    let ledger := run (step env) Ledger.empty (earlier ++ op :: later)
    run (step env) ledger (List.replicate times op) = ledger ∧
      ∀ again, (transact env op ledger).1 = .ok again → Original ledger row again := by
  intro ledger
  have answered : ∀ (state : Ledger) (answer : LedgerRow), (transact env op state).1 = .ok answer →
      execute env op state = (.ok answer, step env state op) := by
    intro state answer answers
    exact (Tx.ran_atomic _ _ _ _).mp (Prod.ext answers rfl)
  have first : Done (step env (run (step env) Ledger.empty earlier) op) op row :=
    done_of_committed env _ _ op row money (trimmed_run env earlier) (answered _ _ committed)
  have splits : ledger = run (step env) (step env (run (step env) Ledger.empty earlier) op) later := by
    simp [ledger, run_append]
  have done : Done ledger op row := by
    rw [splits]
    exact first.later (extends_run env _ later)
  have trimmed : Trimmed ledger := trimmed_run env _
  refine ⟨run_replicate_fixed (step env) ledger op ?_ times, fun again answers => ?_⟩
  · rcases Tx.atomic_store (execute env op) ledger with ⟨again, ran⟩ | ⟨_, rolledBack⟩
    · exact (repeated_of_done env ledger _ op row again trimmed done ran).1
    · exact rolledBack
  · exact (repeated_of_done env ledger _ op row again trimmed done (answered _ _ answers)).2

def paddedGrant : LedgerOp := .creditAccount { accountID := "wallet", amount := 10, idempotencyKey := " grant " }

-- The raw key of a padded grant is never found; the trimmed key of its entry stops the repetition.
theorem at_most_once_padded_grant :
    let ledger := run (step sampleEnv) Ledger.empty
      ([] ++ paddedGrant :: [.createReservation { accountID := "wallet", reservedAmount := 6, idempotencyKey := "hold" }])
    run (step sampleEnv) ledger (List.replicate 3 paddedGrant) = ledger ∧
      (ledger.balance "wallet").availableBalance = 4 ∧ (ledger.balance "wallet").reservedBalance = 6 :=
  ⟨(at_most_once sampleEnv [] [.createReservation { accountID := "wallet", reservedAmount := 6, idempotencyKey := "hold" }] paddedGrant
      trivial _ rfl 3).1, by decide, by decide⟩

end CodeGo.Billing
