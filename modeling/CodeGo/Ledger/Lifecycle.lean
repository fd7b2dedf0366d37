import CodeGo.Ledger.Effects

set_option autoImplicit false

namespace CodeGo.Billing

open Relational Text

def releaseEntries (ledger : Ledger) (reservationID : String) : List BillingLedgerEntry :=
  ledger.entries.rows.filter fun entry => entry.entryType = .reserveRelease ∧ entry.referenceID = reservationID

def settlementRows (ledger : Ledger) (reservationID : String) : List BillingSettlement :=
  ledger.settlements.rows.filter fun settlement => settlement.reservationID = reservationID

-- The three states of a reservation, each tied to the rows that must and must not exist.
structure IsOpen (ledger : Ledger) (reservation : BillingReservation) : Prop where
  status : reservation.status = .opened
  unsettled : settlementRows ledger reservation.reservationID = []
  unreleased : releaseEntries ledger reservation.reservationID = []

structure IsReleased (ledger : Ledger) (reservation : BillingReservation) : Prop where
  status : reservation.status = .released
  unsettled : settlementRows ledger reservation.reservationID = []
  released : ∃ entry, releaseEntries ledger reservation.reservationID = [entry] ∧ entry.amount = reservation.reservedAmount

structure IsSettled (ledger : Ledger) (reservation : BillingReservation) : Prop where
  status : reservation.status = .settled
  settled : ∃ settlement, settlementRows ledger reservation.reservationID = [settlement] ∧
    settlement.deltaAmount = settlement.actualAmount - reservation.reservedAmount
  unreleased : releaseEntries ledger reservation.reservationID = []

def Staged (ledger : Ledger) (reservation : BillingReservation) : Prop :=
  IsOpen ledger reservation ∨ IsReleased ledger reservation ∨ IsSettled ledger reservation

def Known (ledger : Ledger) (reservationID : String) : Prop :=
  ∃ reservation ∈ ledger.reservations.rows, reservation.reservationID = reservationID

structure Lifecycle (ledger : Ledger) : Prop where
  staged : ∀ reservation ∈ ledger.reservations.rows, Staged ledger reservation
  releases : ∀ entry ∈ ledger.entries.rows, entry.entryType = .reserveRelease → Known ledger entry.referenceID
  settlements : ∀ settlement ∈ ledger.settlements.rows, Known ledger settlement.reservationID

theorem release_entries_append (ledger after : Ledger) (entries : List BillingLedgerEntry) (reservationID : String)
    (appended : after.entries.rows = ledger.entries.rows ++ entries) :
    releaseEntries after reservationID = releaseEntries ledger reservationID ++
      entries.filter fun entry => entry.entryType = .reserveRelease ∧ entry.referenceID = reservationID := by
  simp [releaseEntries, appended]

theorem release_entries_same (ledger after : Ledger) (entries : List BillingLedgerEntry) (reservationID : String)
    (appended : after.entries.rows = ledger.entries.rows ++ entries)
    (unrelated : ∀ entry ∈ entries, entry.entryType = .reserveRelease → entry.referenceID ≠ reservationID) :
    releaseEntries after reservationID = releaseEntries ledger reservationID := by
  rw [release_entries_append ledger after entries reservationID appended]
  have none : (entries.filter fun entry => entry.entryType = .reserveRelease ∧ entry.referenceID = reservationID) = [] := by
    rw [List.filter_eq_nil_iff]
    intro entry member
    simpa using unrelated entry member
  rw [none, List.append_nil]

theorem Staged.carry {ledger after : Ledger} {reservation : BillingReservation} (staged : Staged ledger reservation)
    (releases : releaseEntries after reservation.reservationID = releaseEntries ledger reservation.reservationID)
    (settlements : settlementRows after reservation.reservationID = settlementRows ledger reservation.reservationID) :
    Staged after reservation := by
  rcases staged with opened | released | settled
  · exact .inl ⟨opened.status, settlements.trans opened.unsettled, releases.trans opened.unreleased⟩
  · exact .inr (.inl ⟨released.status, settlements.trans released.unsettled, by rw [releases]; exact released.released⟩)
  · exact .inr (.inr ⟨settled.status, by rw [settlements]; exact settled.settled, releases.trans settled.unreleased⟩)

theorem Staged.opened {ledger : Ledger} {reservation : BillingReservation} (staged : Staged ledger reservation)
    (status : reservation.status = .opened) : IsOpen ledger reservation := by
  rcases staged with opened | released | settled
  · exact opened
  · simp [released.status] at status
  · simp [settled.status] at status

theorem Staged.released_of_status {ledger : Ledger} {reservation : BillingReservation} (staged : Staged ledger reservation)
    (status : reservation.status = .released) : IsReleased ledger reservation := by
  rcases staged with opened | released | settled
  · simp [opened.status] at status
  · exact released
  · simp [settled.status] at status

theorem Staged.settled_of_status {ledger : Ledger} {reservation : BillingReservation} (staged : Staged ledger reservation)
    (status : reservation.status = .settled) : IsSettled ledger reservation := by
  rcases staged with opened | released | settled
  · simp [opened.status] at status
  · simp [released.status] at status
  · exact settled

theorem known_of_replaced {ledger after : Ledger} {old new : BillingReservation}
    (replaced : Table.Replaced ledger.reservations after.reservations old new) (sameID : new.reservationID = old.reservationID)
    {reservationID : String} (known : Known ledger reservationID) : Known after reservationID := by
  obtain ⟨reservation, member, rfl⟩ := known
  rcases replaced.kept reservation member with rfl | kept
  · exact ⟨new, replaced.new_mem, sameID⟩
  · exact ⟨reservation, kept, rfl⟩

theorem known_of_appended {ledger after : Ledger} {reservation : BillingReservation}
    (appended : after.reservations.rows = ledger.reservations.rows ++ [reservation]) {reservationID : String}
    (known : Known ledger reservationID) : Known after reservationID := by
  obtain ⟨other, member, rfl⟩ := known
  exact ⟨other, by simp [appended, member], rfl⟩

-- An entry that releases nothing leaves the reservations where they are.
theorem Lifecycle.noted {ledger after : Ledger} (lifecycle : Lifecycle ledger) (entries : List BillingLedgerEntry)
    (appended : after.entries.rows = ledger.entries.rows ++ entries) (inert : ∀ entry ∈ entries, entry.entryType ≠ .reserveRelease)
    (reservations : after.reservations = ledger.reservations) (settlements : after.settlements = ledger.settlements) :
    Lifecycle after := by
  refine ⟨?_, ?_, ?_⟩
  · intro reservation member
    rw [reservations] at member
    exact (lifecycle.staged reservation member).carry
      (release_entries_same ledger after entries _ appended fun entry entryIn release => (inert entry entryIn release).elim)
      (by simp [settlementRows, settlements])
  · intro entry member release
    rw [appended, List.mem_append] at member
    rcases member with old | new
    · simpa [Known, reservations] using lifecycle.releases entry old release
    · exact (inert entry new release).elim
  · intro settlement member
    rw [settlements] at member
    simpa [Known, reservations] using lifecycle.settlements settlement member

theorem Lifecycle.held {ledger after : Ledger} {params : CreateReservationParams} {reservation : BillingReservation}
    (lifecycle : Lifecycle ledger) (held : Held ledger params reservation after) : Lifecycle after := by
  obtain ⟨entry, posted, line⟩ := held.posted
  have inert : ∀ other ∈ [entry], other.entryType = .reserveRelease → False := by
    intro other member release
    rw [List.mem_singleton] at member
    subst member
    simp [line.kind] at release
  have settlements : ∀ reservationID, settlementRows after reservationID = settlementRows ledger reservationID := by
    simp [settlementRows, held.settlements]
  have releases : ∀ reservationID, releaseEntries after reservationID = releaseEntries ledger reservationID := fun reservationID =>
    release_entries_same ledger after [entry] reservationID posted.entries fun other member release => (inert other member release).elim
  -- The new id is not the id of any row, so no older release or settlement names it.
  have unnamed : ¬ Known ledger reservation.reservationID := by
    rintro ⟨other, member, same⟩
    have pairs := after.reservations.unique
    rw [held.reservations, List.pairwise_append] at pairs
    exact pairs.2.2 other member reservation (by simp) (.inl same)
  obtain ⟨reservationID, now, rfl⟩ := held.opened
  refine ⟨?_, ?_, ?_⟩
  · intro other member
    rw [held.reservations, List.mem_append, List.mem_singleton] at member
    rcases member with old | rfl
    · exact (lifecycle.staged other old).carry (releases _) (settlements _)
    · refine .inl ⟨rfl, ?_, ?_⟩
      · rw [settlements, settlementRows, List.filter_eq_nil_iff]
        intro settlement settlementIn same
        exact unnamed ((of_decide_eq_true same) ▸ lifecycle.settlements settlement settlementIn)
      · rw [releases, releaseEntries, List.filter_eq_nil_iff]
        intro release releaseIn same
        have both := of_decide_eq_true same
        exact unnamed (both.2 ▸ lifecycle.releases release releaseIn both.1)
  · intro other member release
    rw [posted.entries, List.mem_append] at member
    rcases member with old | new
    · exact known_of_appended held.reservations (lifecycle.releases other old release)
    · exact (inert other new release).elim
  · intro settlement member
    rw [held.settlements] at member
    exact known_of_appended held.reservations (lifecycle.settlements settlement member)

-- One reservation is rewritten, and the new entries and settlements are about it alone.
theorem Lifecycle.moved {ledger after : Ledger} (lifecycle : Lifecycle ledger) (old new : BillingReservation)
    (entries : List BillingLedgerEntry) (settlements : List BillingSettlement)
    (replaced : Table.Replaced ledger.reservations after.reservations old new) (sameID : new.reservationID = old.reservationID)
    (appended : after.entries.rows = ledger.entries.rows ++ entries)
    (settled : after.settlements.rows = ledger.settlements.rows ++ settlements)
    (releases : ∀ entry ∈ entries, entry.entryType = .reserveRelease → entry.referenceID = old.reservationID)
    (names : ∀ settlement ∈ settlements, settlement.reservationID = old.reservationID) (staged : Staged after new) :
    Lifecycle after := by
  have known : ∀ reservationID, reservationID = old.reservationID → Known after reservationID := by
    rintro _ rfl
    exact ⟨new, replaced.new_mem, sameID⟩
  refine ⟨?_, ?_, ?_⟩
  · intro reservation member
    rcases replaced.mem reservation member with rfl | ⟨kept, apart⟩
    · exact staged
    · have otherID : old.reservationID ≠ reservation.reservationID := fun same => apart (.inl same)
      refine (lifecycle.staged reservation kept).carry ?_ ?_
      · refine release_entries_same ledger after entries _ appended fun entry entryIn release => ?_
        rw [releases entry entryIn release]
        exact otherID
      · have none : settlements.filter (fun settlement => settlement.reservationID = reservation.reservationID) = [] := by
          rw [List.filter_eq_nil_iff]
          intro settlement settlementIn
          simpa [names settlement settlementIn] using otherID
        simp [settlementRows, settled, none]
  · intro entry member release
    rw [appended, List.mem_append] at member
    rcases member with before | now
    · exact known_of_replaced replaced sameID (lifecycle.releases entry before release)
    · exact known _ (releases entry now release)
  · intro settlement member
    rw [settled, List.mem_append] at member
    rcases member with before | now
    · exact known_of_replaced replaced sameID (lifecycle.settlements settlement before)
    · exact known _ (names settlement now)

theorem Lifecycle.raised {ledger after : Ledger} {params : IncreaseReservationParams} {current : BillingReservation}
    (lifecycle : Lifecycle ledger) (raised : Raised ledger params current after) : Lifecycle after := by
  obtain ⟨entry, posted, line⟩ := raised.posted
  have isOpen := (lifecycle.staged current raised.reservations.old_mem).opened raised.opened
  have inert : ∀ other ∈ [entry], other.entryType = .reserveRelease → other.referenceID = current.reservationID := by
    simp [line.kind]
  refine lifecycle.moved current _ [entry] [] raised.reservations rfl posted.entries (by simp [raised.settlements]) inert (by simp) (.inl ?_)
  refine ⟨raised.opened, by simpa [settlementRows, raised.settlements] using isOpen.unsettled, ?_⟩
  simpa [releaseEntries, posted.entries, line.kind] using isOpen.unreleased

theorem Lifecycle.released {ledger after : Ledger} {params : ReleaseReservationParams} {current : BillingReservation}
    (lifecycle : Lifecycle ledger) (released : Released ledger params current after) : Lifecycle after := by
  obtain ⟨entry, posted, line⟩ := released.posted
  have isOpen := (lifecycle.staged current released.reservations.old_mem).opened released.opened
  refine lifecycle.moved current _ [entry] [] released.reservations rfl posted.entries (by simp [released.settlements])
    (by simp [line.referenceID]) (by simp) (.inr (.inl ?_))
  refine ⟨rfl, by simpa [settlementRows, released.settlements] using isOpen.unsettled, entry, ?_, line.amount⟩
  rw [release_entries_append ledger after [entry] _ posted.entries, isOpen.unreleased]
  simp [line.kind, line.referenceID]

theorem Lifecycle.settled {ledger after : Ledger} {params : SettleReservationParams} {current : BillingReservation}
    {settlement : BillingSettlement} (lifecycle : Lifecycle ledger) (settled : Settled ledger params current settlement after) :
    Lifecycle after := by
  obtain ⟨entries, posted, shape⟩ := settled.posted
  have isOpen := (lifecycle.staged current settled.reservations.old_mem).opened settled.opened
  have inert : ∀ entry ∈ entries, entry.entryType ≠ .reserveRelease := by
    rcases shape with ⟨_, rfl⟩ | ⟨_, entry, _, _, _, rfl, rfl⟩
    · simp
    · simp only [List.mem_singleton, forall_eq, settlementEntry]
      split_ifs <;> simp
  obtain ⟨settlementID, settledAt, completed⟩ := settled.completed
  refine lifecycle.moved current _ entries [settlement] settled.reservations rfl posted.entries settled.settlements
    (fun entry member release => (inert entry member release).elim) (by simp [completed]) (.inr (.inr ?_))
  refine ⟨rfl, ⟨settlement, ?_, by simp [completed]⟩, ?_⟩
  · have none : settlementRows ledger current.reservationID = [] := isOpen.unsettled
    simp only [settlementRows] at none
    simp [settlementRows, settled.settlements, none, completed]
  · rw [release_entries_same ledger after entries _ posted.entries fun entry member release => (inert entry member release).elim]
    exact isOpen.unreleased

-- An open reservation has no release entry, so the branch that closes it silently is dead.
theorem Lifecycle.not_dropped {ledger after : Ledger} {params : ReleaseReservationParams} {current : BillingReservation}
    (lifecycle : Lifecycle ledger) (dropped : Dropped ledger params current after) : False := by
  have isOpen := (lifecycle.staged current dropped.reservations.old_mem).opened dropped.opened
  obtain ⟨entry, member, names, kind⟩ := dropped.released
  have listed : entry ∈ releaseEntries ledger current.reservationID := by simp [releaseEntries, member, names, kind]
  simp [isOpen.unreleased] at listed

theorem Lifecycle.effect {ledger after : Ledger} {op : LedgerOp} (lifecycle : Lifecycle ledger) (effect : Effect ledger after op) :
    Lifecycle after := by
  cases effect with
  | unmoved _ same => exact lifecycle.noted [] (by simp [same.entries]) (by simp) same.reservations same.settlements
  | audited params entry audited =>
      exact lifecycle.noted [entry] audited.entries (by simp [audited.kind]) audited.reservations audited.settlements
  | credited params entry credited =>
      exact lifecycle.noted [entry] credited.posted.entries (by simp [credited.line.kind]) credited.reservations credited.settlements
  | held params reservation held => exact lifecycle.held held
  | raised params current raised => exact lifecycle.raised raised
  | released params current released => exact lifecycle.released released
  | dropped params current dropped => exact (lifecycle.not_dropped dropped).elim
  | settled params current settlement settled => exact lifecycle.settled settled
  | adjusted params entry _ adjusted =>
      refine lifecycle.noted [entry] adjusted.posted.entries ?_ adjusted.reservations adjusted.settlements
      simp only [List.mem_singleton, forall_eq, adjusted.line.kind]
      split_ifs <;> simp

theorem lifecycle_empty : Lifecycle Ledger.empty := ⟨by simp [Ledger.empty], by simp [Ledger.empty], by simp [Ledger.empty]⟩

theorem lifecycle_run (env : LedgerEnv) (ops : List LedgerOp) : Lifecycle (run (step env) Ledger.empty ops) :=
  run_keeps (step env) Lifecycle (fun _ => True) (fun ledger op _ kept => kept.effect (step_effect env ledger op)) Ledger.empty
    lifecycle_empty ops (fun _ _ => trivial)

-- The reservation an operation asks to change.
def LedgerOp.reservationID? : LedgerOp → Option String
  | .increaseReservation params => some params.reservationID
  | .releaseReservation params => some params.reservationID
  | .settleReservation params => some params.reservationID
  | _ => none

theorem kept_of_replaced (reservations next : Table BillingReservation) (old new reservation : BillingReservation)
    (replaced : Table.Replaced reservations next old new) (opened : old.status = .opened) (member : reservation ∈ reservations.rows)
    (closed : reservation.status ≠ .opened) : reservation ∈ next.rows := by
  rcases replaced.kept reservation member with rfl | kept
  · exact (closed opened).elim
  · exact kept

-- The row of a reservation that is no longer open survives every operation as it is.
theorem closed_row_kept (ledger after : Ledger) (op : LedgerOp) (effect : Effect ledger after op) (reservation : BillingReservation)
    (member : reservation ∈ ledger.reservations.rows) (closed : reservation.status ≠ .opened) : reservation ∈ after.reservations.rows := by
  cases effect with
  | unmoved _ same => rwa [same.reservations]
  | audited params entry audited => rwa [audited.reservations]
  | credited params entry credited => rwa [credited.reservations]
  | held params created held => simp [held.reservations, member]
  | raised params current raised => exact kept_of_replaced _ _ _ _ _ raised.reservations raised.opened member closed
  | released params current released => exact kept_of_replaced _ _ _ _ _ released.reservations released.opened member closed
  | dropped params current dropped => exact kept_of_replaced _ _ _ _ _ dropped.reservations dropped.opened member closed
  | settled params current settlement settled => exact kept_of_replaced _ _ _ _ _ settled.reservations settled.opened member closed
  | adjusted params entry _ adjusted => rwa [adjusted.reservations]

theorem open_of_named (ledger : Ledger) (current reservation : BillingReservation) (currentIn : current ∈ ledger.reservations.rows)
    (member : reservation ∈ ledger.reservations.rows) (same : current.reservationID = reservation.reservationID)
    (opened : current.status = .opened) : reservation.status = .opened := by
  rw [← Table.eq_of_clash ledger.reservations current reservation currentIn member (clash_of_reservation_id _ _ same)]
  exact opened

-- Asking to change a closed reservation changes nothing at all.
theorem closed_final (env : LedgerEnv) (ledger : Ledger) (op : LedgerOp) (reservation : BillingReservation)
    (member : reservation ∈ ledger.reservations.rows) (closed : reservation.status ≠ .opened)
    (named : op.reservationID? = some reservation.reservationID) : step env ledger op = ledger := by
  rcases Tx.atomic_store (execute env op) ledger with ⟨row, committed⟩ | ⟨_, rolledBack⟩
  · have ran : execute env op ledger = (.ok row, step env ledger op) := committed
    cases op with
    | increaseReservation params =>
        simp only [execute, Tx.ran_bind, Tx.ran_pure] at ran
        obtain ⟨_, _, increased, _, _⟩ := ran
        obtain ⟨current, currentIn, same, opened, _⟩ := raised_of_increase env params _ _ _ increased
        have sameID : current.reservationID = reservation.reservationID := same.trans (Option.some.inj named)
        exact (closed (open_of_named ledger current reservation currentIn member sameID opened)).elim
    | releaseReservation params =>
        simp only [execute, Tx.ran_bind, Tx.ran_pure] at ran
        obtain ⟨_, _, released, _, rfl⟩ := ran
        obtain ⟨same, _⟩ | ⟨current, currentIn, _, released | dropped⟩ := released_of_release env params _ _ _ released
        · exact same
        · have sameID : current.reservationID = reservation.reservationID := released.named.trans (Option.some.inj named)
          exact (closed (open_of_named ledger current reservation currentIn member sameID released.opened)).elim
        · have sameID : current.reservationID = reservation.reservationID := dropped.named.trans (Option.some.inj named)
          exact (closed (open_of_named ledger current reservation currentIn member sameID dropped.opened)).elim
    | settleReservation params =>
        simp only [execute, Tx.ran_bind, Tx.ran_pure] at ran
        obtain ⟨_, _, closing, _, rfl⟩ := ran
        obtain ⟨same, _⟩ | ⟨current, currentIn, settled⟩ := settled_of_settle env params _ _ _ closing
        · exact same
        · have sameID : current.reservationID = reservation.reservationID := settled.named.trans (Option.some.inj named)
          exact (closed (open_of_named ledger current reservation currentIn member sameID settled.opened)).elim
    | _ => simp [LedgerOp.reservationID?] at named
  · exact rolledBack

-- Every reservation of a reachable ledger is in exactly one of its three states, a closed one stays
-- as it is whatever is asked, and no release ever finds an entry for an open reservation.
theorem reservation_lifecycle (env : LedgerEnv) (ops : List LedgerOp) :
    let ledger := run (step env) Ledger.empty ops
    (∀ reservation ∈ ledger.reservations.rows,
      (IsOpen ledger reservation ∧ ¬ IsReleased ledger reservation ∧ ¬ IsSettled ledger reservation) ∨
      (¬ IsOpen ledger reservation ∧ IsReleased ledger reservation ∧ ¬ IsSettled ledger reservation) ∨
      (¬ IsOpen ledger reservation ∧ ¬ IsReleased ledger reservation ∧ IsSettled ledger reservation)) ∧
    (∀ reservation ∈ ledger.reservations.rows, IsReleased ledger reservation ∨ IsSettled ledger reservation →
      (∀ later, reservation ∈ (run (step env) ledger later).reservations.rows ∧
        (IsReleased ledger reservation → IsReleased (run (step env) ledger later) reservation) ∧
        (IsSettled ledger reservation → IsSettled (run (step env) ledger later) reservation)) ∧
      ∀ op, op.reservationID? = some reservation.reservationID → step env ledger op = ledger) ∧
    (∀ current ∈ ledger.reservations.rows, current.status = .opened → ∀ key existing,
      (ledger.entries.find? fun row => row.idempotencyKey = key) = some existing →
      existing.referenceID ≠ current.reservationID ∨ existing.entryType ≠ .reserveRelease) := by
  intro ledger
  have lifecycle : Lifecycle ledger := lifecycle_run env ops
  refine ⟨?_, ?_, ?_⟩
  · intro reservation member
    rcases lifecycle.staged reservation member with opened | released | settled
    · refine .inl ⟨opened, fun released => ?_, fun settled => ?_⟩
      · simpa [opened.status] using released.status
      · simpa [opened.status] using settled.status
    · refine .inr (.inl ⟨fun opened => ?_, released, fun settled => ?_⟩)
      · simpa [released.status] using opened.status
      · simpa [released.status] using settled.status
    · refine .inr (.inr ⟨fun opened => ?_, fun released => ?_, settled⟩)
      · simpa [settled.status] using opened.status
      · simpa [settled.status] using released.status
  · intro reservation member closing
    have closed : reservation.status ≠ .opened := by
      rcases closing with released | settled
      · simp [released.status]
      · simp [settled.status]
    refine ⟨fun later => ?_, fun op named => closed_final env ledger op reservation member closed named⟩
    have both := run_keeps (step env) (fun state => Lifecycle state ∧ reservation ∈ state.reservations.rows) (fun _ => True)
      (fun state op _ kept => ⟨kept.1.effect (step_effect env state op),
        closed_row_kept state _ op (step_effect env state op) reservation kept.2 closed⟩)
      ledger ⟨lifecycle, member⟩ later (fun _ _ => trivial)
    refine ⟨both.2, fun released => ?_, fun settled => ?_⟩
    · exact (both.1.staged reservation both.2).released_of_status released.status
    · exact (both.1.staged reservation both.2).settled_of_status settled.status
  · intro current member opened key existing found
    have isOpen := (lifecycle.staged current member).opened opened
    by_contra both
    push Not at both
    have listed : existing ∈ releaseEntries ledger current.reservationID := by
      simp [releaseEntries, (Table.mem_of_find? _ _ _ found).1, both.1, both.2]
    simp [isOpen.unreleased] at listed

end CodeGo.Billing
