import CodeGo.Subscription.Recovery
import CodeGo.Subscription.ResetClock

set_option autoImplicit false

namespace CodeGo.Subscription.Distribution

open Relational Text Billing

/- The loop that spreads a charge over the open holds of its request, with the check that
   follows it. -/

def openHolds (ledger : Ledger) (requestID : String) : List BillingReservation :=
  (ledger.reservations.rows.filter fun row => row.requestID = requestID ∧ row.status = .opened).mergeSort fun first second => ReservationBefore first second

-- What a hold is settled at: its own amount at most, but all that remains on the last.
def settledAmount (remaining : Int) (reservation : BillingReservation) (rest : List BillingReservation) : Int :=
  if rest = [] ∧ min remaining reservation.reservedAmount < remaining then remaining else min remaining reservation.reservedAmount

-- Answers what is left of the charge.
def distribute (env : LedgerEnv) (evidenceID : String) (key : String → String) : Int → List BillingReservation → LedgerTx Int
  | remaining, [] => return remaining
  | remaining, reservation :: rest => do
      let _ ← settleReservationTx env
        { reservationID := reservation.reservationID, usageEvidenceID := evidenceID, actualAmount := settledAmount remaining reservation rest,
          idempotencyKey := key reservation.reservationID }
      distribute env evidenceID key (max (remaining - settledAmount remaining reservation rest) 0) rest

def settleSubscriptionReservationTx (env : SubscriptionEnv) (record : SubscriptionPreConsumeRecord) (actualAmount : Int) : SubscriptionTx Unit := do
  let reservations ← onLedger (findOpenSubscriptionReservationsTx record.requestID)
  if reservations = [] then
    let settled ← Tx.view fun store =>
      (store.ledger.reservations.find? fun row => row.requestID = record.requestID ∧ row.status = .settled).isSome
    Tx.reject (settled = false) (.message "subscription ledger reservation is missing")
  else
    let remaining ← onLedger (distribute env.toLedgerEnv record.requestID (settleKey record.requestID) actualAmount reservations)
    Tx.reject (0 < remaining) (.message "subscription ledger reservation is insufficient")
    if actualAmount = reservedTotal reservations then
      return ()
    else
      postConsumeUserSubscriptionUsageDeltaTx record.userSubscriptionID record.modelName (actualAmount - reservedTotal reservations)

-- The last hold takes the rest, so nothing is left after a loop that came to its end.
theorem distribute_settles (env : LedgerEnv) (evidenceID : String) (key : String → String) (reservations : List BillingReservation)
    (present : reservations ≠ []) (remaining : Int) (nonneg : 0 ≤ remaining) :
    distribute env evidenceID key remaining reservations = settleEach env evidenceID key remaining reservations >>= fun _ => pure 0 := by
  induction reservations generalizing remaining with
  | nil => exact (present rfl).elim
  | cons reservation rest ih =>
      cases rest with
      | nil =>
          have whole : settledAmount remaining reservation [] = remaining := by
            unfold settledAmount
            grind
          rw [distribute, settleEach, whole, Tx.bind_assoc, Int.sub_self, max_self]
          rfl
      | cons next rest =>
          have own : settledAmount remaining reservation (next :: rest) = min remaining reservation.reservedAmount := by
            unfold settledAmount
            grind
          have left : max (remaining - min remaining reservation.reservedAmount) 0 = remaining - min remaining reservation.reservedAmount := by omega
          rw [distribute, settleEach, own, left, ih (by simp) _ (by omega), Tx.bind_assoc]

theorem on_ledger_failed {α : Type} {work : LedgerTx α} {store : SubscriptionStore} {ledger : Ledger} {problem : LedgerError}
    (failed : work store.ledger = (.error problem, ledger)) : onLedger work store = (.error (.ledger problem), { store with ledger }) := by
  simp [onLedger, Tx.zoom, Tx.withError, failed]

-- So the check after the loop never fires, and the code is the model without it.
theorem distribution_settles (env : SubscriptionEnv) (record : SubscriptionPreConsumeRecord) (actualAmount : Int) (nonneg : 0 ≤ actualAmount) :
    settleSubscriptionReservationTx env record actualAmount = settleFiniteReservationTx env record actualAmount := by
  funext store
  have found : onLedger (findOpenSubscriptionReservationsTx record.requestID) store = (.ok (openHolds store.ledger record.requestID), store) :=
    (ran_on_ledger _ _).2 ⟨store.ledger, rfl, rfl⟩
  rw [settleSubscriptionReservationTx, settleFiniteReservationTx, Tx.bind_ran found, Tx.bind_ran found]
  by_cases none : openHolds store.ledger record.requestID = []
  · rw [if_pos none, if_pos none]
  · rw [if_neg none, if_neg none, distribute_settles _ _ _ _ none _ nonneg]
    cases ran : settleEach env.toLedgerEnv record.requestID (settleKey record.requestID) actualAmount (openHolds store.ledger record.requestID) store.ledger with
    | mk outcome after =>
        cases outcome with
        | error problem =>
            rw [Tx.bind_failed (on_ledger_failed ran), Tx.bind_failed (on_ledger_failed (Tx.bind_failed ran _))]
        | ok =>
            have left := Tx.bind_ran ran fun _ => (pure 0 : LedgerTx Int)
            rw [Tx.bind_ran ((ran_on_ledger _ _).2 ⟨after, ran, rfl⟩), Tx.bind_ran ((ran_on_ledger _ _).2 ⟨after, left, rfl⟩), Tx.bind_accepted (by decide)]

section Loop

variable {env : LedgerEnv} {key : String → String} {accountID : String}

-- What a loop that came to its end took for granted, and what it closed.
theorem settle_each_requires (keys : ∀ first second, key first = key second → first = second) (evidenceID : String) (reservations : List BillingReservation)
    (present : reservations ≠ []) (remaining : Int) (ledger after : Ledger) (held : HeldOpen env key ledger accountID reservations)
    (available : 0 ≤ (ledger.balance accountID).availableBalance) (ran : settleEach env evidenceID key remaining reservations ledger = (.ok (), after)) :
    0 ≤ remaining ∧ remaining ≤ reservedTotal reservations + (ledger.balance accountID).availableBalance ∧
      ∀ row ∈ after.reservations.rows, row.status = .opened → row ∈ ledger.reservations.rows ∧ row ∉ reservations := by
  induction reservations generalizing remaining ledger with
  | nil => exact (present rfl).elim
  | cons reservation rest ih =>
      have free := held.settleable reservation (by simp)
      have account := held.account reservation (by simp)
      have hold := held.nonneg reservation (by simp)
      have closes : ∀ {params settlement middle}, Settled ledger params reservation settlement middle → ∀ row ∈ middle.reservations.rows,
          row.status = .opened → row ∈ ledger.reservations.rows ∧ row ≠ reservation := by
        intro params settlement middle settled row member opened
        rcases settled.reservations.mem row member with rfl | ⟨old, apart⟩
        · exact nomatch opened
        · exact ⟨old, fun same => apart (same ▸ .inl rfl)⟩
      cases rest with
      | nil =>
          simp only [settleEach, Tx.ran_bind, Tx.ran_pure] at ran
          obtain ⟨settlement, _, settled, _, rfl⟩ := ran
          have done := settled_ran free rfl settled
          have affordable := done.affordable
          rw [account] at affordable
          refine ⟨done.actual, ?_, ?_⟩
          · simp only [reservedTotal, List.map_cons, List.map_nil, List.sum_cons, List.sum_nil]
            dsimp only at affordable
            omega
          · intro row member opened
            rw [List.mem_singleton]
            exact closes done row member opened
      | cons next rest =>
          simp only [settleEach, Tx.ran_bind] at ran
          obtain ⟨settlement, middle, settled, ran⟩ := ran
          have done := settled_ran free rfl settled
          have actual := done.actual
          dsimp only at actual
          obtain ⟨_, other, same, _, moved, waiting⟩ := held.settle_first keys evidenceID (min remaining reservation.reservedAmount) actual (by omega) available
          rw [settled, Prod.mk.injEq] at same
          obtain ⟨_, rfl⟩ := same
          have balance := moved.available
          simp only [reservedTotal, List.map_cons, List.map_nil, List.sum_cons, List.sum_nil] at balance
          obtain ⟨left, affordable, gone⟩ := ih (by simp) _ middle waiting (by omega) ran
          refine ⟨by omega, ?_, ?_⟩
          · simp only [reservedTotal, List.map_cons, List.sum_cons] at affordable ⊢
            omega
          · intro row member opened
            obtain ⟨before, apart⟩ := gone row member opened
            obtain ⟨old, different⟩ := closes done row before opened
            rw [List.mem_cons, not_or]
            exact ⟨old, different, apart⟩

end Loop

-- A request with open holds on a finite subscription, in a ledger that is consistent with them.
structure Distributable (env : SubscriptionEnv) (store : SubscriptionStore) (record : SubscriptionPreConsumeRecord) (sub : UserSubscription)
    (accountID : String) : Prop extends
    HeldOpen env.toLedgerEnv (settleKey record.requestID) store.ledger accountID (openHolds store.ledger record.requestID) where
  present : openHolds store.ledger record.requestID ≠ []
  available : 0 ≤ (store.ledger.balance accountID).availableBalance
  row : store.subscription record.userSubscriptionID = some sub
  finite : 0 < sub.amountTotal

-- What the charge takes besides the holds, or gives back of them.
def beyond (store : SubscriptionStore) (record : SubscriptionPreConsumeRecord) (actualAmount : Int) : Int :=
  actualAmount - reservedTotal (openHolds store.ledger record.requestID)

-- The balance is short of it, or no plan of the subscription allows it.
def Barred (store : SubscriptionStore) (record : SubscriptionPreConsumeRecord) (sub : UserSubscription) (accountID : String) (extra : Int) : Prop :=
  (store.ledger.balance accountID).availableBalance < extra ∨
    (extra ≠ 0 ∧ ∀ plan, planOf store.plans sub.planID = some plan →
      ∃ problem, applySubscriptionUsageDelta plan sub record.modelName extra = .error problem)

structure Distributed (env : SubscriptionEnv) (store after : SubscriptionStore) (record : SubscriptionPreConsumeRecord) (sub : UserSubscription)
    (accountID : String) (actualAmount : Int) : Prop where
  settled : ∃ settlements, SettledEach store.ledger after.ledger accountID (openHolds store.ledger record.requestID) actualAmount settlements
  used : ∃ projected, after.subscription record.userSubscriptionID = some projected ∧
    projected.amountUsed = if beyond store record actualAmount = 0 then sub.amountUsed else max (sub.amountUsed + beyond store record actualAmount) 0
  repeated : ∀ again, settleSubscriptionReservationTx env record again after = (.ok (), after)

theorem settle_keys_apart (requestID first second : String) (same : settleKey requestID first = settleKey requestID second) : first = second := by
  simpa [settleKey, String.append_assoc] using same

section Outcome

variable {env : SubscriptionEnv} {store : SubscriptionStore} {record : SubscriptionPreConsumeRecord} {sub : UserSubscription} {accountID : String}

theorem holds_found : onLedger (findOpenSubscriptionReservationsTx record.requestID) store = (.ok (openHolds store.ledger record.requestID), store) :=
  (ran_on_ledger _ _).2 ⟨store.ledger, rfl, rfl⟩

theorem mem_open_holds {ledger : Ledger} {requestID : String} {row : BillingReservation} :
    row ∈ openHolds ledger requestID ↔ row ∈ ledger.reservations.rows ∧ row.requestID = requestID ∧ row.status = .opened := by
  rw [openHolds, List.mem_mergeSort, List.mem_filter, decide_eq_true_eq]

-- Once every hold of the request is settled, settling it again finds nothing to do.
theorem settled_again {after : SubscriptionStore} {settlements : List BillingSettlement} {actualAmount : Int}
    (distributable : Distributable env store record sub accountID)
    (settled : SettledEach store.ledger after.ledger accountID (openHolds store.ledger record.requestID) actualAmount settlements)
    (gone : ∀ row ∈ after.ledger.reservations.rows, row.status = .opened →
      row ∈ store.ledger.reservations.rows ∧ row ∉ openHolds store.ledger record.requestID) (again : Int) :
    settleSubscriptionReservationTx env record again after = (.ok (), after) := by
  have none : openHolds after.ledger record.requestID = [] := by
    rw [List.eq_nil_iff_forall_not_mem]
    intro row member
    obtain ⟨stored, request, opened⟩ := mem_open_holds.1 member
    obtain ⟨old, apart⟩ := gone row stored opened
    exact apart (mem_open_holds.2 ⟨old, request, opened⟩)
  obtain ⟨hold, member⟩ := List.exists_mem_of_ne_nil _ distributable.present
  obtain ⟨_, request, _⟩ := mem_open_holds.1 member
  have closed : (after.ledger.reservations.find? fun row => row.requestID = record.requestID ∧ row.status = .settled).isSome = true := by
    rw [Table.find?, List.find?_isSome]
    exact ⟨_, settled.closed hold member, by simpa using request⟩
  rw [settleSubscriptionReservationTx, Tx.bind_ran holds_found, if_pos none, Tx.bind_view]
  apply (Tx.ran_reject _ _ _ _ _).2
  rw [closed]
  exact ⟨by decide, rfl⟩

theorem distribution_outcome (distributable : Distributable env store record sub accountID) (actualAmount : Int) (nonneg : 0 ≤ actualAmount) :
    (Barred store record sub accountID (beyond store record actualAmount) ∧
      ∃ problem after, settleSubscriptionReservationTx env record actualAmount store = (.error problem, after)) ∨
    ∃ after, settleSubscriptionReservationTx env record actualAmount store = (.ok (), after) ∧
      Distributed env store after record sub accountID actualAmount := by
  have present := distributable.present
  have keys := settle_keys_apart record.requestID
  rw [distribution_settles env record actualAmount nonneg, settleFiniteReservationTx, Tx.bind_ran holds_found, if_neg present]
  cases ran : settleEach env.toLedgerEnv record.requestID (settleKey record.requestID) actualAmount (openHolds store.ledger record.requestID)
      store.ledger with
  | mk outcome ledger =>
      cases outcome with
      | error problem =>
          refine .inl ⟨.inl ?_, _, _, Tx.bind_failed (on_ledger_failed ran) _⟩
          by_contra affordable
          obtain ⟨_, _, other, _⟩ := settle_each_ran keys record.requestID _ present actualAmount store.ledger distributable.toHeldOpen nonneg
            distributable.available (by unfold beyond at affordable; omega)
          rw [ran] at other
          exact nomatch other
      | ok =>
          obtain ⟨_, affordable, gone⟩ := settle_each_requires keys record.requestID _ present actualAmount store.ledger ledger distributable.toHeldOpen
            distributable.available ran
          obtain ⟨_, settlements, same, settled⟩ := settle_each_ran keys record.requestID _ present actualAmount store.ledger distributable.toHeldOpen nonneg
            distributable.available affordable
          rw [ran, Prod.mk.injEq] at same
          obtain ⟨_, rfl⟩ := same
          rw [Tx.bind_ran ((ran_on_ledger _ _).2 ⟨ledger, ran, rfl⟩)]
          have row : ({ store with ledger } : SubscriptionStore).subscription record.userSubscriptionID = some sub := distributable.row
          by_cases whole : actualAmount = reservedTotal (openHolds store.ledger record.requestID)
          · rw [if_pos whole]
            refine .inr ⟨_, rfl, ⟨settlements, settled⟩, ⟨sub, row, ?_⟩, settled_again distributable settled gone⟩
            rw [beyond, if_pos (by omega)]
          · rw [if_neg whole]
            obtain ⟨plan, used, planned, applied, saves⟩ | ⟨refused, problem, failed⟩ :=
              post_consume_outcome row record.modelName (actualAmount - reservedTotal (openHolds store.ledger record.requestID))
            · have projected := used_of_delta applied
              have id : used.id = record.userSubscriptionID := by
                rw [projected]
                exact (Table.mem_of_find? _ _ _ distributable.row).2 |> of_decide_eq_true
              refine .inr ⟨_, saves, ⟨settlements, settled⟩, ⟨used, ?_, by rw [projected]; rfl⟩, settled_again distributable settled gone⟩
              rw [saved_subscription, if_pos id.symm, row, Option.map_some]
            · exact .inl ⟨.inr ⟨by unfold beyond; omega, refused⟩, problem, _, failed⟩

end Outcome

theorem settlement_distributes (env : SubscriptionEnv) (store : SubscriptionStore) (record : SubscriptionPreConsumeRecord) (sub : UserSubscription)
    (accountID : String) (distributable : Distributable env store record sub accountID) (actualAmount : Int) (nonneg : 0 ≤ actualAmount) :
    (((∃ problem, Tx.atomic (settleSubscriptionReservationTx env record actualAmount) store = (.error problem, store)) ∧
        Barred store record sub accountID (beyond store record actualAmount)) ∨
      ∃ after, Tx.atomic (settleSubscriptionReservationTx env record actualAmount) store = (.ok (), after) ∧
        Distributed env store after record sub accountID actualAmount) ∧
    ∀ remaining after, distribute env.toLedgerEnv record.requestID (settleKey record.requestID) actualAmount
      (openHolds store.ledger record.requestID) store.ledger = (.ok remaining, after) → remaining = 0 := by
  constructor
  · obtain ⟨barred, problem, after, failed⟩ | ⟨after, ran, distributed⟩ := distribution_outcome distributable actualAmount nonneg
    · exact .inl ⟨⟨problem, by simp only [Tx.atomic, failed]⟩, barred⟩
    · exact .inr ⟨after, (Tx.ran_atomic ..).2 ran, distributed⟩
  · intro remaining after ran
    rw [distribute_settles _ _ _ _ distributable.present _ nonneg, Tx.ran_bind] at ran
    obtain ⟨_, _, _, ran⟩ := ran
    exact ((Tx.ran_pure _ _ _ _).1 ran).1.symm

-- A request with two holds, 4 and 6, on a subscription of 100 of which a part is used.
def spreadStore (amountUsed : Int) : SubscriptionStore :=
  { ledger := { Ledger.empty with
      snapshots := ⟨[{ accountID := "wallet", availableBalance := 90, reservedBalance := 10 }], by simp⟩
      reservations := ⟨[openHold "id1f" "first" 4, openHold "idf" "second" 6], by decide⟩
      drawn := 2 }
    plans := [{ id := 1 }]
    subscriptions := ⟨[{ id := 1, userID := 1, planID := 1, amountTotal := 100, amountUsed, startTime := 0, endTime := 0 }], by simp⟩
    records := ⟨[], by simp⟩, evidence := [], opportunities := ⟨[], by simp⟩, opportunityUses := [] }

def spreadRecord : SubscriptionPreConsumeRecord :=
  { requestID := "req", userID := 1, userSubscriptionID := 1, modelName := "", preConsumed := 10 }

def spreadSubscription (amountUsed : Int) : UserSubscription :=
  { id := 1, userID := 1, planID := 1, amountTotal := 100, amountUsed, startTime := 0, endTime := 0 }

def tallySubscriptionEnv : SubscriptionEnv := ⟨tallyEnv, Clock.fixedZone 0⟩

theorem spread_holds (amountUsed : Int) : openHolds (spreadStore amountUsed).ledger "req" = [openHold "id1f" "first" 4, openHold "idf" "second" 6] := by
  have all : (spreadStore amountUsed).ledger.reservations.rows.filter (fun row => row.requestID = "req" ∧ row.status = .opened) =
      [openHold "id1f" "first" 4, openHold "idf" "second" 6] := by
    simp [spreadStore, openHold]
  rw [openHolds, all]
  apply List.mergeSort_of_pairwise
  decide

theorem spread_total (amountUsed : Int) : reservedTotal (openHolds (spreadStore amountUsed).ledger spreadRecord.requestID) = 10 := by
  rw [spreadRecord, spread_holds]
  decide

theorem spread_unused (amountUsed : Int) : Unused tallyEnv (spreadStore amountUsed).ledger := by
  refine ⟨tally_tight, tally_apart, ?_, by simp [spreadStore, Ledger.empty], by simp [spreadStore, Ledger.empty], by simp [spreadStore, Ledger.empty]⟩
  intro row member drawn bound same
  have old : row.reservationID = tallyEnv.uuid 1 ∨ row.reservationID = tallyEnv.uuid 0 := by
    simp only [spreadStore, List.mem_cons, List.not_mem_nil, or_false] at member
    obtain rfl | rfl := member
    · exact .inl (by decide)
    · exact .inr (by decide)
  simp only [spreadStore] at bound
  obtain first | second := old
  · have place := tally_apart 1 drawn (first.symm.trans same)
    omega
  · have place := tally_apart 0 drawn (second.symm.trans same)
    omega

theorem spread_distributable (amountUsed : Int) :
    Distributable tallySubscriptionEnv (spreadStore amountUsed) spreadRecord (spreadSubscription amountUsed) "wallet" where
  unused := spread_unused amountUsed
  snapshot := by simp [spreadStore, Ledger.balance, balanceOf, Table.find?]
  account := by
    simp [spreadRecord, spread_holds, openHold]
  nonneg := by
    simp [spreadRecord, spread_holds, openHold]
  settleable := by
    intro reservation member
    obtain ⟨stored, _, opened⟩ := mem_open_holds.1 member
    refine ⟨stored, opened, ?_, ?_, ?_, by simp [spreadStore, Ledger.empty], by simp [spreadStore, Ledger.empty], by simp [spreadStore, Ledger.empty],
      by simp [spreadStore, Ledger.empty]⟩
    all_goals
      simp only [spreadStore, List.mem_cons, List.not_mem_nil, or_false] at stored
      obtain rfl | rfl := stored
      · decide
      · decide
  distinct := by
    simp [spreadRecord, spread_holds, openHold]
  covered := by
    rw [spread_total]
    simp [spreadStore, Ledger.balance, balanceOf, Table.find?]
  present := by
    simp [spreadRecord, spread_holds]
  available := by simp [spreadStore, Ledger.balance, balanceOf, Table.find?]
  row := by simp [spreadStore, spreadRecord, spreadSubscription, SubscriptionStore.subscription, Table.find?]
  finite := by simp [spreadSubscription]

-- 12 is charged where 10 is held: the holds take 4 and 8.
theorem settlement_distributes_twelve :
    (((∃ problem, Tx.atomic (settleSubscriptionReservationTx tallySubscriptionEnv spreadRecord 12) (spreadStore 10) = (.error problem, spreadStore 10)) ∧
        Barred (spreadStore 10) spreadRecord (spreadSubscription 10) "wallet" (beyond (spreadStore 10) spreadRecord 12)) ∨
      ∃ after, Tx.atomic (settleSubscriptionReservationTx tallySubscriptionEnv spreadRecord 12) (spreadStore 10) = (.ok (), after) ∧
        Distributed tallySubscriptionEnv (spreadStore 10) after spreadRecord (spreadSubscription 10) "wallet" 12) ∧
    ∀ remaining after, distribute tallyEnv "req" (settleKey "req") 12 (openHolds (spreadStore 10).ledger "req") (spreadStore 10).ledger =
      (.ok remaining, after) → remaining = 0 :=
  settlement_distributes tallySubscriptionEnv (spreadStore 10) spreadRecord (spreadSubscription 10) "wallet" (spread_distributable 10) 12 (by decide)

-- Emptied by a reset while its holds were open, the projection cannot give 7 of them back.
theorem projection_stops_at_zero : ¬ ∀ env store record sub accountID, Distributable env store record sub accountID → ∀ actualAmount, 0 ≤ actualAmount →
    (∃ problem, Tx.atomic (settleSubscriptionReservationTx env record actualAmount) store = (.error problem, store)) ∨
    ∃ after projected, Tx.atomic (settleSubscriptionReservationTx env record actualAmount) store = (.ok (), after) ∧
      after.subscription record.userSubscriptionID = some projected ∧
      projected.amountUsed = sub.amountUsed + (actualAmount - reservedTotal (openHolds store.ledger record.requestID)) := by
  intro every
  have extra : beyond (spreadStore 0) spreadRecord 3 = -7 := by
    rw [beyond, spread_total]
    decide
  have projected : applySubscriptionUsageDelta { id := 1 } (spreadSubscription 0) "" (-7) = .ok (spreadSubscription 0) := by rfl
  obtain ⟨barred, _⟩ | ⟨after, ran, distributed⟩ := distribution_outcome (spread_distributable 0) 3 (by decide)
  · rw [extra] at barred
    obtain short | ⟨_, refused⟩ := barred
    · simp [spreadStore, Ledger.balance, balanceOf, Table.find?] at short
    · obtain ⟨problem, failed⟩ := refused { id := 1 } (by decide)
      rw [spreadRecord, projected] at failed
      simp at failed
  · obtain ⟨row, found, used⟩ := distributed.used
    obtain ⟨problem, failed⟩ | ⟨other, claimed, again, present, exact⟩ := every _ _ _ _ _ (spread_distributable 0) 3 (by decide)
    · rw [(Tx.ran_atomic ..).2 ran] at failed
      simp at failed
    · rw [(Tx.ran_atomic ..).2 ran, Prod.mk.injEq] at again
      obtain ⟨_, rfl⟩ := again
      rw [found, Option.some.injEq] at present
      rw [present, exact, extra, spread_total, spreadSubscription] at used
      revert used
      decide

end CodeGo.Subscription.Distribution
