import CodeGo.BlindBox.PassBooks
import CodeGo.Lib.Trace

set_option autoImplicit false

namespace CodeGo.BlindBox.Cards

open Relational Text Billing
open Checkout (PropType PropStatus)

/- Cards that are started, paused and swept while the clock goes on: the seconds each has been active for. -/

inductive CardCall where
  | activate (userID propID : Int)
  | pause (userID propID : Int)
  | sweep (userID : Int)
deriving DecidableEq, Repr

-- A call comes some time after the one before it, and takes some time itself.
structure CardEvent where
  delay : Nat
  call : CardCall
  lag : Nat
deriving DecidableEq, Repr

def runCardCall (now checkedAt : Int) (store : BoxStore) : CardCall → BoxStore
  | .activate userID propID => (activateBlindBoxProp userID propID now checkedAt store).2
  | .pause userID propID => (pauseBlindBoxProp userID propID now store).2
  | .sweep userID => (expireUserBlindBoxPropsTx userID now store).2

-- The card rows, the time, and the seconds that each card has been active for so far.
structure CardClock where
  store : BoxStore
  now : Int
  activeSoFar : Int → Int := fun _ => 0

-- A card gives its benefit until its deadline, swept or not.
def Running (now : Int) (card : BlindBoxProp) : Prop := card.status = .active ∧ now < card.expiresAt

instance (now : Int) (card : BlindBoxProp) : Decidable (Running now card) := inferInstanceAs (Decidable (_ ∧ _))

def activeSeconds (early late : Int) (card : BlindBoxProp) : Int :=
  if card.status = .active then max (min card.expiresAt late - early) 0 else 0

def CardClock.wait (clock : CardClock) (seconds : Nat) : CardClock :=
  { clock with
    now := clock.now + seconds
    activeSoFar := fun id => clock.activeSoFar id +
      ((clock.store.props.find? fun card => card.id = id).map (activeSeconds clock.now (clock.now + seconds))).getD 0 }

def CardClock.call (clock : CardClock) (event : CardEvent) : CardClock :=
  { clock with store := runCardCall clock.now (clock.now + event.lag) clock.store event.call }

def cardStep (clock : CardClock) (event : CardEvent) : CardClock := ((clock.wait event.delay).call event).wait event.lag

-- No user has two cards of one pausable type running.
def Exclusive (now : Int) (cards : List BlindBoxProp) : Prop :=
  ∀ first ∈ cards, ∀ second ∈ cards, isPausableBlindBoxMultiplierProp first.propType → first.userID = second.userID →
    first.propType = second.propType → Running now first → Running now second → first.id = second.id

-- Cards may be in the middle of their time: what is paused has some left, and what runs, runs alone.
structure Orderly (now : Int) (cards : List BlindBoxProp) : Prop where
  paused : ∀ card ∈ cards, isPausableBlindBoxMultiplierProp card.propType → card.status = .paused → 0 < card.remainingSeconds
  exclusive : Exclusive now cards

def Spent (now : Int) (card : BlindBoxProp) : Prop := card.status = .expired ∨ card.status = .active ∧ card.expiresAt ≤ now

-- What a call does to a pausable card.
inductive Turn (now : Int) (old : BlindBoxProp) : BlindBoxProp → Prop where
  | same : Turn now old old
  | started (new : BlindBoxProp) (stopped : old.status = .available ∨ old.status = .paused) (positive : 0 < cardRemaining now old)
      (active : new.status = .active) (deadline : new.expiresAt = now + cardRemaining now old) : Turn now old new
  | paused (new : BlindBoxProp) (active : old.status = .active) (left : now < old.expiresAt) (stopped : new.status = .paused)
      (kept : new.remainingSeconds = old.expiresAt - now) : Turn now old new
  | ended (new : BlindBoxProp) (active : old.status = .active) (late : old.expiresAt ≤ now) (expired : new.status = .expired) : Turn now old new

structure Turned (now : Int) (old new : BlindBoxProp) : Prop where
  id : new.id = old.id
  userID : new.userID = old.userID
  propType : new.propType = old.propType
  turn : isPausableBlindBoxMultiplierProp old.propType → Turn now old new

section Turning

variable {now : Int} {old new : BlindBoxProp}

theorem Turned.refl (card : BlindBoxProp) : Turned now card card := ⟨rfl, rfl, rfl, fun _ => .same⟩

theorem turned_map (cards : List BlindBoxProp) (selected : BlindBoxProp → Bool) (change : BlindBoxProp → BlindBoxProp)
    (each : ∀ card ∈ cards, selected card = true → Turned now card (change card)) :
    List.Forall₂ (Turned now) cards (cards.map fun card => if selected card then change card else card) := by
  rw [List.forall₂_map_right_iff, List.forall₂_same]
  intro card member
  by_cases hit : selected card = true
  · rw [if_pos hit]
    exact each card member hit
  · rw [if_neg hit]
    exact Turned.refl card

theorem turned_saved {store after : BoxStore} {found next : BlindBoxProp} (member : found ∈ store.props.rows) (turned : Turned now found next)
    (ran : saveProp next store = (.ok (), after)) : List.Forall₂ (Turned now) store.props.rows after.props.rows := by
  rw [saveProp, Tx.ran_edit] at ran
  obtain rfl := ran
  refine turned_map _ _ _ ?_
  intro card cardIn selected
  have same : card.id = next.id := of_decide_eq_true selected
  obtain rfl : card = found := Table.eq_of_clash _ _ _ cardIn member (prop_keyed _ _ (same.trans turned.id))
  rw [same]
  exact turned

-- A card that runs when the clock is read again has been running before, or is the only one of its type that its owner has running.
structure Moved (now checkedAt : Int) (before after : List BlindBoxProp) : Prop where
  turned : List.Forall₂ (Turned now) before after
  alone : ∀ card ∈ after, Running checkedAt card → card ∈ before ∨ ∀ other ∈ after, isPausableBlindBoxMultiplierProp card.propType →
    other.userID = card.userID → other.propType = card.propType → Running checkedAt other → other.id = card.id

theorem moved_same (checkedAt : Int) (cards : List BlindBoxProp) : Moved now checkedAt cards cards :=
  ⟨List.forall₂_same.mpr fun card _ => Turned.refl card, fun _ member _ => .inl member⟩

theorem moved_sweep {store after : BoxStore} (userID checkedAt : Int) (ran : expireUserBlindBoxPropsTx userID now store = (.ok (), after)) :
    Moved now checkedAt store.props.rows after.props.rows := by
  rcases ran_sweep userID ran with rfl | rfl
  · exact moved_same checkedAt _
  · constructor
    · refine turned_map _ _ _ ?_
      intro card _ selected
      obtain ⟨_, active, _, lapsed⟩ := of_decide_eq_true selected
      exact ⟨rfl, rfl, rfl, fun _ => .ended _ active lapsed rfl⟩
    · intro card member running
      simp only [sweptProps, Table.mem_update] at member
      rcases member with ⟨same, _⟩ | ⟨old, _, _, rfl⟩
      · exact .inl same
      · simp [Running] at running

theorem remaining_stopped {card : BlindBoxProp} (stopped : card.status = .available ∨ card.status = .paused) :
    cardRemaining now card = if card.remainingSeconds ≤ 0 then card.durationSeconds else card.remainingSeconds := by
  have notActive : card.status ≠ .active := by rcases stopped with free | paused <;> simp [*]
  rw [cardRemaining, if_neg notActive]

theorem ran_running {store after : BoxStore} (userID checkedAt : Int) (propType : PropType) (pausable : isPausableBlindBoxMultiplierProp propType)
    (ran : rejectRunningCard userID propType checkedAt store = (.ok (), after)) :
    ∀ other ∈ store.props.rows, other.userID = userID → other.propType = propType → ¬ Running checkedAt other := by
  have read : ∀ problem, (hasActiveBlindBoxPropTypeTx userID propType checkedAt >>= fun running => Tx.reject (running = true) (.message problem)) store =
      (.ok (), after) → ∀ other ∈ store.props.rows, other.userID = userID → other.propType = propType → ¬ Running checkedAt other := by
    intro problem checked other member user same running
    simp only [hasActiveBlindBoxPropTypeTx, Tx.ran_bind, Tx.ran_view, Tx.ran_reject] at checked
    obtain ⟨_, _, ⟨rfl, rfl⟩, none, _⟩ := checked
    apply none
    rw [List.any_eq_true]
    exact ⟨other, member, decide_eq_true ⟨user, same, running.1, running.2⟩⟩
  rcases pausable with rfl | rfl | rfl
  · exact read _ ran
  · exact read _ ran
  · exact read _ ran

theorem ran_activate {store after : BoxStore} (userID propID checkedAt : Int) (prop : BlindBoxProp)
    (ran : activateBlindBoxPropTx userID propID now checkedAt store = (.ok prop, after)) :
    ∃ middle : BoxStore, Moved now checkedAt store.props.rows middle.props.rows ∧ Moved now checkedAt middle.props.rows after.props.rows := by
  simp only [activateBlindBoxPropTx, Tx.ran_bind, Tx.ran_reject, Tx.ran_pure] at ran
  obtain ⟨_, _, lock, _, swept, sweep, found, _, find, card, _, expire, _, _, ⟨_, rfl⟩, _, _, ⟨status, rfl⟩, _, _, checked, seconds, _, started,
    _, _, saved, rfl, rfl⟩ := ran
  obtain rfl := (read_only_lock_user userID).same lock
  obtain ⟨member, ⟨_, owner⟩, rfl⟩ := ran_find_prop _ _ _ _ find
  have stopped : card.status = .available ∨ card.status = .paused := by
    by_contra neither
    push Not at neither
    exact status ⟨neither.1, fun both => neither.2 both.2⟩
  obtain ⟨rfl, rfl⟩ := ran_expire_if_needed found card (by rcases stopped with free | paused <;> simp [*]) expire
  obtain rfl := (read_only_running userID card.propType checkedAt).same checked
  obtain ⟨left, rfl⟩ := ran_started card seconds started
  refine ⟨_, moved_sweep userID checkedAt sweep, turned_saved member ?_ saved, ?_⟩
  · refine ⟨rfl, rfl, rfl, fun pausable => ?_⟩
    obtain ⟨positive, amount⟩ := left pausable
    rw [← remaining_stopped stopped] at amount
    exact .started _ stopped (amount ▸ positive) rfl (by rw [← amount])
  · rw [saveProp, Tx.ran_edit] at saved
    obtain rfl := saved
    intro other otherIn _
    simp only [Table.mem_update] at otherIn
    rcases otherIn with ⟨untouched, _⟩ | ⟨old, _, same, rfl⟩
    · exact .inl untouched
    · right
      intro third thirdIn pausable user alike running
      simp only [Table.mem_update] at thirdIn
      rcases thirdIn with ⟨untouched, _⟩ | ⟨second, _, again, rfl⟩
      · exact absurd running (ran_running userID checkedAt card.propType pausable checked third untouched (user.trans owner) alike)
      · exact (of_decide_eq_true again).trans (of_decide_eq_true same).symm

theorem moved_pause {store after : BoxStore} (userID propID checkedAt : Int) (prop : BlindBoxProp)
    (ran : pauseBlindBoxPropTx userID propID now store = (.ok prop, after)) : Moved now checkedAt store.props.rows after.props.rows := by
  simp only [pauseBlindBoxPropTx, Tx.ran_bind, Tx.ran_reject, Tx.ran_pure] at ran
  obtain ⟨found, _, find, _, _, ⟨_, rfl⟩, card, _, expire, _, _, ⟨running, rfl⟩, _, _, saved, rfl, rfl⟩ := ran
  obtain ⟨member, _, rfl⟩ := ran_find_prop _ _ _ _ find
  have active : card.status = .active := by simpa using running
  obtain ⟨rfl, rfl⟩ := ran_expire_if_needed found card (by simp [active]) expire
  constructor
  · refine turned_saved member ?_ saved
    refine ⟨rfl, rfl, rfl, fun _ => ?_⟩
    by_cases late : card.expiresAt ≤ now
    · have nothing : max (card.expiresAt - now) 0 = 0 := by omega
      exact .ended _ active late (by simp [nothing])
    · have whole : max (card.expiresAt - now) 0 = card.expiresAt - now := by omega
      have left : card.expiresAt - now ≠ 0 := by omega
      exact .paused _ active (by omega) (by simp [whole, left]) whole
  · rw [saveProp, Tx.ran_edit] at saved
    obtain rfl := saved
    intro other otherIn runs
    simp only [Table.mem_update] at otherIn
    rcases otherIn with ⟨untouched, _⟩ | ⟨old, _, _, rfl⟩
    · exact .inl untouched
    · have stopped := runs.1
      dsimp only at stopped
      split at stopped <;> simp at stopped

-- A call moves the cards once or, where it sweeps first, twice.
theorem moved_call (checkedAt : Int) (store : BoxStore) (call : CardCall) :
    ∃ middle : List BlindBoxProp, Moved now checkedAt store.props.rows middle ∧
      Moved now checkedAt middle (runCardCall now checkedAt store call).props.rows := by
  cases call with
  | activate userID propID =>
      simp only [runCardCall, activateBlindBoxProp]
      by_cases invalid : userID ≤ 0 ∨ propID ≤ 0
      · rw [Tx.bind_rejected invalid]
        exact ⟨_, moved_same checkedAt _, moved_same checkedAt _⟩
      · rw [Tx.bind_accepted invalid]
        rcases Tx.atomic_store (activateBlindBoxPropTx userID propID now checkedAt) store with ⟨prop, ran⟩ | ⟨_, same⟩
        · obtain ⟨middle, swept, started⟩ := ran_activate userID propID checkedAt prop ran
          exact ⟨_, swept, started⟩
        · rw [same]
          exact ⟨_, moved_same checkedAt _, moved_same checkedAt _⟩
  | pause userID propID =>
      simp only [runCardCall, pauseBlindBoxProp]
      by_cases invalid : userID ≤ 0 ∨ propID ≤ 0
      · rw [Tx.bind_rejected invalid]
        exact ⟨_, moved_same checkedAt _, moved_same checkedAt _⟩
      · rw [Tx.bind_accepted invalid]
        rcases Tx.atomic_store (pauseBlindBoxPropTx userID propID now) store with ⟨prop, ran⟩ | ⟨_, same⟩
        · exact ⟨_, moved_same checkedAt _, moved_pause userID propID checkedAt prop ran⟩
        · rw [same]
          exact ⟨_, moved_same checkedAt _, moved_same checkedAt _⟩
  | sweep userID =>
      refine ⟨_, moved_same checkedAt _, moved_sweep userID checkedAt ?_⟩
      rw [runCardCall, expireUserBlindBoxPropsTx]
      split <;> rfl

end Turning

-- The budget of a card is what it had to give at the start; every second of it is active, left or lost.
structure Account (now budget active : Int) (card : BlindBoxProp) : Prop where
  unstarted : card.status = .available → active = 0 ∧ cardRemaining now card = budget
  running : card.status = .active → active + max (card.expiresAt - now) 0 = budget
  paused : card.status = .paused → active + card.remainingSeconds = budget ∧ 0 < card.remainingSeconds
  bounded : active ≤ max budget 0

section Accounting

variable {now budget active : Int} {old new card : BlindBoxProp}

theorem Account.turn (account : Account now budget active old) (turn : Turn now old new) : Account now budget active new := by
  cases turn with
  | same => exact account
  | started _ stopped positive started deadline =>
      have whole : active + cardRemaining now old = budget := by
        rcases stopped with free | paused
        · obtain ⟨none, left⟩ := account.unstarted free
          omega
        · obtain ⟨total, some⟩ := account.paused paused
          rw [remaining_stopped (.inr paused), if_neg (by omega)]
          exact total
      refine ⟨by simp [started], fun _ => ?_, by simp [started], account.bounded⟩
      rw [deadline]
      omega
  | paused _ running left stopped kept =>
      have total := account.running running
      refine ⟨by simp [stopped], by simp [stopped], fun _ => ?_, account.bounded⟩
      rw [kept]
      omega
  | ended _ running late expired => exact ⟨by simp [expired], by simp [expired], by simp [expired], account.bounded⟩

theorem Account.wait (account : Account now budget active card) (seconds : Nat) :
    Account (now + seconds) budget (active + activeSeconds now (now + seconds) card) card := by
  by_cases runs : card.status = .active
  · have total := account.running runs
    rw [activeSeconds, if_pos runs]
    exact ⟨by simp [runs], fun _ => by omega, by simp [runs], by omega⟩
  · have still : activeSeconds now (now + seconds) card = 0 := if_neg runs
    have left : cardRemaining (now + seconds) card = cardRemaining now card := by rw [cardRemaining, cardRemaining, if_neg runs, if_neg runs]
    rw [still, Int.add_zero]
    exact ⟨left ▸ account.unstarted, fun active => absurd active runs, account.paused, account.bounded⟩

theorem account_start (paused : card.status = .paused → 0 < card.remainingSeconds) : Account now (cardRemaining now card) 0 card where
  unstarted _ := ⟨rfl, rfl⟩
  running running := by rw [cardRemaining, if_pos running, Int.zero_add]
  paused stopped := by
    have positive := paused stopped
    rw [remaining_stopped (.inr stopped), if_neg (by omega), Int.zero_add]
    exact ⟨rfl, positive⟩
  bounded := le_max_right _ _

theorem Spent.turn (spent : Spent now old) (turn : Turn now old new) : Spent now new := by
  cases turn with
  | same => exact spent
  | started _ stopped positive started deadline => rcases spent with expired | ⟨active, _⟩ <;> rcases stopped with free | paused <;> simp_all
  | paused _ running left stopped kept =>
      rcases spent with expired | ⟨_, late⟩
      · simp [running] at expired
      · omega
  | ended _ running late expired => exact .inl expired

theorem Spent.wait (spent : Spent now card) (seconds : Nat) : Spent (now + seconds) card ∧ activeSeconds now (now + seconds) card = 0 := by
  rcases spent with expired | ⟨runs, late⟩
  · exact ⟨.inl expired, if_neg (by simp [expired])⟩
  · refine ⟨.inr ⟨runs, by omega⟩, ?_⟩
    rw [activeSeconds, if_pos runs]
    omega

theorem Exclusive.wait {cards : List BlindBoxProp} (exclusive : Exclusive now cards) (seconds : Nat) : Exclusive (now + seconds) cards := by
  have earlier : ∀ card, Running (now + seconds) card → Running now card := by
    rintro card ⟨runs, left⟩
    exact ⟨runs, by omega⟩
  intro first firstIn second secondIn pausable user same firstRuns secondRuns
  exact exclusive first firstIn second secondIn pausable user same (earlier first firstRuns) (earlier second secondRuns)

theorem Exclusive.moved {checkedAt : Int} {before after : List BlindBoxProp} (exclusive : Exclusive checkedAt before)
    (moved : Moved now checkedAt before after) : Exclusive checkedAt after := by
  intro first firstIn second secondIn pausable user same firstRuns secondRuns
  rcases moved.alone first firstIn firstRuns with firstBefore | firstAlone
  · rcases moved.alone second secondIn secondRuns with secondBefore | secondAlone
    · exact exclusive first firstBefore second secondBefore pausable user same firstRuns secondRuns
    · exact secondAlone first firstIn (same ▸ pausable) user same firstRuns
  · exact (firstAlone second secondIn pausable user.symm same.symm secondRuns).symm

end Accounting

-- Each card of the start keeps its account while the clock goes on.
def AllAccounts (start now : Int) (active : Int → Int) (cards later : List BlindBoxProp) : Prop :=
  List.Forall₂ (fun first card => card.id = first.id ∧ card.propType = first.propType ∧
    (isPausableBlindBoxMultiplierProp first.propType → Account now (cardRemaining start first) (active first.id) card)) cards later

structure Kept (start : Int) (cards : List BlindBoxProp) (clock : CardClock) : Prop where
  accounts : AllAccounts start clock.now clock.activeSoFar cards clock.store.props.rows
  exclusive : Exclusive clock.now clock.store.props.rows

section Clocks

variable {start : Int} {cards : List BlindBoxProp} {clock : CardClock}

theorem wait_active {card : BlindBoxProp} (member : card ∈ clock.store.props.rows) (seconds : Nat) :
    (clock.wait seconds).activeSoFar card.id = clock.activeSoFar card.id + activeSeconds clock.now (clock.now + seconds) card := by
  have found : clock.store.props.find? (fun other => other.id = card.id) = some card := by
    apply Table.find?_of_mem
    · exact member
    · simp
    · intro other same
      exact prop_keyed _ _ (of_decide_eq_true same).symm
  simp [CardClock.wait, found]

theorem accounts_wait (accounts : AllAccounts start clock.now clock.activeSoFar cards clock.store.props.rows) (seconds : Nat) :
    AllAccounts start (clock.now + seconds) (clock.wait seconds).activeSoFar cards clock.store.props.rows := by
  obtain ⟨lengths, pairs⟩ := List.forall₂_iff_get.mp accounts
  refine List.forall₂_iff_get.mpr ⟨lengths, fun place early late => ?_⟩
  obtain ⟨sameID, sameType, account⟩ := pairs place early late
  refine ⟨sameID, sameType, fun pausable => ?_⟩
  have waited := wait_active (List.get_mem clock.store.props.rows ⟨place, late⟩) seconds
  rw [sameID] at waited
  rw [waited]
  exact (account pausable).wait seconds

theorem accounts_turned {now : Int} {active : Int → Int} {before after : List BlindBoxProp} (accounts : AllAccounts start now active cards before)
    (turned : List.Forall₂ (Turned now) before after) : AllAccounts start now active cards after := by
  obtain ⟨lengths, pairs⟩ := List.forall₂_iff_get.mp accounts
  obtain ⟨later, turns⟩ := List.forall₂_iff_get.mp turned
  refine List.forall₂_iff_get.mpr ⟨lengths.trans later, fun place early late => ?_⟩
  have between : place < before.length := lengths ▸ early
  obtain ⟨sameID, sameType, account⟩ := pairs place early between
  have turn := turns place between late
  refine ⟨turn.id.trans sameID, turn.propType.trans sameType, fun pausable => ?_⟩
  exact (account pausable).turn (turn.turn (sameType ▸ pausable))

theorem Kept.step (kept : Kept start cards clock) (event : CardEvent) : Kept start cards (cardStep clock event) := by
  have ready := accounts_wait kept.accounts event.delay
  obtain ⟨middle, first, second⟩ := @moved_call (clock.wait event.delay).now ((clock.wait event.delay).now + event.lag) clock.store event.call
  constructor
  · have called := accounts_turned (accounts_turned ready first.turned) second.turned
    exact @accounts_wait start cards ((clock.wait event.delay).call event) called event.lag
  · exact (((kept.exclusive.wait event.delay).wait event.lag).moved first).moved second

theorem Kept.run (kept : Kept start cards clock) (events : List CardEvent) : Kept start cards (run cardStep clock events) := by
  induction events generalizing clock with
  | nil => exact kept
  | cons event rest ih => exact ih (kept.step event)

-- A card whose time has run out, with the seconds it has been active for.
def SpentWith (now : Int) (activeSoFar : Int → Int) (id active : Int) (cards : List BlindBoxProp) : Prop :=
  ∃ card ∈ cards, card.id = id ∧ isPausableBlindBoxMultiplierProp card.propType ∧ Spent now card ∧ activeSoFar id = active

theorem spent_wait {id active : Int} (spent : SpentWith clock.now clock.activeSoFar id active clock.store.props.rows) (seconds : Nat) :
    SpentWith (clock.now + seconds) (clock.wait seconds).activeSoFar id active clock.store.props.rows := by
  obtain ⟨card, member, rfl, pausable, ended, rfl⟩ := spent
  obtain ⟨still, none⟩ := ended.wait seconds
  refine ⟨card, member, rfl, pausable, still, ?_⟩
  rw [wait_active member, none, Int.add_zero]

theorem spent_turned {id active now : Int} {activeSoFar : Int → Int} {before after : List BlindBoxProp}
    (spent : SpentWith now activeSoFar id active before) (turned : List.Forall₂ (Turned now) before after) :
    SpentWith now activeSoFar id active after := by
  obtain ⟨card, member, same, pausable, ended, count⟩ := spent
  obtain ⟨later, laterIn, turn⟩ := pairs_on turned member
  exact ⟨later, laterIn, turn.id.trans same, turn.propType ▸ pausable, ended.turn (turn.turn pausable), count⟩

theorem spent_step {id active : Int} (spent : SpentWith clock.now clock.activeSoFar id active clock.store.props.rows) (event : CardEvent) :
    SpentWith (cardStep clock event).now (cardStep clock event).activeSoFar id active (cardStep clock event).store.props.rows := by
  have ready := spent_wait spent event.delay
  obtain ⟨middle, first, second⟩ := @moved_call (clock.wait event.delay).now ((clock.wait event.delay).now + event.lag) clock.store event.call
  have called := spent_turned (spent_turned ready first.turned) second.turned
  exact @spent_wait ((clock.wait event.delay).call event) _ _ called event.lag

theorem spent_run {id active : Int} (spent : SpentWith clock.now clock.activeSoFar id active clock.store.props.rows) (events : List CardEvent) :
    SpentWith (run cardStep clock events).now (run cardStep clock events).activeSoFar id active (run cardStep clock events).store.props.rows := by
  induction events generalizing clock with
  | nil => exact spent
  | cons event rest ih => exact ih (spent_step spent event)

theorem kept_start (store : BoxStore) (orderly : Orderly start store.props.rows) :
    Kept start store.props.rows { store, now := start } where
  accounts := List.forall₂_same.mpr fun card member => ⟨rfl, rfl, fun pausable => account_start (orderly.paused card member pausable)⟩
  exclusive := orderly.exclusive

end Clocks

/- In every run of activations, pauses and sweeps a pausable card is active for no longer than the time it has to give at
   the start, a paused card has the rest of that time left, a card whose time has run out is never active again, and no
   user has two cards of one type running. -/
theorem cards_give_their_time (start : Int) (store : BoxStore) (orderly : Orderly start store.props.rows) (events : List CardEvent) :
    let clock := run cardStep { store, now := start } events
    (∀ card ∈ store.props.rows, isPausableBlindBoxMultiplierProp card.propType →
        ∃ later ∈ clock.store.props.rows, later.id = card.id ∧ clock.activeSoFar card.id ≤ max (cardRemaining start card) 0 ∧
          (later.status = .paused → later.remainingSeconds + clock.activeSoFar card.id = cardRemaining start card)) ∧
      Exclusive clock.now clock.store.props.rows ∧
      ∀ more, ∀ card ∈ clock.store.props.rows, isPausableBlindBoxMultiplierProp card.propType → Spent clock.now card →
        ∃ later ∈ (run cardStep clock more).store.props.rows, later.id = card.id ∧ Spent (run cardStep clock more).now later ∧
          (run cardStep clock more).activeSoFar card.id = clock.activeSoFar card.id := by
  intro clock
  have kept : Kept start store.props.rows clock := (kept_start store orderly).run events
  refine ⟨?_, kept.exclusive, ?_⟩
  · intro card member pausable
    obtain ⟨later, laterIn, same, _, account⟩ := pairs_on kept.accounts member
    refine ⟨later, laterIn, same, (account pausable).bounded, fun stopped => ?_⟩
    rw [Int.add_comm]
    exact ((account pausable).paused stopped).1
  · intro more card member pausable spent
    obtain ⟨later, laterIn, same, _, still, count⟩ := spent_run ⟨card, member, rfl, pausable, spent, rfl⟩ more
    exact ⟨later, laterIn, same, still, count⟩

instance (now : Int) (cards : List BlindBoxProp) : Decidable (Exclusive now cards) :=
  inferInstanceAs (Decidable (∀ first ∈ cards, ∀ second ∈ cards, _ → _ = _ → _ = _ → _ → _ → _ = _))

theorem holder_alone : ([{ id := 1 }] : List User).Pairwise fun first second => ¬ Clash first second := List.pairwise_singleton _ _

def cardHolder (props : Table BlindBoxProp) : BoxStore :=
  { wallet := ⟨Ledger.empty, ⟨[{ id := 1 }], holder_alone⟩, .empty, .empty⟩
    profiles := [], purchases := .empty, items := .empty, records := .empty, props, pity := .empty, gifts := .empty, giftItems := .empty
    propGifts := .empty }

def zeroHourCard (id : Int) : BlindBoxProp :=
  { id, userID := 1, propType := .zeroHourMultiplier, title := "零点倍率卡", multiplier := 0, durationSeconds := 3600 }

-- The first of two cards is paused halfway and resumed; the second has to wait.
def twoCards : BoxStore := cardHolder ⟨[zeroHourCard 1, zeroHourCard 2], by decide⟩

def halfUsed : List CardEvent := [⟨5, .activate 1 1, 1⟩, ⟨1800, .activate 1 2, 0⟩, ⟨0, .pause 1 1, 0⟩, ⟨60, .activate 1 1, 0⟩, ⟨9999, .sweep 1, 0⟩]

theorem cards_give_their_time_halves :
    (run cardStep { store := twoCards, now := 1000 } halfUsed).activeSoFar 1 ≤ 3600 ∧
      Exclusive (run cardStep { store := twoCards, now := 1000 } halfUsed).now
        (run cardStep { store := twoCards, now := 1000 } halfUsed).store.props.rows := by
  have orderly : Orderly 1000 twoCards.props.rows := ⟨by decide, by decide⟩
  obtain ⟨each, alone, _⟩ := cards_give_their_time 1000 twoCards orderly halfUsed
  obtain ⟨_, _, _, bounded, _⟩ := each (zeroHourCard 1) (by decide) (by decide)
  exact ⟨bounded.trans (by decide), alone⟩

-- Two grants of a quarter of an hour, merged into one card.
def mergedPasses : BoxStore :=
  (awardMonthlyPassDurationTx (fun _ => true) 1 900 "b" 1000 (awardMonthlyPassDurationTx (fun _ => true) 1 900 "a" 1000 (cardHolder .empty)).2).2

def usedUp : List CardEvent := [⟨0, .activate 1 1, 0⟩, ⟨5000, .sweep 1, 0⟩]

-- The card still counts a quarter of an hour as its duration and is active for half an hour.
theorem merged_card_outlasts_duration :
    mergedPasses.props.rows.map (fun card => (card.id, card.status, card.durationSeconds, card.remainingSeconds)) = [(1, .available, 900, 1800)] ∧
      (run cardStep { store := mergedPasses, now := 1000 } usedUp).activeSoFar 1 = 1800 := by
  decide +kernel

end CodeGo.BlindBox.Cards
