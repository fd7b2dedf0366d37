import CodeGo.Lib.Registry
import CodeGo.Lib.Tally

set_option autoImplicit false

namespace CodeGo.Ledger.RelaySequence

open Registry Tally

-- The channel has room for one token; it is `available` while the token is in it.
structure RelayWalletWait where
  available : Bool := true
  references : Nat := 0
deriving DecidableEq, Repr

inductive Pc where
  -- Before the first look at the context.
  | starting
  -- Before the lock under which the wait is looked up.
  | entering
  | selecting (wait : Nat)
  -- The token is received; the context is to be looked at once more.
  | acquired (wait : Nat)
  | inside (wait : Nat)
  -- Before the lock of `leave`, which is called with or without the token.
  | leaving (wait : Nat) (acquired : Bool)
  -- Under that lock, before the token is sent, and before the reference is given up.
  | sending (wait : Nat)
  | dropping (wait : Nat)
  | ended
deriving DecidableEq, Repr

structure Caller where
  userID : Int
  cancelled : Bool := false
  pc : Pc := .starting
deriving DecidableEq, Repr

structure State where
  -- Who is inside the mutex across steps.
  lock : Option Nat := none
  size : Nat := 0
  waits : Nat → RelayWalletWait := fun _ => {}
  accounts : Int → Option Nat := fun _ => none
  callers : List Caller := []

inductive Move where
  | cancel
  | start
  | enter
  -- The two branches of the select.
  | quit
  | take
  | check
  | unlock
  | lock
  | send
  | drop
deriving DecidableEq, Repr

inductive Action where
  | call (userID : Int)
  | move (t : Nat) (move : Move)
deriving DecidableEq, Repr

def setPc (state : State) (t : Nat) (caller : Caller) (pc : Pc) : State :=
  { state with callers := state.callers.set t { caller with pc := pc } }

def locate (state : State) (userID : Int) : Nat × State :=
  match state.accounts userID with
  | some w => (w, state)
  | none =>
      (state.size, { state with
        size := state.size + 1
        waits := Function.update state.waits state.size ⟨true, 0⟩
        accounts := Function.update state.accounts userID (some state.size) })

def join (state : State) (t : Nat) (caller : Caller) (w : Nat) : State :=
  { state with
    waits := Function.update state.waits w { state.waits w with references := (state.waits w).references + 1 }
    callers := state.callers.set t { caller with pc := .selecting w } }

def setAvailable (state : State) (w : Nat) (available : Bool) : State :=
  { state with waits := Function.update state.waits w { state.waits w with available := available } }

-- The reference is given up, and the entry of the user with the last one.
def drop (state : State) (t : Nat) (caller : Caller) (w : Nat) : State :=
  { state with
    lock := none
    waits := Function.update state.waits w { state.waits w with references := (state.waits w).references - 1 }
    accounts := if (state.waits w).references - 1 = 0 then Function.update state.accounts caller.userID none else state.accounts
    callers := state.callers.set t { caller with pc := .ended } }

-- What the caller at `t` does next; it stays where it is when it has to wait.
def advance (state : State) (t : Nat) (caller : Caller) : Move → State
  | .cancel => { state with callers := state.callers.set t { caller with cancelled := true } }
  | .start =>
      match caller.pc with
      | .starting => setPc state t caller (if caller.cancelled then .ended else .entering)
      | _ => state
  | .enter =>
      match caller.pc, state.lock with
      | .entering, none => join (locate state caller.userID).2 t caller (locate state caller.userID).1
      | _, _ => state
  | .quit =>
      match caller.pc with
      | .selecting w => if caller.cancelled then setPc state t caller (.leaving w false) else state
      | _ => state
  | .take =>
      match caller.pc with
      | .selecting w => if (state.waits w).available then setPc (setAvailable state w false) t caller (.acquired w) else state
      | _ => state
  | .check =>
      match caller.pc with
      | .acquired w => setPc state t caller (if caller.cancelled then .leaving w true else .inside w)
      | _ => state
  | .unlock =>
      match caller.pc with
      | .inside w => setPc state t caller (.leaving w true)
      | _ => state
  | .lock =>
      match caller.pc, state.lock with
      | .leaving w acquired, none => { setPc state t caller (if acquired then .sending w else .dropping w) with lock := some t }
      | _, _ => state
  | .send =>
      match caller.pc with
      | .sending w => if (state.waits w).available then state else setPc (setAvailable state w true) t caller (.dropping w)
      | _ => state
  | .drop =>
      match caller.pc with
      | .dropping w => drop state t caller w
      | _ => state

def step (state : State) : Action → State
  | .call userID => { state with callers := state.callers ++ [{ userID := userID }] }
  | .move t move =>
      match state.callers[t]? with
      | none => state
      | some caller => advance state t caller move

def run (actions : List Action) : State := actions.foldl step {}

-- The wait that a caller has joined and not left.
def Caller.wait (caller : Caller) : Option Nat :=
  match caller.pc with
  | .selecting w | .acquired w | .inside w | .leaving w _ | .sending w | .dropping w => some w
  | _ => none

-- The wait whose token the caller has received and not sent back.
def Caller.token (caller : Caller) : Option Nat :=
  match caller.pc with
  | .acquired w | .inside w | .leaving w true | .sending w => some w
  | _ => none

def Caller.locking (caller : Caller) : Bool :=
  match caller.pc with
  | .sending _ | .dropping _ => true
  | _ => false

def Refers (callers : List Caller) (userID : Int) (w : Nat) : Prop := ∃ caller ∈ callers, caller.userID = userID ∧ caller.wait = some w

def references (callers : List Caller) (w : Nat) : Nat := (callers.filterMap Caller.wait).count w

def tokens (callers : List Caller) (w : Nat) : Nat := (callers.filterMap Caller.token).count w

-- How many tokens are in the channel of a wait.
def RelayWalletWait.stored (wait : RelayWalletWait) : Nat := if wait.available then 1 else 0

-- The token of a wait is in its channel or with one caller, and the references are those that are held.
structure Holds (state : State) : Prop where
  linked : Linked state.accounts state.size (Refers state.callers)
  referenced : ∀ w, (state.waits w).references = references state.callers w
  single : ∀ w, tokens state.callers w + (state.waits w).stored = 1
  used : ∀ userID w, state.accounts userID = some w → 0 < (state.waits w).references
  locked : ∀ t, state.lock = some t ↔ ∃ caller, state.callers[t]? = some caller ∧ caller.locking = true

section Callers

variable {state : State} {t : Nat} {caller next : Caller}

theorem token_wait (caller : Caller) (w : Nat) (token : caller.token = some w) : caller.wait = some w := by
  unfold Caller.token at token
  unfold Caller.wait
  cases known : caller.pc with
  | leaving x acquired => cases acquired <;> simp_all
  | _ => simp_all

theorem refers_set (user : next.userID = caller.userID) (userID : Int) (w : Nat)
    (refers : Refers (state.callers.set t next) userID w) : Refers state.callers userID w ∨ userID = caller.userID ∧ next.wait = some w := by
  obtain ⟨other, listed, rfl, waits⟩ := refers
  rcases List.mem_or_eq_of_mem_set listed with listed | rfl
  · exact .inl ⟨other, listed, rfl, waits⟩
  · exact .inr ⟨user, waits⟩

theorem references_set (next : Caller) (found : state.callers[t]? = some caller) (w : Nat) :
    references (state.callers.set t next) w + (if caller.wait = some w then 1 else 0) =
      references state.callers w + if next.wait = some w then 1 else 0 :=
  count_set Caller.wait state.callers t caller next found w

theorem tokens_set (next : Caller) (found : state.callers[t]? = some caller) (w : Nat) :
    tokens (state.callers.set t next) w + (if caller.token = some w then 1 else 0) =
      tokens state.callers w + if next.token = some w then 1 else 0 :=
  count_set Caller.token state.callers t caller next found w

theorem locked_own (holds : Holds state) (found : state.callers[t]? = some caller) : state.lock = some t ↔ caller.locking = true := by
  rw [holds.locked t, found]
  simp

-- The lock changes hands with the caller that changes.
theorem locked_set (holds : Holds state) (found : state.callers[t]? = some caller) (lock : Option Nat)
    (own : lock = some t ↔ next.locking = true) (others : ∀ j, j ≠ t → (lock = some j ↔ state.lock = some j)) (j : Nat) :
    lock = some j ↔ ∃ caller, (state.callers.set t next)[j]? = some caller ∧ caller.locking = true := by
  have inside : t < state.callers.length := (List.getElem?_eq_some_iff.mp found).1
  by_cases same : j = t
  · subst same
    rw [List.getElem?_set_self inside, own]
    simp
  · rw [List.getElem?_set_ne (Ne.symm same), others j same, holds.locked j]

end Callers

section Steps

variable {state : State} {t : Nat} {caller next : Caller} {w : Nat}

-- A move that neither joins nor leaves a wait, nor takes or sends its token.
theorem holds_moved (next : Caller) (holds : Holds state) (found : state.callers[t]? = some caller) (user : next.userID = caller.userID)
    (wait : next.wait = caller.wait) (token : next.token = caller.token) (lock : Option Nat) (own : lock = some t ↔ next.locking = true)
    (others : ∀ j, j ≠ t → (lock = some j ↔ state.lock = some j)) :
    Holds { state with lock := lock, callers := state.callers.set t next } := by
  refine ⟨?_, ?_, ?_, holds.used, locked_set holds found lock own others⟩
  · apply holds.linked.mono
    intro userID x refers
    rcases refers_set user userID x refers with refers | ⟨same, waits⟩
    · exact refers
    · exact ⟨caller, List.mem_of_getElem? found, same.symm, wait ▸ waits⟩
  · intro x
    have counted := references_set next found x
    rw [wait] at counted
    exact (holds.referenced x).trans (Nat.add_right_cancel counted).symm
  · intro x
    have counted := tokens_set next found x
    rw [token] at counted
    have single := holds.single x
    rw [← Nat.add_right_cancel counted] at single
    exact single

theorem holds_joined (holds : Holds state) (found : state.callers[t]? = some caller) (idle : caller.wait = none) (free : caller.token = none)
    (unlocked : caller.locking = false) (size : Nat) (accounts : Int → Option Nat) (wait : RelayWalletWait)
    (linked : Linked accounts size (Refers state.callers)) (stands : accounts caller.userID = some w)
    (referenced : wait.references = references state.callers w + 1) (available : wait.available = (state.waits w).available)
    (used : ∀ userID x, accounts userID = some x → x ≠ w → 0 < (state.waits x).references) :
    Holds { state with
      size := size
      waits := Function.update state.waits w wait
      accounts := accounts
      callers := state.callers.set t { caller with pc := .selecting w } } := by
  refine ⟨?_, ?_, ?_, ?_, ?_⟩
  · apply linked.joined stands
    intro userID x refers
    rcases refers_set rfl userID x refers with refers | ⟨same, waits⟩
    · exact .inl refers
    · exact .inr ⟨same, (Option.some.inj waits).symm⟩
  · intro x
    have counted := references_set { caller with pc := .selecting w } found x
    rw [idle, if_neg (by simp), Nat.add_zero] at counted
    simp only [Caller.wait, Option.some.injEq] at counted
    dsimp only
    rw [counted]
    by_cases same : x = w
    · rw [same, Function.update_self, referenced, if_pos rfl]
    · rw [Function.update_of_ne same, if_neg (Ne.symm same), holds.referenced x, Nat.add_zero]
  · intro x
    have counted := tokens_set { caller with pc := .selecting w } found x
    rw [free, if_neg (by simp), if_neg (by simp [Caller.token]), Nat.add_zero, Nat.add_zero] at counted
    dsimp only
    rw [counted]
    by_cases same : x = w
    · rw [same, Function.update_self, RelayWalletWait.stored, available]
      exact holds.single w
    · rw [Function.update_of_ne same]
      exact holds.single x
  · intro userID x given
    dsimp only at given ⊢
    by_cases same : x = w
    · rw [same, Function.update_self, referenced]
      exact Nat.succ_pos _
    · rw [Function.update_of_ne same]
      exact used userID x given same
  · apply locked_set holds found
    · rw [locked_own holds found, unlocked]
      simp [Caller.locking]
    · exact fun _ _ => Iff.rfl

theorem enter_holds (holds : Holds state) (found : state.callers[t]? = some caller) (entering : caller.pc = .entering) :
    Holds (join (locate state caller.userID).2 t caller (locate state caller.userID).1) := by
  have idle : caller.wait = none ∧ caller.token = none ∧ caller.locking = false := by
    rw [Caller.wait, Caller.token, Caller.locking, entering]
    exact ⟨rfl, rfl, rfl⟩
  unfold locate join
  cases stands : state.accounts caller.userID with
  | some w =>
      apply holds_joined holds found idle.1 idle.2.1 idle.2.2 _ _ _ holds.linked stands
      · rw [← holds.referenced w]
      · rfl
      · exact fun userID x given _ => holds.used userID x given
  | none =>
      have unknown : references state.callers state.size = 0 := by
        rw [references, List.count_eq_zero]
        intro listed
        obtain ⟨other, known, waits⟩ := List.mem_filterMap.mp listed
        exact absurd (holds.linked.below ⟨other, known, rfl, waits⟩) (Nat.lt_irrefl _)
      have untaken : tokens state.callers state.size = 0 := by
        rw [tokens, List.count_eq_zero]
        intro listed
        obtain ⟨other, known, taken⟩ := List.mem_filterMap.mp listed
        exact absurd (holds.linked.below ⟨other, known, rfl, token_wait other _ taken⟩) (Nat.lt_irrefl _)
      have single := holds.single state.size
      dsimp only
      rw [Function.update_idem, Function.update_self]
      apply holds_joined holds found idle.1 idle.2.1 idle.2.2 _ _ _ (holds.linked.created stands) (Function.update_self _ _ _)
      · rw [unknown]
      · dsimp only
        by_contra missing
        rw [untaken, RelayWalletWait.stored, if_neg (Ne.symm missing)] at single
        cases single
      · intro userID x given different
        by_cases same : userID = caller.userID
        · rw [same, Function.update_self] at given
          exact absurd (Option.some.inj given).symm different
        · rw [Function.update_of_ne same] at given
          exact holds.used userID x given

-- The token of one wait passes between its channel and a caller.
theorem holds_passed (holds : Holds state) (found : state.callers[t]? = some caller) (pc : Pc)
    (wait : ({ caller with pc := pc } : Caller).wait = caller.wait) (available : Bool)
    (single : tokens (state.callers.set t { caller with pc := pc }) w + (if available then 1 else 0) = 1)
    (others : ∀ x, x ≠ w → tokens (state.callers.set t { caller with pc := pc }) x = tokens state.callers x)
    (locking : ({ caller with pc := pc } : Caller).locking = caller.locking) :
    Holds (setPc (setAvailable state w available) t caller pc) := by
  have kept (x : Nat) : (Function.update state.waits w { state.waits w with available := available } x).references = (state.waits x).references := by
    by_cases same : x = w
    · rw [same, Function.update_self]
    · rw [Function.update_of_ne same]
  have owned := locked_own holds found
  refine ⟨?_, ?_, ?_, ?_, ?_⟩
  · apply holds.linked.mono
    intro userID x refers
    rcases refers_set rfl userID x refers with refers | ⟨same, waits⟩
    · exact refers
    · exact ⟨caller, List.mem_of_getElem? found, same.symm, wait ▸ waits⟩
  · intro x
    have counted := references_set { caller with pc := pc } found x
    rw [wait] at counted
    exact ((kept x).trans (holds.referenced x)).trans (Nat.add_right_cancel counted).symm
  · intro x
    dsimp only [setPc, setAvailable]
    by_cases same : x = w
    · rwa [same, Function.update_self]
    · rw [Function.update_of_ne same, others x same]
      exact holds.single x
  · intro userID x given
    exact (kept x).symm ▸ holds.used userID x given
  · apply locked_set holds found
    · rw [locking]
      exact owned
    · exact fun _ _ => Iff.rfl

theorem take_holds (holds : Holds state) (found : state.callers[t]? = some caller) (selecting : caller.pc = .selecting w)
    (available : (state.waits w).available = true) : Holds (setPc (setAvailable state w false) t caller (.acquired w)) := by
  have free : caller.token = none := by
    rw [Caller.token, selecting]
  have counted (x : Nat) := tokens_set { caller with pc := .acquired w } found x
  simp only [free] at counted
  simp only [reduceCtorEq, if_false, Nat.add_zero, Caller.token, Option.some.injEq] at counted
  have single := holds.single w
  rw [RelayWalletWait.stored, if_pos available] at single
  apply holds_passed holds found
  · rw [Caller.wait, Caller.wait, selecting]
  · rw [counted w, if_pos rfl, if_neg (by simp)]
    exact single
  · intro x different
    rw [counted x, if_neg (Ne.symm different), Nat.add_zero]
  · rw [Caller.locking, Caller.locking, selecting]

theorem send_holds (holds : Holds state) (found : state.callers[t]? = some caller) (sending : caller.pc = .sending w) :
    Holds (setPc (setAvailable state w true) t caller (.dropping w)) := by
  have token : caller.token = some w := by
    rw [Caller.token, sending]
  have counted (x : Nat) := tokens_set { caller with pc := .dropping w } found x
  simp only [token] at counted
  simp only [reduceCtorEq, if_false, Nat.add_zero, Caller.token, Option.some.injEq] at counted
  have own := counted w
  rw [if_pos rfl] at own
  have single := holds.single w
  apply holds_passed holds found
  · rw [Caller.wait, Caller.wait, sending]
  · rw [if_pos rfl]
    omega
  · intro x different
    have other := counted x
    rwa [if_neg (Ne.symm different), Nat.add_zero] at other
  · rw [Caller.locking, Caller.locking, sending]

theorem drop_holds (holds : Holds state) (found : state.callers[t]? = some caller) (dropping : caller.pc = .dropping w) :
    Holds (drop state t caller w) := by
  have wait : caller.wait = some w := by
    rw [Caller.wait, dropping]
  have free : caller.token = none := by
    rw [Caller.token, dropping]
  have mine : Refers state.callers caller.userID w := ⟨caller, List.mem_of_getElem? found, rfl, wait⟩
  have stands := holds.linked.linked _ _ mine
  have counted (x : Nat) := references_set { caller with pc := .ended } found x
  simp only [wait] at counted
  simp only [Caller.wait, reduceCtorEq, if_false, Nat.add_zero, Option.some.injEq] at counted
  have own := counted w
  rw [if_pos rfl, ← holds.referenced w] at own
  have fewer (userID : Int) (x : Nat) (refers : Refers (state.callers.set t { caller with pc := .ended }) userID x) :
      Refers state.callers userID x := by
    rcases refers_set rfl userID x refers with refers | ⟨_, waits⟩
    · exact refers
    · cases waits
  refine ⟨?_, ?_, ?_, ?_, ?_⟩
  · dsimp only [drop]
    have linked := holds.linked.mono fewer
    split
    · rename_i last
      apply linked.deleted
      intro x refers
      have same := linked.linked _ _ refers
      rw [stands] at same
      obtain rfl := Option.some.inj same
      obtain ⟨other, listed, _, waits⟩ := refers
      have counts : 0 < references (state.callers.set t { caller with pc := .ended }) w :=
        List.count_pos_iff.mpr (List.mem_filterMap.mpr ⟨other, listed, waits⟩)
      omega
    · exact linked
  · intro x
    dsimp only [drop]
    by_cases same : x = w
    · rw [same, Function.update_self]
      dsimp only
      omega
    · have other := counted x
      rw [if_neg (Ne.symm same), Nat.add_zero] at other
      rw [Function.update_of_ne same, holds.referenced x]
      exact other.symm
  · intro x
    have counted := tokens_set { caller with pc := .ended } found x
    rw [free, if_neg (by simp), if_neg (by simp [Caller.token]), Nat.add_zero, Nat.add_zero] at counted
    dsimp only [drop]
    rw [counted]
    have single := holds.single x
    by_cases same : x = w
    · rw [same] at single ⊢
      rwa [Function.update_self]
    · rwa [Function.update_of_ne same]
  · intro userID x given
    dsimp only [drop] at given ⊢
    split at given
    · by_cases same : userID = caller.userID
      · rw [same, Function.update_self] at given
        cases given
      · rw [Function.update_of_ne same] at given
        have different : x ≠ w := by
          intro clash
          rw [clash] at given
          exact same (holds.linked.apart _ _ w given stands)
        rw [Function.update_of_ne different]
        exact holds.used userID x given
    · rename_i more
      by_cases same : x = w
      · rw [same, Function.update_self]
        dsimp only
        omega
      · rw [Function.update_of_ne same]
        exact holds.used userID x given
  · have locked := (locked_own holds found).mpr (by rw [Caller.locking, dropping])
    apply locked_set holds found
    · simp [drop, Caller.locking]
    · intro j different
      rw [locked]
      simp [drop, different.symm]

-- A move within a call that leaves the lock alone.
theorem pc_holds (holds : Holds state) (found : state.callers[t]? = some caller) (pc : Pc)
    (wait : ({ caller with pc := pc } : Caller).wait = caller.wait) (token : ({ caller with pc := pc } : Caller).token = caller.token)
    (locking : ({ caller with pc := pc } : Caller).locking = caller.locking) : Holds (setPc state t caller pc) := by
  apply holds_moved { caller with pc := pc } holds found rfl wait token
  · rw [locking]
    exact locked_own holds found
  · exact fun _ _ => Iff.rfl

theorem lock_holds (holds : Holds state) (found : state.callers[t]? = some caller) (acquired : Bool) (leaving : caller.pc = .leaving w acquired)
    (unlocked : state.lock = none) : Holds { setPc state t caller (if acquired then .sending w else .dropping w) with lock := some t } := by
  apply holds_moved { caller with pc := if acquired then .sending w else .dropping w } holds found rfl
  · rw [Caller.wait, Caller.wait, leaving]
    cases acquired <;> rfl
  · rw [Caller.token, Caller.token, leaving]
    cases acquired <;> rfl
  · cases acquired <;> simp [Caller.locking]
  · intro j different
    rw [unlocked]
    simp [different.symm]

theorem advance_holds (holds : Holds state) (found : state.callers[t]? = some caller) (move : Move) : Holds (advance state t caller move) := by
  cases move with
  | cancel =>
      have own := locked_own holds found
      apply holds_moved { caller with cancelled := true } holds found rfl rfl rfl
      · exact own
      · exact fun _ _ => Iff.rfl
  | start =>
      rw [advance]
      split
      · rename_i starting
        apply pc_holds holds found
        · rw [Caller.wait, Caller.wait, starting]
          cases caller.cancelled <;> rfl
        · rw [Caller.token, Caller.token, starting]
          cases caller.cancelled <;> rfl
        · rw [Caller.locking, Caller.locking, starting]
          cases caller.cancelled <;> rfl
      · exact holds
  | enter =>
      rw [advance]
      split
      · rename_i entering _
        exact enter_holds holds found entering
      · exact holds
  | quit =>
      rw [advance]
      split
      · rename_i x selecting
        split
        · apply pc_holds holds found
          · rw [Caller.wait, Caller.wait, selecting]
          · rw [Caller.token, Caller.token, selecting]
          · rw [Caller.locking, Caller.locking, selecting]
        · exact holds
      · exact holds
  | take =>
      rw [advance]
      split
      · rename_i x selecting
        split
        · rename_i available
          exact take_holds holds found selecting available
        · exact holds
      · exact holds
  | check =>
      rw [advance]
      split
      · rename_i x acquired
        apply pc_holds holds found
        · rw [Caller.wait, Caller.wait, acquired]
          cases caller.cancelled <;> rfl
        · rw [Caller.token, Caller.token, acquired]
          cases caller.cancelled <;> rfl
        · rw [Caller.locking, Caller.locking, acquired]
          cases caller.cancelled <;> rfl
      · exact holds
  | unlock =>
      rw [advance]
      split
      · rename_i x inside
        apply pc_holds holds found
        · rw [Caller.wait, Caller.wait, inside]
        · rw [Caller.token, Caller.token, inside]
        · rw [Caller.locking, Caller.locking, inside]
      · exact holds
  | lock =>
      rw [advance]
      split
      · rename_i x acquired leaving unlocked
        exact lock_holds holds found acquired leaving unlocked
      · exact holds
  | send =>
      rw [advance]
      split
      · rename_i x sending
        split
        · exact holds
        · exact send_holds holds found sending
      · exact holds
  | drop =>
      rw [advance]
      split
      · rename_i x dropping
        exact drop_holds holds found dropping
      · exact holds

theorem call_holds (holds : Holds state) (userID : Int) : Holds (step state (.call userID)) := by
  have idle (held : Caller → Option Nat) (free : held { userID := userID } = none) :
      (state.callers ++ [({ userID := userID } : Caller)]).filterMap held = state.callers.filterMap held := filter_map_snoc held _ _ free
  refine ⟨?_, ?_, ?_, holds.used, ?_⟩
  · apply holds.linked.mono
    intro other x refers
    obtain ⟨caller, listed, same, waits⟩ := refers
    rcases List.mem_append.mp listed with listed | listed
    · exact ⟨caller, listed, same, waits⟩
    · rw [List.mem_singleton.mp listed] at waits
      cases waits
  · intro x
    rw [references, step, idle Caller.wait rfl]
    exact holds.referenced x
  · intro x
    rw [tokens, step, idle Caller.token rfl]
    exact holds.single x
  · intro t
    rw [step]
    dsimp only
    rw [holds.locked t]
    by_cases last : t < state.callers.length
    · rw [List.getElem?_append_left last]
    · constructor
      · intro inside
        obtain ⟨caller, found, _⟩ := inside
        rw [List.getElem?_eq_none (by omega)] at found
        cases found
      · intro inside
        obtain ⟨caller, found, locking⟩ := inside
        rw [List.getElem?_append_right (by omega)] at found
        rw [List.mem_singleton.mp (List.mem_of_getElem? found)] at locking
        cases locking

theorem run_holds (actions : List Action) : Holds (run actions) := by
  induction actions using List.reverseRecOn with
  | nil =>
      have nobody (userID : Int) (w : Nat) : ¬ Refers [] userID w := by
        intro refers
        obtain ⟨caller, listed, _⟩ := refers
        cases listed
      refine ⟨linked_empty nobody, fun _ => rfl, fun _ => rfl, ?_, ?_⟩
      · intro userID w given
        cases given
      · intro t
        simp [run]
  | append_singleton actions action ih =>
      rw [run, List.foldl_append]
      cases action with
      | call userID => exact call_holds ih userID
      | move t move =>
          change Holds (step (run actions) (.move t move))
          rw [step]
          split
          · exact ih
          · rename_i caller found
            exact advance_holds ih found move

end Steps

section Law

variable {state : State}

-- Between joining the queue and leaving it.
def Caller.queued (caller : Caller) : Bool := caller.wait.isSome

-- Between receiving the token and sending it back.
def Caller.owns (caller : Caller) : Bool := caller.token.isSome

structure Law (state : State) : Prop where
  mutex : ∀ userID, (state.callers.countP fun caller => caller.userID = userID ∧ caller.owns) ≤ 1
  entry : ∀ userID, state.accounts userID = none ↔ ∀ caller ∈ state.callers, caller.userID = userID → caller.queued = false
  shared : ∀ userID w, state.accounts userID = some w →
    (∀ caller ∈ state.callers, caller.userID = userID → caller.queued = true → caller.wait = some w) ∧
      (state.waits w).references = state.callers.countP fun caller => caller.userID = userID ∧ caller.queued
  kept : ∀ userID w, state.accounts userID = some w → (∀ caller ∈ state.callers, caller.userID = userID → caller.owns = false) →
    (state.waits w).available = true
  room : ∀ caller ∈ state.callers, ∀ w, caller.pc = .sending w → (state.waits w).available = false
  locked : ∀ t, state.lock = some t → ∃ caller w, state.callers[t]? = some caller ∧ (caller.pc = .sending w ∨ caller.pc = .dropping w)

theorem law (holds : Holds state) : Law state := by
  have queue (caller : Caller) (listed : caller ∈ state.callers) (w : Nat) (waits : caller.wait = some w) :
      state.accounts caller.userID = some w := holds.linked.linked _ w ⟨caller, listed, rfl, waits⟩
  have owners (userID : Int) (w : Nat) (stands : state.accounts userID = some w) :
      tokens state.callers w = state.callers.countP fun caller => caller.userID = userID ∧ caller.owns := by
    apply holds.linked.count Caller.userID Caller.token _ _ stands
    exact fun caller listed x token => ⟨caller, listed, rfl, token_wait caller x token⟩
  have members (userID : Int) (w : Nat) (stands : state.accounts userID = some w) :
      references state.callers w = state.callers.countP fun caller => caller.userID = userID ∧ caller.queued := by
    apply holds.linked.count Caller.userID Caller.wait _ _ stands
    exact fun caller listed x waits => ⟨caller, listed, rfl, waits⟩
  refine ⟨?_, ?_, ?_, ?_, ?_, ?_⟩
  · intro userID
    cases stands : state.accounts userID with
    | some w =>
        have single := holds.single w
        rw [← owners userID w stands]
        omega
    | none =>
        have nobody : (state.callers.countP fun caller => caller.userID = userID ∧ caller.owns) = 0 := by
          rw [List.countP_eq_zero]
          intro caller listed
          rw [decide_eq_true_eq]
          intro both
          obtain ⟨w, token⟩ := Option.isSome_iff_exists.mp both.2
          have given := queue caller listed w (token_wait caller w token)
          rw [both.1, stands] at given
          cases given
        rw [nobody]
        exact Nat.zero_le _
  · intro userID
    constructor
    · intro missing caller listed same
      by_contra queued
      have waiting : caller.wait.isSome = true := by simpa only [Caller.queued, Bool.not_eq_false] using queued
      obtain ⟨w, waits⟩ := Option.isSome_iff_exists.mp waiting
      have given := queue caller listed w waits
      rw [same, missing] at given
      cases given
    · intro nobody
      cases stands : state.accounts userID with
      | none => rfl
      | some w =>
          have used := holds.used userID w stands
          rw [holds.referenced w, members userID w stands, List.countP_pos_iff] at used
          obtain ⟨caller, listed, both⟩ := used
          rw [decide_eq_true_eq] at both
          have free := nobody caller listed both.1
          rw [both.2] at free
          cases free
  · intro userID w stands
    constructor
    · intro caller listed same queued
      obtain ⟨x, waits⟩ := Option.isSome_iff_exists.mp queued
      have given := queue caller listed x waits
      rw [same, stands] at given
      rw [waits, given]
    · rw [holds.referenced w, members userID w stands]
  · intro userID w stands nobody
    have idle : tokens state.callers w = 0 := by
      rw [owners userID w stands, List.countP_eq_zero]
      intro caller listed
      rw [decide_eq_true_eq]
      intro both
      rw [nobody caller listed both.1] at both
      cases both.2
    have single := holds.single w
    by_contra missing
    rw [idle, RelayWalletWait.stored, if_neg missing] at single
    cases single
  · intro caller listed w sending
    have token : caller.token = some w := by
      rw [Caller.token, sending]
    have held : 0 < tokens state.callers w := List.count_pos_iff.mpr (List.mem_filterMap.mpr ⟨caller, listed, token⟩)
    have single := holds.single w
    by_contra available
    rw [RelayWalletWait.stored, if_pos (by simpa using available)] at single
    omega
  · intro t given
    obtain ⟨caller, found, locking⟩ := (holds.locked t).mp given
    rw [Caller.locking] at locking
    split at locking
    · rename_i w sending
      exact ⟨caller, w, found, .inl sending⟩
    · rename_i w dropping
      exact ⟨caller, w, found, .inr dropping⟩
    · cases locking

theorem wallet_sequenced (actions : List Action) : Law (run actions) := law (run_holds actions)

end Law

end CodeGo.Ledger.RelaySequence
