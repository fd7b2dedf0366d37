import CodeGo.Lib.SortedSet
import CodeGo.Lib.Transaction
import Mathlib.Data.List.Induction

set_option autoImplicit false

namespace CodeGo.Gateway

open Keyspace Relational

/- The leases of one channel that its gateways share: a set for the channel and one for each
   user, written by scripts that run one at a time. Times are milliseconds. -/

structure LeaseKeys (Token : Type) where
  all : SortedSet Token
  user : SortedSet Token

section Scripts

variable {Token : Type} [DecidableEq Token] (nowMs lease : Nat) (totalLimit userLimit : Int) (token : Token) (keys : LeaseKeys Token)

def LeaseKeys.purge : LeaseKeys Token :=
  { all := keys.all.removeUpTo nowMs, user := if 0 < userLimit then keys.user.removeUpTo nowMs else keys.user }

def LeaseKeys.hold : LeaseKeys Token :=
  { all := (keys.all.add token (nowMs + lease)).expireAt (nowMs + lease),
    user := if 0 < userLimit then (keys.user.add token (nowMs + lease)).expireAt (nowMs + lease) else keys.user }

def channelConcurrencyReserveScript : Int × LeaseKeys Token :=
  let purged := keys.purge nowMs userLimit
  if token ∈ purged.all.members then (1, purged.hold nowMs lease userLimit token)
  else if 0 < totalLimit ∧ totalLimit ≤ purged.all.card then (0, purged)
  else if 0 < userLimit ∧ userLimit ≤ purged.user.card then (0, purged)
  else (1, purged.hold nowMs lease userLimit token)

def renewKey (set : SortedSet Token) : Int × SortedSet Token :=
  if token ∈ set.members then (1, (set.add token (nowMs + lease)).expireAt (nowMs + lease)) else (0, set)

def channelConcurrencyRenewScript : Int × LeaseKeys Token :=
  let all := renewKey nowMs lease token keys.all
  if 0 < userLimit then
    let user := renewKey nowMs lease token keys.user
    (all.1 + user.1, { all := all.2, user := user.2 })
  else (all.1, { keys with all := all.2 })

def releaseKey (set : SortedSet Token) : Int × SortedSet Token := (if token ∈ set.members then 1 else 0, set.remove token)

def channelConcurrencyReleaseScript : Int × LeaseKeys Token :=
  let all := releaseKey token keys.all
  if 0 < userLimit then
    let user := releaseKey token keys.user
    (all.1 + user.1, { all := all.2, user := user.2 })
  else (all.1, { keys with all := all.2 })

end Scripts

inductive LeaseCommand (Token : Type) where
  | reserve (token : Token)
  | renew (token : Token)
  | release (token : Token)
deriving DecidableEq, Repr

def LeaseCommand.token {Token : Type} : LeaseCommand Token → Token
  | .reserve token => token
  | .renew token => token
  | .release token => token

structure TimedLease (Token : Type) where
  delay : Nat
  command : LeaseCommand Token
deriving DecidableEq, Repr

structure LeaseStore (User Token : Type) where
  now : Nat
  all : SortedSet Token := {}
  user : User → SortedSet Token := fun _ => {}

def LeaseStore.wait {User Token : Type} (store : LeaseStore User Token) (delay : Nat) : LeaseStore User Token :=
  { now := store.now + delay, all := store.all.found (store.now + delay),
    user := fun user => (store.user user).found (store.now + delay) }

structure LeaseLimits where
  total : Int
  user : Int
  lease : Nat
  totalPositive : 0 < total
  userPositive : 0 < user
  leasePositive : 0 < lease

section Steps

variable {User Token : Type} [DecidableEq User] [DecidableEq Token] (limits : LeaseLimits) (owner : Token → User)

-- A token is drawn anew for each admission and used with the keys of one user.
def LeaseStore.keys (store : LeaseStore User Token) (token : Token) : LeaseKeys Token :=
  { all := store.all, user := store.user (owner token) }

def LeaseStore.write (store : LeaseStore User Token) (token : Token) (keys : LeaseKeys Token) : LeaseStore User Token :=
  { store with all := keys.all, user := Function.update store.user (owner token) keys.user }

def runScript (nowMs : Nat) : LeaseCommand Token → LeaseKeys Token → Int × LeaseKeys Token
  | .reserve token => channelConcurrencyReserveScript nowMs limits.lease limits.total limits.user token
  | .renew token => channelConcurrencyRenewScript nowMs limits.lease limits.user token
  | .release token => channelConcurrencyReleaseScript limits.user token

def leaseRan (store : LeaseStore User Token) (timed : TimedLease Token) : Int × LeaseKeys Token :=
  runScript limits (store.now + timed.delay) timed.command ((store.wait timed.delay).keys owner timed.command.token)

def leaseStep (store : LeaseStore User Token) (timed : TimedLease Token) : LeaseStore User Token :=
  (store.wait timed.delay).write owner timed.command.token (leaseRan limits owner store timed).2

end Steps

section Reserve

variable {Token : Type} [DecidableEq Token] (limits : LeaseLimits) (now : Nat) (token : Token) (keys : LeaseKeys Token)

-- A reserve keeps a live token, takes a free slot or is refused by live tokens.
inductive ReserveRan : Int × LeaseKeys Token → Prop where
  | again (alive : token ∈ keys.all.live now) :
      ReserveRan (1, (keys.purge now limits.user).hold now limits.lease limits.user token)
  | fresh (absent : token ∉ keys.all.live now) (room : ((keys.all.live now).card : Int) < limits.total)
      (userRoom : ((keys.user.live now).card : Int) < limits.user) :
      ReserveRan (1, (keys.purge now limits.user).hold now limits.lease limits.user token)
  | refused (absent : token ∉ keys.all.live now)
      (full : limits.total ≤ (keys.all.live now).card ∨ limits.user ≤ (keys.user.live now).card) : ReserveRan (0, keys.purge now limits.user)

omit [DecidableEq Token] in
theorem purged_all : (keys.purge now limits.user).all = keys.all.removeUpTo now := rfl

omit [DecidableEq Token] in
theorem purged_user : (keys.purge now limits.user).user = keys.user.removeUpTo now := by
  unfold LeaseKeys.purge
  rw [if_pos limits.userPositive]

theorem held_all : (keys.hold now limits.lease limits.user token).all = (keys.all.add token (now + limits.lease)).expireAt (now + limits.lease) := rfl

theorem held_user :
    (keys.hold now limits.lease limits.user token).user = (keys.user.add token (now + limits.lease)).expireAt (now + limits.lease) := by
  unfold LeaseKeys.hold
  rw [if_pos limits.userPositive]

theorem reserve_ran :
    ReserveRan limits now token keys (channelConcurrencyReserveScript now limits.lease limits.total limits.user token keys) := by
  unfold channelConcurrencyReserveScript
  simp only [SortedSet.card, purged_all, purged_user, removed_members, limits.totalPositive, limits.userPositive, true_and]
  split_ifs with alive full userFull
  · exact .again alive
  · exact .refused alive (.inl full)
  · exact .refused alive (.inr userFull)
  · exact .fresh alive (by omega) (by omega)

end Reserve

section Scores

variable {Token : Type} [DecidableEq Token] (limits : LeaseLimits) (now : Nat)

-- What the scripts of one token leave of the entries of another.
structure OthersKept (token : Token) (before after : LeaseKeys Token) : Prop where
  user : ∀ other, other ≠ token → other ∈ after.user.members → other ∈ before.user.members ∧ after.user.score other = before.user.score other
  all : ∀ other, other ≠ token → other ∈ before.all.members → now < before.all.score other →
    other ∈ after.all.members ∧ after.all.score other = before.all.score other
  fromAll : ∀ other, other ≠ token → other ∈ after.all.members → other ∈ before.all.members ∧ after.all.score other = before.all.score other

omit [DecidableEq Token] in
theorem purge_keeps_others (token : Token) (keys : LeaseKeys Token) : OthersKept now token keys (keys.purge now limits.user) := by
  refine ⟨fun other _ member => ?_, fun other _ member ahead => ?_, fun other _ member => ?_⟩
  · rw [purged_user] at member ⊢
    exact ⟨((mem_live _ _ _).mp member).1, rfl⟩
  · exact ⟨(mem_live _ _ _).mpr ⟨member, ahead⟩, rfl⟩
  · exact ⟨((mem_live _ _ _).mp member).1, rfl⟩

theorem renewed_members (lease : Nat) (token : Token) (set : SortedSet Token) : (renewKey now lease token set).2.members = set.members := by
  unfold renewKey
  split
  · rename_i present
    exact Finset.insert_eq_of_mem present
  · rfl

theorem renewed_score (lease : Nat) (token other : Token) (set : SortedSet Token) (apart : other ≠ token) :
    (renewKey now lease token set).2.score other = set.score other := by
  unfold renewKey
  split
  · exact Function.update_of_ne apart _ _
  · rfl

theorem others_kept (command : LeaseCommand Token) (keys : LeaseKeys Token) :
    OthersKept now command.token keys (runScript limits now command keys).2 := by
  cases command with
  | reserve token =>
      have purged := purge_keeps_others limits now token keys
      have held : OthersKept now token keys ((keys.purge now limits.user).hold now limits.lease limits.user token) := by
        refine ⟨fun other apart member => ?_, fun other apart member ahead => ?_, fun other apart member => ?_⟩
        · rw [held_user] at member ⊢
          simp only [expire_members, added_members, Finset.mem_insert, apart, false_or] at member
          simpa [Function.update_of_ne apart] using purged.user other apart member
        · simpa [held_all, apart, Function.update_of_ne apart] using purged.all other apart member ahead
        · simp only [held_all, expire_members, added_members, Finset.mem_insert, apart, false_or] at member
          simpa [held_all, Function.update_of_ne apart] using purged.fromAll other apart member
      have ran := reserve_ran limits now token keys
      simp only [runScript, LeaseCommand.token]
      generalize channelConcurrencyReserveScript now limits.lease limits.total limits.user token keys = result at ran
      cases ran with
      | again alive => exact held
      | fresh absent room userRoom => exact held
      | refused absent full => exact purged
  | renew token =>
      simp only [runScript, channelConcurrencyRenewScript, LeaseCommand.token, if_pos limits.userPositive]
      refine ⟨fun other apart member => ?_, fun other apart member _ => ?_, fun other apart member => ?_⟩
      · exact ⟨by rwa [renewed_members] at member, renewed_score now limits.lease token other keys.user apart⟩
      · exact ⟨by rwa [renewed_members], renewed_score now limits.lease token other keys.all apart⟩
      · exact ⟨by rwa [renewed_members] at member, renewed_score now limits.lease token other keys.all apart⟩
  | release token =>
      simp only [runScript, channelConcurrencyReleaseScript, LeaseCommand.token, if_pos limits.userPositive]
      refine ⟨fun other apart member => ?_, fun other apart member _ => ?_, fun other apart member => ?_⟩
      · exact ⟨Finset.mem_of_mem_erase member, rfl⟩
      · exact ⟨Finset.mem_erase.mpr ⟨apart, member⟩, rfl⟩
      · exact ⟨Finset.mem_of_mem_erase member, rfl⟩

end Scores

section Channel

variable {Token : Type} [DecidableEq Token] (limits : LeaseLimits) (now : Nat)

-- The channel set never outgrows its limit, and its key lives as long as its members.
structure Capped (set : SortedSet Token) : Prop where
  card : (set.card : Int) ≤ limits.total
  spans : ∀ token ∈ set.members, set.score token ≤ set.deadline

omit [DecidableEq Token] in
theorem Capped.found {limits : LeaseLimits} {set : SortedSet Token} (capped : Capped limits set) : Capped limits (set.found now) := by
  rcases found_cases set now with same | ⟨_, gone⟩
  · rw [same]
    exact capped
  · rw [gone]
    exact ⟨Int.le_of_lt limits.totalPositive, by simp⟩

omit [DecidableEq Token] in
theorem Capped.purged {limits : LeaseLimits} {set : SortedSet Token} (capped : Capped limits set) : Capped limits (set.removeUpTo now) := by
  have fewer := live_card_le set now
  have card := capped.card
  refine ⟨?_, fun token member => capped.spans token ((mem_live _ _ _).mp member).1⟩
  simp only [SortedSet.card, removed_members] at card fewer ⊢
  omega

-- An entry written with the latest score.
theorem Capped.written {limits : LeaseLimits} {set : SortedSet Token} (token : Token) (lease : Nat)
    (card : ((insert token set.members).card : Int) ≤ limits.total) (past : ∀ other ∈ set.members, set.score other ≤ now + lease) :
    Capped limits ((set.add token (now + lease)).expireAt (now + lease)) := by
  refine ⟨card, fun other member => ?_⟩
  simp only [expire_score, expire_members, added_members, added_score, expire_deadline, Finset.mem_insert] at member ⊢
  by_cases same : other = token
  · rw [same, Function.update_self]
  · rw [Function.update_of_ne same]
    exact past other (member.resolve_left same)

-- No score lies further ahead than one lease.
def Ahead (set : SortedSet Token) : Prop := ∀ token ∈ set.members, set.score token ≤ now + limits.lease

theorem capped_script (command : LeaseCommand Token) (keys : LeaseKeys Token) (capped : Capped limits keys.all) (ahead : Ahead limits now keys.all) :
    Capped limits (runScript limits now command keys).2.all := by
  cases command with
  | reserve token =>
      have purged := capped.purged now
      have card := purged.card
      have past : ∀ other ∈ (keys.all.removeUpTo now).members, (keys.all.removeUpTo now).score other ≤ now + limits.lease :=
        fun other member => ahead other ((mem_live _ _ _).mp member).1
      have ran := reserve_ran limits now token keys
      simp only [runScript]
      generalize channelConcurrencyReserveScript now limits.lease limits.total limits.user token keys = result at ran
      cases ran with
      | again alive =>
          rw [held_all, purged_all]
          refine Capped.written now token limits.lease ?_ past
          rw [removed_members, Finset.insert_eq_of_mem alive]
          exact card
      | fresh absent room userRoom =>
          rw [held_all, purged_all]
          refine Capped.written now token limits.lease ?_ past
          rw [removed_members, Finset.card_insert_of_notMem absent]
          omega
      | refused absent full => exact purged
  | renew token =>
      simp only [runScript, channelConcurrencyRenewScript, if_pos limits.userPositive, renewKey]
      split
      · rename_i present
        refine Capped.written now token limits.lease ?_ ahead
        rw [Finset.insert_eq_of_mem present]
        exact capped.card
      · exact capped
  | release token =>
      simp only [runScript, channelConcurrencyReleaseScript, if_pos limits.userPositive, releaseKey]
      have fewer : (keys.all.members.erase token).card ≤ keys.all.members.card := Finset.card_erase_le
      have card := capped.card
      refine ⟨?_, fun other member => capped.spans other (Finset.mem_of_mem_erase member)⟩
      simp only [SortedSet.card, erased_members] at card ⊢
      omega

theorem ahead_script (command : LeaseCommand Token) (keys : LeaseKeys Token) (ahead : Ahead limits now keys.all) :
    Ahead limits now (runScript limits now command keys).2.all := by
  intro other member
  by_cases same : other = command.token
  · cases command with
    | reserve token =>
        have ran := reserve_ran limits now token keys
        simp only [runScript, LeaseCommand.token] at member same ⊢
        generalize channelConcurrencyReserveScript now limits.lease limits.total limits.user token keys = result at ran member ⊢
        subst same
        cases ran with
        | again alive => simp [held_all]
        | fresh absent room userRoom => simp [held_all]
        | refused absent full => exact (absent member).elim
    | renew token =>
        simp only [runScript, channelConcurrencyRenewScript, if_pos limits.userPositive, LeaseCommand.token] at member same ⊢
        subst same
        rw [renewed_members] at member
        simp [renewKey, member]
    | release token =>
        simp only [runScript, channelConcurrencyReleaseScript, if_pos limits.userPositive, LeaseCommand.token] at member same ⊢
        subst same
        simp [releaseKey] at member
  · obtain ⟨before, score⟩ := (others_kept limits now command keys).fromAll other same member
    rw [score]
    exact ahead other before

end Channel

section Pairs

variable {User Token : Type} [DecidableEq User] [DecidableEq Token] (limits : LeaseLimits) (owner : Token → User)

structure Kept (store : LeaseStore User Token) : Prop where
  capped : Capped limits store.all
  ahead : Ahead limits store.now store.all

omit [DecidableEq User] [DecidableEq Token] in
theorem Kept.wait {limits : LeaseLimits} {store : LeaseStore User Token} (kept : Kept limits store) (delay : Nat) :
    Kept limits (store.wait delay) := by
  refine ⟨kept.capped.found (store.now + delay), fun token member => ?_⟩
  obtain ⟨same, before, _⟩ := mem_found store.all (store.now + delay) token member
  have ahead := kept.ahead token before
  simp only [LeaseStore.wait, same]
  omega

theorem Kept.step {limits : LeaseLimits} {store : LeaseStore User Token} (kept : Kept limits store) (timed : TimedLease Token) :
    Kept limits (leaseStep limits owner store timed) := by
  have waited := kept.wait timed.delay
  exact ⟨capped_script limits _ timed.command _ waited.capped waited.ahead, ahead_script limits _ timed.command _ waited.ahead⟩

omit [DecidableEq User] [DecidableEq Token] in
theorem Kept.blank (start : Nat) : Kept limits ({ now := start } : LeaseStore User Token) :=
  ⟨⟨Int.le_of_lt limits.totalPositive, by simp⟩, by simp [Ahead]⟩

theorem kept_run (start : Nat) (events : List (TimedLease Token)) :
    Kept limits (run (leaseStep limits owner) { now := start } events) :=
  run_keeps (leaseStep limits owner) (Kept limits) (fun _ => True) (fun _ timed _ kept => kept.step owner timed) { now := start }
    (.blank limits start) events (fun _ _ => trivial)

-- The user sets stay within their limit, and what lives in one lives in the channel set as long.
structure Paired (store : LeaseStore User Token) : Prop where
  owned : ∀ user token, token ∈ (store.user user).members → owner token = user
  backed : ∀ user token, token ∈ (store.user user).members → store.now < (store.user user).score token →
    token ∈ store.all.members ∧ (store.user user).score token ≤ store.all.score token
  card : ∀ user, ((store.user user).card : Int) ≤ limits.user

omit [DecidableEq User] [DecidableEq Token] in
theorem Paired.wait {limits : LeaseLimits} {owner : Token → User} {store : LeaseStore User Token} (paired : Paired limits owner store)
    (kept : Kept limits store) (delay : Nat) : Paired limits owner (store.wait delay) := by
  refine ⟨fun user token member => ?_, fun user token member alive => ?_, fun user => ?_⟩
  · exact paired.owned user token (mem_found _ _ token member).2.1
  · obtain ⟨same, before, _⟩ := mem_found (store.user user) (store.now + delay) token member
    simp only [LeaseStore.wait, same] at alive ⊢
    obtain ⟨present, longer⟩ := paired.backed user token before (by omega)
    have spans := kept.capped.spans token present
    rcases found_cases store.all (store.now + delay) with found | ⟨ended, _⟩
    · rw [found]
      exact ⟨present, longer⟩
    · omega
  · have fewer := found_card_le (store.user user) (store.now + delay)
    have card := paired.card user
    simp only [LeaseStore.wait]
    omega

-- A repeated reserve finds its token in both sets or room in the set of its user, and no renew
-- finds it in that set alone.
def ClearKeys (now : Nat) (command : LeaseCommand Token) (keys : LeaseKeys Token) : Prop :=
  match command with
  | .reserve token => token ∈ keys.all.live now → token ∉ keys.user.live now → ((keys.user.live now).card : Int) < limits.user
  | .renew token => token ∈ keys.user.members → token ∈ keys.all.members
  | .release _ => True

def Clear (store : LeaseStore User Token) (timed : TimedLease Token) : Prop :=
  ClearKeys limits (store.now + timed.delay) timed.command ((store.wait timed.delay).keys owner timed.command.token)

end Pairs

section Script

variable {Token : Type} [DecidableEq Token] (limits : LeaseLimits) (now : Nat) (keys : LeaseKeys Token)

theorem user_card_script (command : LeaseCommand Token) (clear : ClearKeys limits now command keys) (card : (keys.user.card : Int) ≤ limits.user) :
    ((runScript limits now command keys).2.user.card : Int) ≤ limits.user := by
  have fewer := live_card_le keys.user now
  cases command with
  | reserve token =>
      have ran := reserve_ran limits now token keys
      simp only [runScript]
      generalize channelConcurrencyReserveScript now limits.lease limits.total limits.user token keys = result at ran
      have held : (((keys.purge now limits.user).hold now limits.lease limits.user token).user.card : Int) =
          (insert token (keys.user.live now)).card := by
        rw [held_user, purged_user]
        rfl
      cases ran with
      | again alive =>
          rw [held]
          by_cases own : token ∈ keys.user.live now
          · rw [Finset.insert_eq_of_mem own]
            omega
          · have room := clear alive own
            rw [Finset.card_insert_of_notMem own]
            omega
      | fresh absent room userRoom =>
          have added := Finset.card_insert_le token (keys.user.live now)
          rw [held]
          omega
      | refused absent full =>
          rw [purged_user]
          simp only [SortedSet.card, removed_members] at fewer card ⊢
          omega
  | renew token =>
      simp only [runScript, channelConcurrencyRenewScript, if_pos limits.userPositive]
      unfold SortedSet.card at card ⊢
      rw [renewed_members]
      exact card
  | release token =>
      simp only [runScript, channelConcurrencyReleaseScript, if_pos limits.userPositive, releaseKey]
      have erased : (keys.user.members.erase token).card ≤ keys.user.members.card := Finset.card_erase_le
      simp only [SortedSet.card, erased_members] at card ⊢
      omega

-- The token of the command, where its own set still holds it, is held as long by the channel.
theorem backed_script (command : LeaseCommand Token) (clear : ClearKeys limits now command keys)
    (backed : ∀ token ∈ keys.user.members, now < keys.user.score token →
      token ∈ keys.all.members ∧ keys.user.score token ≤ keys.all.score token)
    (member : command.token ∈ (runScript limits now command keys).2.user.members) :
    command.token ∈ (runScript limits now command keys).2.all.members ∧
      (runScript limits now command keys).2.user.score command.token ≤ (runScript limits now command keys).2.all.score command.token := by
  cases command with
  | reserve token =>
      have held : token ∈ ((keys.purge now limits.user).hold now limits.lease limits.user token).all.members ∧
          ((keys.purge now limits.user).hold now limits.lease limits.user token).user.score token ≤
            ((keys.purge now limits.user).hold now limits.lease limits.user token).all.score token := by
        simp [held_all, held_user]
      have ran := reserve_ran limits now token keys
      simp only [runScript, LeaseCommand.token] at member ⊢
      generalize channelConcurrencyReserveScript now limits.lease limits.total limits.user token keys = result at ran member ⊢
      cases ran with
      | again alive => exact held
      | fresh absent room userRoom => exact held
      | refused absent full =>
          rw [purged_user, removed_members, mem_live] at member
          obtain ⟨present, longer⟩ := backed token member.1 member.2
          exact (absent ((mem_live _ _ _).mpr ⟨present, by omega⟩)).elim
  | renew token =>
      simp only [runScript, channelConcurrencyRenewScript, if_pos limits.userPositive, LeaseCommand.token] at member ⊢
      rw [renewed_members] at member ⊢
      have present := clear member
      refine ⟨present, ?_⟩
      simp [renewKey, present, member]
  | release token =>
      simp only [runScript, channelConcurrencyReleaseScript, if_pos limits.userPositive, LeaseCommand.token, releaseKey] at member
      simp at member

end Script

section Runs

variable {User Token : Type} [DecidableEq User] [DecidableEq Token] (limits : LeaseLimits) (owner : Token → User)

theorem user_of_step (store : LeaseStore User Token) (timed : TimedLease Token) (user : User) :
    (leaseStep limits owner store timed).user user =
      if user = owner timed.command.token then (leaseRan limits owner store timed).2.user
      else (store.wait timed.delay).user user := by
  unfold leaseStep LeaseStore.write
  exact Function.update_apply _ _ _ _

theorem Paired.step {limits : LeaseLimits} {owner : Token → User} {store : LeaseStore User Token} {timed : TimedLease Token}
    (paired : Paired limits owner store) (kept : Kept limits store) (clear : Clear limits owner store timed) :
    Paired limits owner (leaseStep limits owner store timed) := by
  have waited := paired.wait kept timed.delay
  have others := others_kept limits (store.now + timed.delay) timed.command ((store.wait timed.delay).keys owner timed.command.token)
  -- An entry of another token was there before, in the same set.
  have earlier : ∀ user token, token ≠ timed.command.token → token ∈ ((leaseStep limits owner store timed).user user).members →
      token ∈ ((store.wait timed.delay).user user).members ∧
        ((leaseStep limits owner store timed).user user).score token = ((store.wait timed.delay).user user).score token := by
    intro user token apart member
    rw [user_of_step] at member ⊢
    split_ifs at member ⊢ with same
    · rw [same]
      exact others.user token apart member
    · exact ⟨member, rfl⟩
  have owned : ∀ user token, token ∈ ((leaseStep limits owner store timed).user user).members → owner token = user := by
    intro user token member
    by_cases apart : token = timed.command.token
    · rw [user_of_step] at member
      split_ifs at member with same
      · rw [apart, same]
      · exact waited.owned user token member
    · exact waited.owned user token (earlier user token apart member).1
  refine ⟨owned, fun user token member alive => ?_, fun user => ?_⟩
  · by_cases apart : token = timed.command.token
    · have same := owned user token member
      rw [user_of_step, if_pos (by rw [← same, apart])] at member ⊢
      rw [apart] at member ⊢
      exact backed_script limits _ _ timed.command clear (waited.backed (owner timed.command.token)) member
    · obtain ⟨before, score⟩ := earlier user token apart member
      rw [score] at alive ⊢
      obtain ⟨present, longer⟩ := waited.backed user token before alive
      obtain ⟨stays, unchanged⟩ := others.all token apart present (Nat.lt_of_lt_of_le alive longer)
      exact ⟨stays, Nat.le_trans longer (Nat.le_of_eq unchanged.symm)⟩
  · rw [user_of_step]
    split_ifs with same
    · exact user_card_script limits _ _ timed.command clear (waited.card _)
    · exact waited.card user

-- A token the channel set lacks comes back by a reserve of it and by nothing else.
theorem absent_step (store : LeaseStore User Token) (timed : TimedLease Token) (token : Token)
    (unreserved : timed.command ≠ .reserve token) (absent : token ∉ (store.wait timed.delay).all.members) :
    token ∉ (leaseStep limits owner store timed).all.members := by
  intro present
  have others := others_kept limits (store.now + timed.delay) timed.command ((store.wait timed.delay).keys owner timed.command.token)
  by_cases apart : token = timed.command.token
  · have ran : (leaseRan limits owner store timed).2.all.members = (leaseStep limits owner store timed).all.members := rfl
    rw [← ran] at present
    subst apart
    unfold leaseRan at present
    cases command : timed.command with
    | reserve other => simp [command, LeaseCommand.token] at unreserved
    | renew other =>
        simp only [command, runScript, channelConcurrencyRenewScript, if_pos limits.userPositive, LeaseCommand.token] at present absent
        rw [renewed_members] at present
        exact absent present
    | release other =>
        simp only [command, runScript, channelConcurrencyReleaseScript, if_pos limits.userPositive, LeaseCommand.token, releaseKey] at present
        exact Finset.notMem_erase _ _ present
  · exact absent (others.fromAll token apart present).1

theorem absent_run (store : LeaseStore User Token) (events : List (TimedLease Token)) (token : Token)
    (unreserved : ∀ timed ∈ events, timed.command ≠ .reserve token) (absent : token ∉ store.all.members) :
    token ∉ (run (leaseStep limits owner) store events).all.members := by
  induction events generalizing store with
  | nil => exact absent
  | cons timed rest ih =>
      refine ih (leaseStep limits owner store timed) (fun later member => unreserved later (by simp [member])) ?_
      refine absent_step limits owner store timed token (unreserved timed (by simp)) fun found => absent ?_
      exact (mem_found _ _ token found).2.1

def ClearRun (start : Nat) (events : List (TimedLease Token)) : Prop :=
  ∀ early timed later, events = early ++ timed :: later → Clear limits owner (run (leaseStep limits owner) { now := start } early) timed

theorem paired_run (start : Nat) (events : List (TimedLease Token)) (clear : ClearRun limits owner start events) :
    Paired limits owner (run (leaseStep limits owner) { now := start } events) := by
  induction events using List.reverseRecOn with
  | nil => exact ⟨by simp, by simp, fun _ => Int.le_of_lt limits.userPositive⟩
  | append_singleton events timed ih =>
      have earlier := ih fun early timed' later split => clear early timed' (later ++ [timed]) (by rw [split]; simp)
      rw [run_append]
      exact earlier.step (kept_run limits owner start events) (clear events timed [] rfl)

def WithinLimits (store : LeaseStore User Token) : Prop :=
  ∀ time, store.now ≤ time → ((store.all.live time).card : Int) ≤ limits.total ∧
    ∀ user, (((store.user user).live time).card : Int) ≤ limits.user

-- A reserve of a token whose lease is live is answered with success and keeps the slot it has.
def RetryKept (store : LeaseStore User Token) (timed : TimedLease Token) : Prop :=
  ∀ token, timed.command = .reserve token → token ∈ (store.wait timed.delay).all.live (store.now + timed.delay) →
    (leaseRan limits owner store timed).1 = 1 ∧
      (leaseStep limits owner store timed).all.live (store.now + timed.delay) = (store.wait timed.delay).all.live (store.now + timed.delay) ∧
      ((leaseStep limits owner store timed).user (owner token)).live (store.now + timed.delay) =
        insert token (((store.wait timed.delay).user (owner token)).live (store.now + timed.delay))

def RefusedFull (store : LeaseStore User Token) (timed : TimedLease Token) : Prop :=
  ∀ token, timed.command = .reserve token → (leaseRan limits owner store timed).1 ≠ 1 →
    limits.total ≤ ((store.wait timed.delay).all.live (store.now + timed.delay)).card ∨
      limits.user ≤ (((store.wait timed.delay).user (owner token)).live (store.now + timed.delay)).card

-- In neither set.
def Dead (store : LeaseStore User Token) (token : Token) : Prop :=
  token ∉ store.all.members ∧ token ∉ (store.user (owner token)).live store.now

structure LeasesHold (start : Nat) (events : List (TimedLease Token)) : Prop where
  within : ∀ early later, events = early ++ later → WithinLimits limits (run (leaseStep limits owner) { now := start } early)
  retried : ∀ early timed later, events = early ++ timed :: later →
    RetryKept limits owner (run (leaseStep limits owner) { now := start } early) timed
  refused : ∀ early timed later, events = early ++ timed :: later →
    RefusedFull limits owner (run (leaseStep limits owner) { now := start } early) timed
  revived : ∀ early timed middle later token, events = early ++ timed :: middle ++ later →
    token ∉ ((run (leaseStep limits owner) { now := start } early).wait timed.delay).all.members →
    (∀ passed ∈ timed :: middle, passed.command ≠ .reserve token) →
    Dead owner (run (leaseStep limits owner) { now := start } (early ++ timed :: middle)) token

variable {limits owner}

theorem held_live (limits : LeaseLimits) (now : Nat) (token : Token) (keys : LeaseKeys Token) :
    ((keys.purge now limits.user).hold now limits.lease limits.user token).all.live now = insert token (keys.all.live now) ∧
      ((keys.purge now limits.user).hold now limits.lease limits.user token).user.live now = insert token (keys.user.live now) := by
  have ahead : now < now + limits.lease := Nat.lt_add_of_pos_right limits.leasePositive
  have added := fun set : SortedSet Token => added_live set now token (now + limits.lease) ahead
  rw [held_all, held_user, purged_all, purged_user]
  constructor
  · exact (added _).trans (by rw [removed_live])
  · exact (added _).trans (by rw [removed_live])

theorem retry_kept (store : LeaseStore User Token) (timed : TimedLease Token) : RetryKept limits owner store timed := by
  intro token command alive
  have ran := reserve_ran limits (store.now + timed.delay) token ((store.wait timed.delay).keys owner token)
  obtain ⟨all, user⟩ := held_live limits (store.now + timed.delay) token ((store.wait timed.delay).keys owner token)
  rw [user_of_step]
  unfold leaseStep leaseRan
  simp only [command, runScript, LeaseCommand.token, if_true, LeaseStore.write]
  generalize channelConcurrencyReserveScript (store.now + timed.delay) limits.lease limits.total limits.user token
    ((store.wait timed.delay).keys owner token) = result at ran
  cases ran with
  | again _ => exact ⟨rfl, all.trans (Finset.insert_eq_of_mem alive), user⟩
  | fresh absent _ _ => exact (absent alive).elim
  | refused absent _ => exact (absent alive).elim

omit [DecidableEq User] in
theorem refused_full (store : LeaseStore User Token) (timed : TimedLease Token) : RefusedFull limits owner store timed := by
  intro token command refused
  have ran := reserve_ran limits (store.now + timed.delay) token ((store.wait timed.delay).keys owner token)
  unfold leaseRan at refused
  simp only [command, runScript, LeaseCommand.token] at refused
  generalize channelConcurrencyReserveScript (store.now + timed.delay) limits.lease limits.total limits.user token
    ((store.wait timed.delay).keys owner token) = result at ran refused
  cases ran with
  | again _ => exact (refused rfl).elim
  | fresh _ _ _ => exact (refused rfl).elim
  | refused _ full => exact full

omit [DecidableEq User] [DecidableEq Token] in
theorem Paired.within {store : LeaseStore User Token} (paired : Paired limits owner store) (kept : Kept limits store) : WithinLimits limits store := by
  intro time _
  have total := kept.capped.card
  have fewer := live_card_le store.all time
  refine ⟨by omega, fun user => ?_⟩
  have card := paired.card user
  have less := live_card_le (store.user user) time
  omega

omit [DecidableEq User] [DecidableEq Token] in
theorem Paired.dead {store : LeaseStore User Token} (paired : Paired limits owner store) {token : Token} (absent : token ∉ store.all.members) :
    Dead owner store token := by
  refine ⟨absent, fun alive => ?_⟩
  obtain ⟨member, ahead⟩ := (mem_live _ _ _).mp alive
  exact absent (paired.backed _ token member ahead).1

-- A step that is not clear breaks a limit or revives a token at once.
theorem clear_of_hold {start : Nat} {events : List (TimedLease Token)} (hold : LeasesHold limits owner start events) :
    ClearRun limits owner start events := by
  intro early timed later split
  unfold Clear ClearKeys
  cases command : timed.command with
  | reserve token =>
      intro alive missing
      by_contra full
      have within := (hold.within (early ++ [timed]) later (by rw [split]; simp) _ (Nat.le_refl _)).2 (owner token)
      have kept := (@retry_kept User Token _ _ limits owner _ timed token command alive).2.2
      rw [run_append] at within
      have grown := Finset.card_insert_of_notMem missing
      simp only [LeaseStore.keys, LeaseCommand.token] at grown full
      simp only [run_cons, run_nil] at within
      have bounded : ((((leaseStep limits owner (run (leaseStep limits owner) { now := start } early) timed).user (owner token)).live
          ((run (leaseStep limits owner) { now := start } early).now + timed.delay)).card : Int) ≤ limits.user := within
      rw [kept, grown] at bounded
      omega
  | renew token =>
      intro member
      by_contra absent
      have dead := hold.revived early timed [] later token (by rw [split]; simp) absent (by simp [command])
      rw [run_append] at dead
      refine dead.2 ?_
      simp only [run_cons, run_nil]
      rw [user_of_step, if_pos (by rw [command]; rfl)]
      have ahead : (run (leaseStep limits owner) { now := start } early).now + timed.delay <
          (run (leaseStep limits owner) { now := start } early).now + timed.delay + limits.lease :=
        Nat.lt_add_of_pos_right limits.leasePositive
      refine (mem_live _ _ _).mpr ?_
      unfold leaseRan
      simp only [command, runScript, channelConcurrencyRenewScript, if_pos limits.userPositive, LeaseCommand.token] at member ⊢
      rw [renewed_members]
      refine ⟨member, ?_⟩
      simp only [renewKey, if_pos member, expire_score, added_score, Function.update_self]
      exact ahead
  | release token => trivial

theorem leases_hold_iff_clear (limits : LeaseLimits) (owner : Token → User) (start : Nat) (events : List (TimedLease Token)) :
    LeasesHold limits owner start events ↔ ClearRun limits owner start events := by
  refine ⟨clear_of_hold, fun clear => ?_⟩
  have prefixes : ∀ early later, events = early ++ later → Paired limits owner (run (leaseStep limits owner) { now := start } early) := by
    intro early later split
    refine paired_run limits owner start early fun first timed rest same => clear first timed (rest ++ later) ?_
    rw [split, same]
    simp
  refine ⟨fun early later split => ?_, fun early timed later _ => retry_kept _ timed, fun early timed later _ => refused_full _ timed, ?_⟩
  · exact (prefixes early later split).within (kept_run limits owner start early)
  · intro early timed middle later token split absent unreserved
    refine (prefixes (early ++ timed :: middle) later split).dead ?_
    rw [run_append, run_cons]
    exact absent_run limits owner _ middle token (fun passed member => unreserved passed (by simp [member]))
      (absent_step limits owner _ timed token (unreserved timed (by simp)) absent)

end Runs

-- Tokens 1, 2 and 4 are of user 1 and token 3 is of user 2.
def gateOwner (token : Nat) : Nat := if token = 3 then 2 else 1

def gateLimits : LeaseLimits :=
  { total := 10, user := 2, lease := 90000, totalPositive := by decide, userPositive := by decide, leasePositive := by decide }

-- The renew comes when the key of the user is gone and the channel still holds the token, so
-- that the repeated reserve adds it to a full set.
def overbooked : List (TimedLease Nat) :=
  [⟨0, .reserve 1⟩, ⟨50000, .reserve 3⟩, ⟨40001, .renew 1⟩, ⟨0, .reserve 2⟩, ⟨0, .reserve 4⟩, ⟨0, .reserve 1⟩]

-- The reserve of another user purges the token from the channel set alone.
def purgedByAnother : List (TimedLease Nat) := [⟨0, .reserve 1⟩, ⟨10, .reserve 2⟩, ⟨89995, .reserve 3⟩]

theorem user_limit_exceeded_and_token_revived :
    ¬ LeasesHold gateLimits gateOwner 0 overbooked ∧ ¬ LeasesHold gateLimits gateOwner 0 (purgedByAnother ++ [⟨1, .renew 1⟩]) := by
  constructor
  · intro hold
    have within := (hold.within overbooked [] rfl _ (Nat.le_refl _)).2 1
    exact absurd within (by decide +kernel)
  · intro hold
    have dead := hold.revived purgedByAnother ⟨1, .renew 1⟩ [] [] 1 rfl (by decide +kernel) (by decide)
    exact dead.2 (by decide +kernel)

end CodeGo.Gateway
