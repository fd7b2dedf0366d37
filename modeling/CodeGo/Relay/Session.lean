import CodeGo.Ledger.Runtime
import CodeGo.Lib.Float64
import CodeGo.Lib.Int64

set_option autoImplicit false

namespace CodeGo.Relay

open Relational Billing Machine

/- The billing session of one relay request: what it holds from its funding source and
   from the API key, and the factors between the quoted and the held amounts. Logs,
   waiting times and the locks around one request are not represented. -/

structure BillingSnapshot where
  billingMode : String
  estimatedQuotaAfterGroup : Int
deriving DecidableEq, Repr

structure MonthlyPassEntitlement where
  propID : Int
  multiplier : ℚ
  expiresAt : Int
deriving DecidableEq, Repr

-- The channel id is missing when the request has no channel metadata.
structure RelayInfo where
  userID : Int
  requestID : String
  tokenID : Int := 0
  tokenKey : String := ""
  tokenUnlimited : Bool := false
  isPlayground : Bool := false
  serviceTier : String := ""
  tieredBillingSnapshot : Option BillingSnapshot := none
  marketplaceGroupID : String := ""
  marketplaceOwnerID : Int := 0
  channelID : Option Int := none
  billingSource : String := ""
  finalPreConsumedQuota : Int := 0
  billingSettledQuota : Int := 0
  billingSettled : Bool := false
deriving DecidableEq, Repr

structure BillingSession (F : Type) where
  relayInfo : RelayInfo
  funding : F
  preConsumedQuota : Int := 0
  tokenConsumed : Int := 0
  trusted : Bool := false
  quotaScale : ℚ := 0
  reservationQuotaScale : ℚ := 0
  monthlyPass : Option MonthlyPassEntitlement := none
  fundingSettled : Bool := false
  settled : Bool := false
  refunded : Bool := false

inductive ErrorCode where
  | preConsumeTokenQuotaFailed
  | insufficientUserQuota
  | updateDataError
deriving DecidableEq, Repr

inductive SessionError where
  | ledger (problem : LedgerError)
  | tokenQuotaInsufficient
  | blindBoxInsufficientQuota
  | message (text : String)
  | described (text : String) (problem : SessionError)
  | joined (first second : SessionError)
  | api (code : ErrorCode) (status : Option Nat) (problem : SessionError)
deriving DecidableEq, Repr

-- Whether an error is, or wraps, the ledger's shortage.
def SessionError.isInsufficientBalance : SessionError → Bool
  | .ledger problem => problem = .insufficientBalance
  | .described _ problem => problem.isInsufficientBalance
  | .joined first second => first.isInsufficientBalance || second.isInsufficientBalance
  | .tokenQuotaInsufficient | .blindBoxInsufficientQuota | .message _ | .api _ _ _ => false

def billingSourceSubscription : String := "subscription"

structure Request (σ F : Type) where
  session : BillingSession F
  store : σ

abbrev SessionTx (σ F α : Type) : Type := Tx (Request σ F) SessionError α

-- What a session pays through, and the answers of the subsystems beside it.
structure SessionEnv (σ F : Type) where
  source : F → String
  preConsume : Int → Tx (F × σ) SessionError Unit
  reserveAdditional : Int → Tx (F × σ) SessionError Unit
  refund : Tx (F × σ) SessionError Unit
  -- Of a subscription: the amount it took, after its own order of plans and packs.
  preConsumeOrdered : Tx (F × σ) SessionError { amount : Int // InInt64 amount }
  adjustTokenQuota : Int → String → Int → Tx σ SessionError Unit
  validatePass : Int → MonthlyPassEntitlement → Bool
  -- SQLite has one writer, so the two reservations are made one after the other.
  usingSQLite : Bool

def scaleQuota (quota : Int) (scale : ℚ) : Int :=
  if quota ≤ 0 ∨ scale ≤ 0 ∨ scale = 1 then quota
  else
    let scaled := Float64.round (Float64.mul (Float64.ofInt quota) scale)
    if 2 ^ 63 ≤ scaled then maxInt64 else if scaled < 1 then 1 else scaled

variable {σ F α : Type}

def BillingSession.reservationScale (session : BillingSession F) : ℚ :=
  if 0 < session.reservationQuotaScale then session.reservationQuotaScale else session.quotaScale

-- A monthly pass that ran out since the reservation no longer lowers the price.
def BillingSession.settlementQuotaScale (env : SessionEnv σ F) (session : BillingSession F) : ℚ :=
  match session.monthlyPass with
  | none => session.quotaScale
  | some pass => if env.validatePass session.relayInfo.userID pass then session.quotaScale else session.reservationScale

def BillingSession.scaledSettlementQuota (env : SessionEnv σ F) (session : BillingSession F) (actualQuota : Int) : Int :=
  scaleQuota (max actualQuota 0) (session.settlementQuotaScale env)

def readSession : SessionTx σ F (BillingSession F) := Tx.view Request.session

def editSession (change : BillingSession F → BillingSession F) : SessionTx σ F Unit :=
  Tx.edit fun request => { request with session := change request.session }

def onFunding (work : Tx (F × σ) SessionError α) : SessionTx σ F α :=
  work.zoom (fun request => (request.session.funding, request.store))
    fun request next => { session := { request.session with funding := next.1 }, store := next.2 }

def onStore (work : Tx σ SessionError α) : SessionTx σ F α :=
  work.zoom Request.store fun request store => { request with store }

-- Error texts in the repository's own language are given in English.
def newFundingInsufficientError (source : String) (problem : SessionError) : Option SessionError :=
  if problem = .blindBoxInsufficientQuota then
    some (.api .insufficientUserQuota (some 403) (.described "blind box quota insufficient" problem))
  else if problem.isInsufficientBalance then
    some (.api .insufficientUserQuota (some 403)
      (.described (if source = billingSourceSubscription then "subscription quota insufficient or unavailable" else "universal quota insufficient") problem))
  else none

section Operations

variable (env : SessionEnv σ F)

def syncRelayInfo : SessionTx σ F Unit :=
  editSession fun session => { session with
    relayInfo := { session.relayInfo with
      finalPreConsumedQuota := session.preConsumedQuota
      billingSource := env.source session.funding } }

def adjustToken (delta : Int) : SessionTx σ F Unit := do
  let session ← readSession
  onStore (env.adjustTokenQuota session.relayInfo.tokenID session.relayInfo.tokenKey delta)

def preConsumeTokenQuota (quota : Int) : SessionTx σ F Unit := do
  Tx.reject (quota < 0) (.message "quota must not be negative")
  let session ← readSession
  if session.relayInfo.isPlayground ∨ session.relayInfo.tokenUnlimited then return ()
  else adjustToken env quota

def reserveToken (delta : Int) : SessionTx σ F Unit := do
  let session ← readSession
  if delta ≤ 0 ∨ session.relayInfo.isPlayground then return ()
  else
    match ← Tx.attempt (preConsumeTokenQuota env delta) with
    | .ok () => return ()
    | .error problem => Tx.fail (.api .preConsumeTokenQuotaFailed (some 403) problem)

def reserveFunding (delta : Int) : SessionTx σ F Unit := do
  let session ← readSession
  match ← Tx.attempt (onFunding (env.reserveAdditional delta)) with
  | .ok () => return ()
  | .error problem => Tx.fail ((newFundingInsufficientError (env.source session.funding) problem).getD problem)

def reserveLocked (targetQuota : Int) : SessionTx σ F Unit := do
  let session ← readSession
  let target := scaleQuota (max targetQuota 0) session.reservationScale
  if session.settled ∨ session.refunded ∨ session.trusted ∨ target ≤ session.preConsumedQuota then return ()
  else
    let delta := target - session.preConsumedQuota
    reserveToken env delta
    match ← Tx.attempt (reserveFunding env delta) with
    | .ok () =>
        editSession fun session => { session with
          preConsumedQuota := session.preConsumedQuota + delta
          tokenConsumed := session.tokenConsumed + delta }
        syncRelayInfo env
    | .error problem =>
        if session.relayInfo.isPlayground then Tx.fail problem
        else
          match ← Tx.attempt (adjustToken env (-delta)) with
          | .ok () => Tx.fail problem
          | .error rollback => Tx.fail (.joined problem (.described "rollback token reservation" rollback))

-- The funding source is asked even when the key was refused, where the two run side by side.
def preConsumeSources (amount : Int) : SessionTx σ F (Option SessionError × Option SessionError) := do
  let tokenAnswer ← Tx.attempt (preConsumeTokenQuota env amount)
  match tokenAnswer, decide (amount ≤ 0 ∨ env.usingSQLite) with
  | .error tokenErr, true => return (some tokenErr, none)
  | .error tokenErr, false =>
      match ← Tx.attempt (onFunding (env.preConsume amount)) with
      | .ok () => return (some tokenErr, none)
      | .error fundingErr => return (some tokenErr, some fundingErr)
  | .ok (), _ =>
      match ← Tx.attempt (onFunding (env.preConsume amount)) with
      | .ok () => return (none, none)
      | .error fundingErr => return (none, some fundingErr)

def SessionError.mentionsSubscription : SessionError → Bool
  | .message text => (text.splitOn "no active subscription").length > 1 || (text.splitOn "subscription quota insufficient").length > 1
  | .described _ problem => problem.mentionsSubscription
  | .joined first second => first.mentionsSubscription || second.mentionsSubscription
  | .ledger _ | .tokenQuotaInsufficient | .blindBoxInsufficientQuota | .api _ _ _ => false

-- A refused key gives the funding back, unless the funding failed in its own way.
def refuseToken (tokenErr : SessionError) (fundingErr : Option SessionError) : SessionTx σ F Unit := do
  let session ← readSession
  match fundingErr with
  | some problem =>
      if newFundingInsufficientError (env.source session.funding) problem = none ∧ ¬ problem.mentionsSubscription then
        Tx.fail (.api .updateDataError none (.joined tokenErr problem))
      else Tx.fail (.api .preConsumeTokenQuotaFailed (some 403) tokenErr)
  | none =>
      match ← Tx.attempt (onFunding env.refund) with
      | .ok () => Tx.fail (.api .preConsumeTokenQuotaFailed (some 403) tokenErr)
      | .error rollback => Tx.fail (.api .updateDataError none (.joined tokenErr rollback))

def giveTokenBack (problem : SessionError) : SessionTx σ F Unit := do
  let session ← readSession
  if session.tokenConsumed ≤ 0 ∨ session.relayInfo.isPlayground then return ()
  else
    match ← Tx.attempt (adjustToken env (-session.tokenConsumed)) with
    | .ok () => editSession fun session => { session with tokenConsumed := 0 }
    | .error rollback => Tx.fail (.api .updateDataError none (.joined problem rollback))

def fundingRefusal (source : String) (problem : SessionError) : SessionError :=
  match newFundingInsufficientError source problem with
  | some insufficient => insufficient
  | none =>
      if problem.mentionsSubscription then
        .api .insufficientUserQuota (some 403) (.described "subscription quota insufficient or unavailable" problem)
      else .api .updateDataError none problem

def noteToken (effectiveQuota : Int) : SessionTx σ F Unit :=
  editSession fun session => { session with tokenConsumed := if 0 < effectiveQuota then effectiveQuota else session.tokenConsumed }

def closePreConsume (effectiveQuota : Int) : Option SessionError → Option SessionError → SessionTx σ F Unit
  | some problem, fundingErr => refuseToken env problem fundingErr
  | none, some problem => do
      noteToken effectiveQuota
      let session ← readSession
      giveTokenBack env problem
      Tx.fail (fundingRefusal (env.source session.funding) problem)
  | none, none => do
      noteToken effectiveQuota
      editSession fun session => { session with preConsumedQuota := effectiveQuota }
      syncRelayInfo env

-- No funding source is trusted without a reservation: shouldTrust answers no for each of them.
def preConsume (quota : Int) : SessionTx σ F Unit := do
  let session ← readSession
  let effectiveQuota := scaleQuota quota session.reservationScale
  let (tokenErr, fundingErr) ← preConsumeSources env effectiveQuota
  closePreConsume env effectiveQuota tokenErr fundingErr

def preConsumeOrderedSubscription : SessionTx σ F Unit := do
  match ← Tx.attempt (onFunding env.preConsumeOrdered) with
  | .error problem => Tx.fail (fundingRefusal billingSourceSubscription problem)
  | .ok effectiveQuota =>
      match ← Tx.attempt (preConsumeTokenQuota env effectiveQuota) with
      | .error tokenErr => refuseToken env tokenErr none
      | .ok () => closePreConsume env effectiveQuota none none

end Operations

end CodeGo.Relay
