import CodeGo.Relay.Session

set_option autoImplicit false

namespace CodeGo.Relay

open Relational Billing Machine

/- The fallback of a failing tiered expression, through the tier and the scale of the
   settlement. -/

def serviceTierMultiplier (tier : String) : Int := if tier = "priority" then 2 else if tier = "ultrafast" then 6 else 1

def RelayInfo.serviceTierQuota (info : RelayInfo) (quota : Int) : Int :=
  if quota ≤ 0 then quota
  else
    let multiplier := serviceTierMultiplier info.serviceTier
    if maxInt64.tdiv multiplier < quota then maxInt64 else quota * multiplier

structure TieredResult where
  actualQuotaAfterGroup : Int
deriving DecidableEq, Repr

def tryTieredSettle (compute : BillingSnapshot → Except String TieredResult) (info : RelayInfo) : Bool × Int × Option TieredResult :=
  match info.tieredBillingSnapshot with
  | none => (false, 0, none)
  | some snap =>
      if snap.billingMode ≠ "tiered_expr" then (false, 0, none)
      else
        match compute snap with
        | .ok result => (true, result.actualQuotaAfterGroup, some result)
        | .error _ =>
            let quota := info.finalPreConsumedQuota.tdiv (serviceTierMultiplier info.serviceTier)
            (true, if quota ≤ 0 then snap.estimatedQuotaAfterGroup else quota, none)

theorem tier_multiplier (tier : String) : serviceTierMultiplier tier = 1 ∨ serviceTierMultiplier tier = 2 ∨ serviceTierMultiplier tier = 6 := by
  unfold serviceTierMultiplier
  split_ifs <;> simp

section Scaling

variable {quota hold : Int} {scale : ℚ}

theorem scale_quota_le (small : quota ≤ maxInt64) : scaleQuota quota scale ≤ maxInt64 := by
  unfold scaleQuota
  simp only [maxInt64] at small ⊢
  split_ifs <;> omega

theorem scale_quota_zero : scaleQuota 0 scale = 0 := if_pos (.inl (le_refl 0))

theorem scale_quota_plain (plain : scale ≤ 0 ∨ scale = 1) : scaleQuota quota scale = quota := if_pos (.inr plain)

-- The product rounds to the hold, at the two ends of the range included.
def WithinHalf (hold : Int) (product : ℚ) : Prop :=
  1 ≤ hold ∧ (hold = 1 ∨ (hold : ℚ) - 1 / 2 ≤ product) ∧ (hold = maxInt64 ∨ product < hold + 1 / 2)

theorem scale_quota_eq_iff (charged : 0 < quota) (scaled : ¬ (scale ≤ 0 ∨ scale = 1)) (small : hold ≤ maxInt64) :
    scaleQuota quota scale = hold ↔ WithinHalf hold (Float64.mul (Float64.ofInt quota) scale) := by
  have positive : 0 ≤ scale := by
    rw [not_or, not_le] at scaled
    exact scaled.1.le
  have nonneg : 0 ≤ Float64.mul (Float64.ofInt quota) scale := by
    apply Float64.nearest_nonneg
    apply mul_nonneg _ positive
    apply Float64.nearest_nonneg
    exact_mod_cast charged.le
  have lower := Float64.le_round_iff nonneg hold
  have upper := Float64.le_round_iff nonneg (hold + 1)
  have above : ((hold + 1 : ℤ) : ℚ) - 1 / 2 = hold + 1 / 2 := by
    push_cast
    ring
  rw [above] at upper
  unfold WithinHalf
  rw [← lower, ← not_le, ← upper, scaleQuota, if_neg (not_or.mpr ⟨by omega, scaled⟩)]
  simp only [maxInt64] at small ⊢
  split_ifs <;> omega

end Scaling

section Held

variable {σ F α : Type} (env : SessionEnv σ F)

-- What a session holds, as the session and the request see it.
def Request.held (request : Request σ F) : Int × Int := (request.session.preConsumedQuota, request.session.relayInfo.finalPreConsumedQuota)

theorem held_on_store (work : Tx σ SessionError α) (value : Int × Int) :
    Tx.Keeps (fun request : Request σ F => request.held = value) (onStore work) :=
  Tx.keeps_zoom fun _ _ held => held

theorem held_on_funding (work : Tx (F × σ) SessionError α) (value : Int × Int) :
    Tx.Keeps (fun request : Request σ F => request.held = value) (onFunding work) :=
  Tx.keeps_zoom fun _ _ held => held

theorem held_read (value : Int × Int) : Tx.Keeps (fun request : Request σ F => request.held = value) readSession :=
  (Tx.read_only_view _).keeps

theorem held_adjust_token (delta : Int) (value : Int × Int) :
    Tx.Keeps (fun request : Request σ F => request.held = value) (adjustToken env delta) :=
  Tx.keeps_bind (held_read value) fun _ => held_on_store _ value

theorem held_pre_consume_token (quota : Int) (value : Int × Int) :
    Tx.Keeps (fun request : Request σ F => request.held = value) (preConsumeTokenQuota env quota) := by
  refine Tx.keeps_bind (Tx.read_only_reject _ _).keeps fun _ => Tx.keeps_bind (held_read value) fun session => ?_
  split
  · exact (Tx.read_only_pure ()).keeps
  · exact held_adjust_token env quota value

theorem held_reserve_token (delta : Int) (value : Int × Int) :
    Tx.Keeps (fun request : Request σ F => request.held = value) (reserveToken env delta) := by
  refine Tx.keeps_bind (held_read value) fun session => ?_
  split
  · exact (Tx.read_only_pure ()).keeps
  · refine Tx.keeps_bind (Tx.keeps_attempt (held_pre_consume_token env delta value)) fun answer => ?_
    cases answer with
    | ok done => exact (Tx.read_only_pure ()).keeps
    | error problem => exact (Tx.read_only_fail _).keeps

theorem held_reserve_funding (delta : Int) (value : Int × Int) :
    Tx.Keeps (fun request : Request σ F => request.held = value) (reserveFunding env delta) := by
  refine Tx.keeps_bind (held_read value) fun session => Tx.keeps_bind (Tx.keeps_attempt (held_on_funding _ value)) fun answer => ?_
  cases answer with
  | ok done => exact (Tx.read_only_pure ()).keeps
  | error problem => exact (Tx.read_only_fail _).keeps

-- The request shows the amount the session holds, and it is one an int can carry.
structure Synced (request : Request σ F) : Prop where
  shown : request.session.relayInfo.finalPreConsumedQuota = request.session.preConsumedQuota
  nonneg : 0 ≤ request.session.preConsumedQuota
  bounded : request.session.preConsumedQuota ≤ maxInt64

theorem Synced.of_held {request after : Request σ F} (synced : Synced request) (same : after.held = request.held) : Synced after := by
  obtain ⟨amount, shown⟩ := Prod.ext_iff.mp same
  simp only [Request.held] at amount shown
  exact ⟨by rw [amount, shown, synced.shown], by rw [amount]; exact synced.nonneg, by rw [amount]; exact synced.bounded⟩

theorem token_nonneg {amount : Int} {request middle : Request σ F} (ran : preConsumeTokenQuota env amount request = (.ok (), middle)) : 0 ≤ amount := by
  rw [preConsumeTokenQuota, Tx.ran_bind] at ran
  obtain ⟨_, _, accepted, _⟩ := ran
  rw [Tx.ran_reject] at accepted
  omega

theorem attempted {work : SessionTx σ F α} {request middle : Request σ F} {answer : Except SessionError α}
    (ran : Tx.attempt work request = (.ok answer, middle)) : work request = (answer, middle) := by
  simp only [Tx.attempt, Prod.mk.injEq, Except.ok.injEq] at ran
  exact Prod.ext ran.1 ran.2

-- The two sources have been asked and neither refused.
theorem sources_accepted {amount : Int} {request middle : Request σ F} (ran : preConsumeSources env amount request = (.ok (none, none), middle)) :
    0 ≤ amount := by
  rw [preConsumeSources, Tx.ran_bind] at ran
  obtain ⟨answer, asked, token, rest⟩ := ran
  cases answer with
  | ok done => exact token_nonneg env (attempted token)
  | error problem =>
      cases serial : decide (amount ≤ 0 ∨ env.usingSQLite) with
      | true => simp [serial] at rest
      | false =>
          simp only [serial, Tx.ran_bind] at rest
          obtain ⟨answer, after, _, rest⟩ := rest
          cases answer <;> simp at rest

theorem refuse_token_fails {tokenErr : SessionError} {fundingErr : Option SessionError} {request after : Request σ F} :
    refuseToken env tokenErr fundingErr request ≠ (.ok (), after) := by
  intro ran
  rw [refuseToken, readSession, Tx.bind_view] at ran
  cases fundingErr with
  | some problem =>
      dsimp only at ran
      split at ran <;> simp at ran
  | none =>
      simp only [Tx.ran_bind] at ran
      obtain ⟨answer, middle, _, ran⟩ := ran
      cases answer <;> simp at ran

theorem close_accepted {effectiveQuota : Int} {tokenErr fundingErr : Option SessionError} {request after : Request σ F}
    (ran : closePreConsume env effectiveQuota tokenErr fundingErr request = (.ok (), after)) :
    tokenErr = none ∧ fundingErr = none ∧ after.held = (effectiveQuota, effectiveQuota) := by
  match tokenErr, fundingErr with
  | some problem, fundingErr => exact (refuse_token_fails env ran).elim
  | none, some problem => simp [closePreConsume] at ran
  | none, none =>
      simp only [closePreConsume, noteToken, editSession, syncRelayInfo, Tx.ran_bind, Tx.ran_edit] at ran
      obtain ⟨_, _, rfl, _, _, rfl, rfl⟩ := ran
      exact ⟨rfl, rfl, rfl⟩

theorem synced_of_amount {request : Request σ F} {amount : Int} (held : request.held = (amount, amount)) (nonneg : 0 ≤ amount) (bounded : amount ≤ maxInt64) :
    Synced request := by
  obtain ⟨own, shown⟩ := Prod.ext_iff.mp held
  simp only [Request.held] at own shown
  exact ⟨by rw [own, shown], by rwa [own], by rwa [own]⟩

theorem pre_consume_held {quota : Int} {request after : Request σ F} (ran : preConsume env quota request = (.ok (), after)) :
    0 ≤ scaleQuota quota request.session.reservationScale ∧
      after.held = (scaleQuota quota request.session.reservationScale, scaleQuota quota request.session.reservationScale) := by
  rw [preConsume, readSession, Tx.bind_view, Tx.ran_bind] at ran
  obtain ⟨⟨tokenErr, fundingErr⟩, middle, sources, closed⟩ := ran
  obtain ⟨rfl, rfl, held⟩ := close_accepted env closed
  exact ⟨sources_accepted env sources, held⟩

theorem pre_consume_ordered_synced {request after : Request σ F} (ran : preConsumeOrderedSubscription env request = (.ok (), after)) : Synced after := by
  rw [preConsumeOrderedSubscription, Tx.ran_bind] at ran
  obtain ⟨answer, middle, _, rest⟩ := ran
  cases answer with
  | error problem => simp at rest
  | ok effectiveQuota =>
      simp only [Tx.ran_bind] at rest
      obtain ⟨answer, later, token, rest⟩ := rest
      cases answer with
      | error problem => exact (refuse_token_fails env rest).elim
      | ok done =>
          obtain ⟨_, _, held⟩ := close_accepted env rest
          have bounds := effectiveQuota.property
          apply synced_of_amount held (token_nonneg env (attempted token))
          unfold InInt64 at bounds
          simp only [maxInt64]
          omega

-- Whether a raise goes through or not, the request shows what the session holds.
theorem reserve_locked_synced {targetQuota : Int} (small : targetQuota ≤ maxInt64) (request : Request σ F) (synced : Synced request) :
    Synced (reserveLocked env targetQuota request).2 := by
  have top := @scale_quota_le _ request.session.reservationScale (show max targetQuota 0 ≤ maxInt64 by simp only [maxInt64] at small ⊢; omega)
  rw [reserveLocked, readSession, Tx.bind_view]
  split
  · exact synced
  rename_i raised
  simp only [not_or, not_le] at raised
  obtain ⟨_, _, _, more⟩ := raised
  have untouched : ∀ state : Request σ F, state.held = request.held → Synced state := fun state same => synced.of_held same
  refine Tx.bind_leads (held_reserve_token env _ request.held) untouched (fun _ => ?_) request rfl
  refine Tx.bind_leads (Tx.keeps_attempt (held_reserve_funding env _ request.held)) untouched ?_
  intro answer
  cases answer with
  | ok done =>
      intro state held
      obtain ⟨own, _⟩ := Prod.ext_iff.mp held
      simp only [Request.held] at own
      refine ⟨rfl, ?_, ?_⟩
      · have nonneg := synced.nonneg
        change 0 ≤ state.session.preConsumedQuota + _
        omega
      · change state.session.preConsumedQuota + _ ≤ maxInt64
        omega
  | error problem =>
      dsimp only
      split
      · exact untouched
      refine Tx.bind_leads (Tx.keeps_attempt (held_adjust_token env _ request.held)) untouched ?_
      intro rollback
      cases rollback with
      | ok done => exact untouched
      | error second => exact untouched

-- The sessions of a request: opened at a quota or by the subscription's own order, then raised by any targets.
inductive Opened : Request σ F → Prop where
  | preConsumed {request after : Request σ F} (quota : Int) (small : quota ≤ maxInt64) (ran : preConsume env quota request = (.ok (), after)) :
      Opened after
  | ordered {request after : Request σ F} (quotaScale reservationQuotaScale : ℚ) (monthlyPass : Option MonthlyPassEntitlement)
      (ran : preConsumeOrderedSubscription env request = (.ok (), after)) :
      Opened { after with session := { after.session with quotaScale, reservationQuotaScale, monthlyPass } }
  | raised {request : Request σ F} (opened : Opened request) (targetQuota : Int) (small : targetQuota ≤ maxInt64) :
      Opened (reserveLocked env targetQuota request).2

theorem opened_synced {request : Request σ F} (opened : Opened env request) : Synced request := by
  induction opened with
  | preConsumed quota small ran =>
      obtain ⟨nonneg, held⟩ := pre_consume_held env ran
      exact synced_of_amount held nonneg (scale_quota_le small)
  | ordered quotaScale reservationQuotaScale monthlyPass ran =>
      exact (pre_consume_ordered_synced env ran).of_held rfl
  | raised opened targetQuota small ih => exact reserve_locked_synced env small _ ih

-- The expression failed, and what the tier and the scale make of the fallback is the hold.
def FallbackSettles (compute : BillingSnapshot → Except String TieredResult) (session : BillingSession F) : Prop :=
  ∃ quota, tryTieredSettle compute session.relayInfo = (true, quota, none) ∧
    session.scaledSettlementQuota env (session.relayInfo.serviceTierQuota quota) = session.preConsumedQuota

end Held

-- What the tier charges again: the hold without its remainder, or the estimate where the hold is below one multiple.
def tieredBase (multiplier hold estimate : Int) : Int :=
  if hold < multiplier then min (estimate * multiplier) maxInt64 else hold - hold % multiplier

-- Without a scale the tier divides the hold; with one, the scaled base rounds back to it.
def FallbackExact (multiplier hold estimate : Int) (scale : ℚ) : Prop :=
  if scale ≤ 0 ∨ scale = 1 then multiplier ∣ hold ∧ (hold = 0 → estimate ≤ 0)
  else if hold < multiplier ∧ estimate ≤ 0 then hold = 0
  else WithinHalf hold (Float64.mul (Float64.ofInt (tieredBase multiplier hold estimate)) scale)

-- The multiple, capped where an int ends.
theorem service_tier_quota_value (info : RelayInfo) (quota : Int) :
    max (info.serviceTierQuota quota) 0 = max (min (quota * serviceTierMultiplier info.serviceTier) maxInt64) 0 := by
  have whole (multiplier : Int) : maxInt64.tdiv multiplier = maxInt64 / multiplier := Int.tdiv_eq_ediv_of_nonneg (by decide)
  unfold RelayInfo.serviceTierQuota
  simp only [whole]
  simp only [maxInt64]
  rcases tier_multiplier info.serviceTier with tier | tier | tier
  all_goals
    simp only [tier]
    split_ifs <;> omega

section Fallback

variable {hold estimate : Int}

def fallbackQuota (multiplier hold estimate : Int) : Int := if hold.tdiv multiplier ≤ 0 then estimate else hold.tdiv multiplier

theorem fallback_value (info : RelayInfo) (nonneg : 0 ≤ hold) (bounded : hold ≤ maxInt64) :
    max (info.serviceTierQuota (fallbackQuota (serviceTierMultiplier info.serviceTier) hold estimate)) 0 =
      if hold < serviceTierMultiplier info.serviceTier ∧ estimate ≤ 0 then 0
      else tieredBase (serviceTierMultiplier info.serviceTier) hold estimate := by
  rw [service_tier_quota_value, fallbackQuota, tieredBase, Int.tdiv_eq_ediv_of_nonneg nonneg]
  simp only [maxInt64] at bounded ⊢
  rcases tier_multiplier info.serviceTier with tier | tier | tier
  all_goals
    simp only [tier]
    split_ifs <;> omega

theorem tiered_base_pos (info : RelayInfo) (charged : ¬ (hold < serviceTierMultiplier info.serviceTier ∧ estimate ≤ 0)) :
    0 < tieredBase (serviceTierMultiplier info.serviceTier) hold estimate := by
  unfold tieredBase
  simp only [maxInt64]
  rcases tier_multiplier info.serviceTier with tier | tier | tier
  all_goals
    simp only [tier] at charged ⊢
    split_ifs <;> omega

theorem tiered_base_eq_iff (info : RelayInfo) (nonneg : 0 ≤ hold) :
    (if hold < serviceTierMultiplier info.serviceTier ∧ estimate ≤ 0 then 0 else tieredBase (serviceTierMultiplier info.serviceTier) hold estimate) = hold ↔
      serviceTierMultiplier info.serviceTier ∣ hold ∧ (hold = 0 → estimate ≤ 0) := by
  unfold tieredBase
  simp only [maxInt64]
  rcases tier_multiplier info.serviceTier with tier | tier | tier
  all_goals
    simp only [tier]
    split_ifs <;> omega

theorem scaled_fallback_iff (info : RelayInfo) (nonneg : 0 ≤ hold) (bounded : hold ≤ maxInt64) (scale : ℚ) :
    scaleQuota (max (info.serviceTierQuota (fallbackQuota (serviceTierMultiplier info.serviceTier) hold estimate)) 0) scale = hold ↔
      FallbackExact (serviceTierMultiplier info.serviceTier) hold estimate scale := by
  rw [fallback_value info nonneg bounded, FallbackExact]
  by_cases plain : scale ≤ 0 ∨ scale = 1
  · rw [if_pos plain, scale_quota_plain plain]
    exact tiered_base_eq_iff info nonneg
  · rw [if_neg plain]
    by_cases nothing : hold < serviceTierMultiplier info.serviceTier ∧ estimate ≤ 0
    · rw [if_pos nothing, if_pos nothing, scale_quota_zero, eq_comm]
    · rw [if_neg nothing, if_neg nothing]
      exact scale_quota_eq_iff (tiered_base_pos info nothing) plain bounded

end Fallback

-- What the caller of the fallback is given.
theorem try_tiered_settle_failed (compute : BillingSnapshot → Except String TieredResult) (info : RelayInfo) {snap : BillingSnapshot} {problem : String}
    (tiered : info.tieredBillingSnapshot = some snap) (mode : snap.billingMode = "tiered_expr") (failed : compute snap = .error problem) :
    tryTieredSettle compute info =
      (true, fallbackQuota (serviceTierMultiplier info.serviceTier) info.finalPreConsumedQuota snap.estimatedQuotaAfterGroup, none) := by
  rw [tryTieredSettle, tiered]
  simp only [mode, ne_eq, not_true_eq_false, if_false, failed]
  rfl

-- A source and a key that grant everything, and a request whose expression does not parse.
def grantingEnv : SessionEnv Unit Unit where
  source _ := billingSourceSubscription
  preConsume _ := pure ()
  reserveAdditional _ := pure ()
  refund := pure ()
  preConsumeOrdered := pure ⟨0, by decide⟩
  adjustTokenQuota _ _ _ := pure ()
  validatePass _ _ := true
  usingSQLite := true

def unparsed : BillingSnapshot → Except String TieredResult := fun _ => .error "invalid expression"

def tieredInfo (tier : String) : RelayInfo :=
  { userID := 1, requestID := "req", tokenID := 1, serviceTier := tier, tieredBillingSnapshot := some ⟨"tiered_expr", 1000⟩ }

def heldRequest (tier : String) (scale : ℚ) (hold : Int) : Request Unit Unit where
  session :=
    { relayInfo := { tieredInfo tier with finalPreConsumedQuota := hold, billingSource := billingSourceSubscription }
      funding := (), preConsumedQuota := hold, tokenConsumed := hold, quotaScale := scale }
  store := ()

theorem held_request_opened (tier : String) (scale : ℚ) (quota hold : Int) (small : quota ≤ maxInt64) (charged : 0 < hold)
    (scaled : scaleQuota quota scale = hold) : Opened grantingEnv (heldRequest tier scale hold) := by
  let fresh : Request Unit Unit := ⟨{ relayInfo := tieredInfo tier, funding := (), quotaScale := scale }, ()⟩
  have source : fresh.session.reservationScale = scale := if_neg (lt_irrefl 0)
  have accepted : preConsumeTokenQuota grantingEnv hold fresh = (.ok (), fresh) := by
    rw [preConsumeTokenQuota, Tx.bind_accepted (by omega)]
    rfl
  have answered : Tx.attempt (preConsumeTokenQuota grantingEnv hold) fresh = (.ok (.ok ()), fresh) := by rw [Tx.attempt, accepted]
  have sources : preConsumeSources grantingEnv hold fresh = (.ok (none, none), fresh) := by
    rw [preConsumeSources, Tx.bind_ran answered]
    rfl
  have ran : preConsume grantingEnv quota fresh = (.ok (), heldRequest tier scale hold) := by
    rw [preConsume, readSession, Tx.bind_view, source, scaled, Tx.bind_ran sources]
    simp only [closePreConsume, noteToken, editSession, syncRelayInfo, if_pos charged]
    rfl
  exact .preConsumed quota small ran

theorem mul_half {whole : Int} (fits : |2 * whole| < 2 ^ 53) : Float64.mul (Float64.ofInt (2 * whole)) (1 / 2) = whole := by
  have exact := Float64.nearest_of_representable (2 * whole) 1 fits (by decide)
  rw [Float64.mul, Float64.of_int_exact fits]
  push_cast at exact ⊢
  rw [pow_one] at exact
  rw [mul_one_div, exact]
  ring

theorem scale_half {whole : Int} (fits : |2 * whole| < 2 ^ 53) (charged : 0 < whole) : scaleQuota (2 * whole) (1 / 2) = whole := by
  have small : whole ≤ maxInt64 := by
    rw [abs_lt] at fits
    simp only [maxInt64]
    omega
  rw [scale_quota_eq_iff (by omega) (by norm_num) small, mul_half fits]
  have unit : (1 : ℚ) ≤ whole := by exact_mod_cast charged
  refine ⟨charged, .inr ?_, .inr ?_⟩ <;> linarith

end CodeGo.Relay
