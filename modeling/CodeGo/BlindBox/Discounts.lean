import CodeGo.BlindBox.Passes
import CodeGo.Lib.Int64
import CodeGo.Lib.Trace
import Mathlib.Data.Rat.Floor
import Mathlib.Tactic.Linarith
import Mathlib.Tactic.NormNum

set_option autoImplicit false

namespace CodeGo.BlindBox.Discounts

open Relational Text
open Machine (InInt64 wrap wrap_eq_iff)
open Checkout (PropType PropStatus nextID roundHalfAway)

/- A multiplier card lowers what one request pays, and the usage row it leaves behind answers
   every later call under the same request id. `quotient` stands for the division of two
   float64 values, read as the shortest decimal that gives the quotient back. The channel, the
   model and the time of a usage row are kept for auditors and read by nothing. -/

structure MultiplierCard extends BlindBoxProp where
  usedDiscountQuota : Int := 0
deriving DecidableEq, Repr

structure BlindBoxPropDiscountUsage where
  requestID : String
  userID : Int
  propID : Int
  propTitle : String
  quotaBeforeDiscount : Int
  quotaAfterDiscount : Int
  discountQuota : Int
  discountRate : Rat
  multiplier : Rat
  effectiveMultiplier : Rat := 1
  remainingQuota : Int
deriving DecidableEq, Repr

structure BlindBoxConsumptionDiscountRequest where
  requestID : String
  userID : Int
  multiplierCardUserEnabled : Bool
  quota : Int
deriving DecidableEq, Repr

structure BlindBoxConsumptionDiscountResult where
  propID : Int := 0
  title : String := ""
  quotaBeforeDiscount : Int := 0
  quotaAfterDiscount : Int := 0
  discountQuota : Int := 0
  discountRate : Rat := 0
  multiplier : Rat := 0
  nominalMultiplier : Rat := 0
  effectiveMultiplier : Rat := 0
  remainingDiscountQuota : Int := 0
deriving DecidableEq, Repr

inductive DiscountError where
  | propUpdatedConcurrently
  | uniqueViolation
  | databaseFailed
deriving DecidableEq, Repr

instance : Indexed MultiplierCard where
  Index := Int
  index prop := prop.id
  clash first second := first = second
  clash_symm _ _ clash := clash.symm
  clashDecidable _ _ := inferInstanceAs (Decidable (_ = _))

instance : Indexed BlindBoxPropDiscountUsage where
  Index := String
  index usage := usage.requestID
  clash first second := first = second
  clash_symm _ _ clash := clash.symm
  clashDecidable _ _ := inferInstanceAs (Decidable (_ = _))

structure DiscountStore where
  props : Table MultiplierCard
  usages : Table BlindBoxPropDiscountUsage

abbrev DiscountTx (α : Type) := Tx DiscountStore DiscountError α

def noDiscounts : DiscountStore := ⟨.empty, .empty⟩

def undiscountedBlindBoxResult (quota : Int) : BlindBoxConsumptionDiscountResult :=
  { quotaBeforeDiscount := quota, quotaAfterDiscount := quota, multiplier := 1, nominalMultiplier := 1, effectiveMultiplier := 1 }

def normalizeDiscountMultiplier (value : Rat) : Rat := roundHalfAway (value * 10 ^ 4) / 10 ^ 4

-- Rows written before the effective multiplier was recorded carry none.
def effectiveMultiplierFromUsage (usage : BlindBoxPropDiscountUsage) : Rat :=
  if 0 < usage.effectiveMultiplier then normalizeDiscountMultiplier usage.effectiveMultiplier
  else normalizeDiscountMultiplier usage.multiplier

def blindBoxDiscountResultFromUsage (usage : BlindBoxPropDiscountUsage) : BlindBoxConsumptionDiscountResult where
  propID := usage.propID
  title := usage.propTitle
  quotaBeforeDiscount := usage.quotaBeforeDiscount
  quotaAfterDiscount := usage.quotaAfterDiscount
  discountQuota := usage.discountQuota
  discountRate := usage.discountRate
  multiplier := usage.multiplier
  nominalMultiplier := usage.multiplier
  effectiveMultiplier := effectiveMultiplierFromUsage usage
  remainingDiscountQuota := usage.remainingQuota

def calculatePropDiscountQuota (prop : MultiplierCard) (chargedQuota : Int) : Int × Int :=
  if chargedQuota ≤ 0 ∨ prop.multiplier ≤ 0 ∨ prop.multiplier ≥ 1 then (chargedQuota, chargedQuota)
  else (chargedQuota, roundHalfAway (prop.multiplier * chargedQuota))

def loadBlindBoxDiscountUsage (store : DiscountStore) (requestID : String) : Option BlindBoxPropDiscountUsage :=
  store.usages.find? fun usage => usage.requestID = requestID

def sweptCards (userID now : Int) (props : Table MultiplierCard) : Table MultiplierCard :=
  props.update (fun prop => prop.userID = userID ∧ prop.Lapsed now) (fun prop => { prop with status := .expired, remainingSeconds := 0 }) fun _ => rfl

def expireUserBlindBoxPropsTx (userID now : Int) : DiscountTx Unit :=
  if userID ≤ 0 then pure ()
  else Tx.edit fun store => { store with props := sweptCards userID now store.props }

def consumptionPropTypes : List PropType := [.consumeDiscount95, .consumeDiscount90, .consumeDiscount10]

-- `multiplier asc, id asc`
def MultiplierCard.Before (first second : MultiplierCard) : Prop :=
  first.multiplier < second.multiplier ∨ first.multiplier = second.multiplier ∧ first.id ≤ second.id

instance (first second : MultiplierCard) : Decidable (first.Before second) := inferInstanceAs (Decidable (_ ∨ _))

def selectBlindBoxConsumptionProp (props : Table MultiplierCard) (userID now : Int) : Option MultiplierCard :=
  ((props.rows.filter fun prop =>
      prop.userID = userID ∧ prop.status = .active ∧ prop.propType ∈ consumptionPropTypes ∧ now < prop.expiresAt).mergeSort
    fun first second => first.Before second).head?

-- The row is written only where it still is as it was read.
def chargeCardTx (prop : MultiplierCard) (usedAfter : Int) : DiscountTx Unit := do
  let same : MultiplierCard → Bool := fun row =>
    row.id = prop.id ∧ row.usedDiscountQuota = prop.usedDiscountQuota ∧ row.status = prop.status
  let affected ← Tx.view fun store => (store.props.rows.filter same).length
  Tx.edit fun store => { store with props := store.props.update same (fun row => { row with usedDiscountQuota := usedAfter }) fun _ => rfl }
  Tx.reject (affected ≠ 1) .propUpdatedConcurrently

def createUsage (usage : BlindBoxPropDiscountUsage) : DiscountTx Unit := do
  match ← Tx.view fun store => store.usages.insert? usage with
  | none => Tx.fail .uniqueViolation
  | some usages => Tx.edit fun store => { store with usages }

-- One call and what goes on around it: an overlapping call under the same id may commit its row
-- after this one has looked for it, and the database may refuse to commit.
structure Call extends BlindBoxConsumptionDiscountRequest where
  now : Int
  overlooks : Bool := false
  fails : Bool := false
deriving DecidableEq, Repr

section Calls

variable (quotient : Int → Int → Rat)

def usageOf (request : BlindBoxConsumptionDiscountRequest) (prop : MultiplierCard) (quotaBefore quotaAfter : Int) : BlindBoxPropDiscountUsage where
  requestID := request.requestID
  userID := request.userID
  propID := prop.id
  propTitle := prop.title
  quotaBeforeDiscount := quotaBefore
  quotaAfterDiscount := quotaAfter
  discountQuota := quotaBefore - quotaAfter
  discountRate := normalizeDiscountMultiplier (quotient (quotaBefore - quotaAfter) quotaBefore)
  multiplier := normalizeDiscountMultiplier prop.multiplier
  effectiveMultiplier := normalizeDiscountMultiplier (quotient quotaAfter quotaBefore)
  remainingQuota := 0

def discountTx (call : Call) : DiscountTx BlindBoxConsumptionDiscountResult := do
  match ← Tx.view fun store => if call.overlooks then none else loadBlindBoxDiscountUsage store call.requestID with
  | some existing => return blindBoxDiscountResultFromUsage existing
  | none =>
      expireUserBlindBoxPropsTx call.userID call.now
      match ← Tx.view fun store => selectBlindBoxConsumptionProp store.props call.userID call.now with
      | none => return undiscountedBlindBoxResult call.quota
      | some prop =>
          let (quotaBefore, quotaAfter) := calculatePropDiscountQuota prop call.quota
          let discountQuota := quotaBefore - quotaAfter
          if quotaBefore ≤ 0 ∨ discountQuota ≤ 0 then return undiscountedBlindBoxResult call.quota
          else do
            chargeCardTx prop (wrap (prop.usedDiscountQuota + discountQuota))
            let usage := usageOf quotient call.toBlindBoxConsumptionDiscountRequest prop quotaBefore quotaAfter
            createUsage usage
            return blindBoxDiscountResultFromUsage usage

def transaction (call : Call) : DiscountTx BlindBoxConsumptionDiscountResult := Tx.atomic do
  let result ← discountTx quotient call
  Tx.reject (call.fails = true) .databaseFailed
  return result

-- The answer, the error beside it and the store that is left.
def applyBlindBoxConsumptionDiscount (call : Call) (store : DiscountStore) :
    BlindBoxConsumptionDiscountResult × Option DiscountError × DiscountStore :=
  if call.userID ≤ 0 ∨ call.quota ≤ 0 ∨ Blank call.requestID then (undiscountedBlindBoxResult call.quota, none, store)
  else if call.multiplierCardUserEnabled = false then (undiscountedBlindBoxResult call.quota, none, store)
  else
    match transaction quotient call store with
    | (.ok result, after) => (result, none, after)
    | (.error problem, after) =>
        match loadBlindBoxDiscountUsage after call.requestID with
        | some existing => (blindBoxDiscountResultFromUsage existing, none, after)
        | none => (undiscountedBlindBoxResult call.quota, some problem, after)

end Calls

/- What one call does, branch by branch. -/

def Call.Served (call : Call) : Prop :=
  0 < call.userID ∧ 0 < call.quota ∧ ¬ Blank call.requestID ∧ call.multiplierCardUserEnabled = true

instance (call : Call) : Decidable call.Served := inferInstanceAs (Decidable (_ ∧ _ ∧ _ ∧ _))

def MultiplierCard.discount (prop : MultiplierCard) (quota : Int) : Int :=
  (calculatePropDiscountQuota prop quota).1 - (calculatePropDiscountQuota prop quota).2

-- The card the call would be charged to, once the expired ones are swept.
def Call.offer (call : Call) (store : DiscountStore) : Option MultiplierCard :=
  (selectBlindBoxConsumptionProp (sweptCards call.userID call.now store.props) call.userID call.now).filter fun prop => 0 < prop.discount call.quota

def Call.swept (call : Call) (store : DiscountStore) : DiscountStore :=
  { store with props := sweptCards call.userID call.now store.props }

def MultiplierCard.SameAs (prop row : MultiplierCard) : Prop :=
  row.id = prop.id ∧ row.usedDiscountQuota = prop.usedDiscountQuota ∧ row.status = prop.status

instance (prop row : MultiplierCard) : Decidable (prop.SameAs row) := inferInstanceAs (Decidable (_ ∧ _ ∧ _))

theorem card_keyed (first second : MultiplierCard) (same : first.id = second.id) : Clash first second := same

theorem usage_keyed (first second : BlindBoxPropDiscountUsage) (same : first.requestID = second.requestID) : Clash first second := same

theorem load_some {store : DiscountStore} {requestID : String} {existing : BlindBoxPropDiscountUsage}
    (found : loadBlindBoxDiscountUsage store requestID = some existing) : existing ∈ store.usages.rows ∧ existing.requestID = requestID := by
  obtain ⟨member, hit⟩ := Table.mem_of_find? _ _ _ found
  exact ⟨member, of_decide_eq_true hit⟩

theorem load_none {store : DiscountStore} {requestID : String} (absent : loadBlindBoxDiscountUsage store requestID = none) :
    ∀ usage ∈ store.usages.rows, usage.requestID ≠ requestID := by
  intro usage member
  exact of_decide_eq_false ((Table.find?_eq_none_iff _ _).mp absent usage member)

theorem select_mem {props : Table MultiplierCard} {userID now : Int} {prop : MultiplierCard}
    (selected : selectBlindBoxConsumptionProp props userID now = some prop) : prop ∈ props.rows := by
  have member := List.mem_of_head? selected
  rw [List.mem_mergeSort] at member
  exact List.mem_of_mem_filter member

theorem calculate_first (prop : MultiplierCard) (quota : Int) : (calculatePropDiscountQuota prop quota).1 = quota := by
  unfold calculatePropDiscountQuota
  split <;> rfl

theorem discount_eq (prop : MultiplierCard) (quota : Int) : prop.discount quota = quota - (calculatePropDiscountQuota prop quota).2 := by
  rw [MultiplierCard.discount, calculate_first]

-- A proper share of a positive quota, rounded, lies between nothing and the quota.
theorem round_share {share : Rat} {quota : Int} (positive : 0 < quota) (above : 0 < share) (below : share < 1) :
    0 ≤ roundHalfAway (share * quota) ∧ roundHalfAway (share * quota) ≤ quota := by
  have whole : (0 : Rat) < quota := by exact_mod_cast positive
  have low : 0 ≤ share * quota := (mul_pos above whole).le
  have high : share * quota < quota := by
    calc share * quota < 1 * quota := mul_lt_mul_of_pos_right below whole
      _ = quota := one_mul _
  rw [roundHalfAway, if_pos low]
  constructor
  · rw [Rat.le_floor_iff]
    push_cast
    linarith
  · have less : share * quota + 1 / 2 < (quota + 1 : Int) := by
      push_cast
      linarith
    exact Int.lt_add_one_iff.mp (Rat.floor_lt_iff.mpr less)

theorem calculate_within (prop : MultiplierCard) {quota : Int} (positive : 0 < quota) :
    0 ≤ (calculatePropDiscountQuota prop quota).2 ∧ (calculatePropDiscountQuota prop quota).2 ≤ quota := by
  by_cases plain : quota ≤ 0 ∨ prop.multiplier ≤ 0 ∨ prop.multiplier ≥ 1
  · rw [calculatePropDiscountQuota, if_pos plain]
    exact ⟨positive.le, le_refl _⟩
  · rw [calculatePropDiscountQuota, if_neg plain]
    simp only [not_or, not_le, ge_iff_le] at plain
    exact round_share positive plain.2.1 plain.2.2

section Branches

variable {quotient : Int → Int → Rat} {call : Call} {store : DiscountStore}

theorem sweep_ran (served : call.Served) : expireUserBlindBoxPropsTx call.userID call.now store = (.ok (), call.swept store) := by
  rw [expireUserBlindBoxPropsTx, if_neg (not_le.mpr served.1)]
  rfl

def chargedCards (props : Table MultiplierCard) (prop : MultiplierCard) (usedAfter : Int) : Table MultiplierCard :=
  props.update (fun row => prop.SameAs row) (fun row => { row with usedDiscountQuota := usedAfter }) fun _ => rfl

theorem charge_card_ran {prop : MultiplierCard} (member : prop ∈ store.props.rows) (usedAfter : Int) :
    chargeCardTx prop usedAfter store = (.ok (), { store with props := chargedCards store.props prop usedAfter }) := by
  have single : store.props.rows.filter (fun row => prop.SameAs row) = [prop] := by
    apply Table.filter_single _ _ _ member
    · simp [MultiplierCard.SameAs]
    · intro other _ hit
      exact card_keyed _ _ (of_decide_eq_true hit).1.symm
  have one : ¬ (store.props.rows.filter fun row => prop.SameAs row).length ≠ 1 := by simp [single]
  exact if_neg one

theorem discount_seen {existing : BlindBoxPropDiscountUsage} (seen : call.overlooks = false)
    (found : loadBlindBoxDiscountUsage store call.requestID = some existing) :
    discountTx quotient call store = (.ok (blindBoxDiscountResultFromUsage existing), store) := by
  rw [discountTx, Tx.bind_view]
  simp only [seen, found]
  rfl

-- The first lookup shows nothing: there is no row, or it was committed too late to be seen.
def Call.Blind (call : Call) (store : DiscountStore) : Prop := call.overlooks = true ∨ loadBlindBoxDiscountUsage store call.requestID = none

theorem offer_none (missing : call.offer store = none) {prop : MultiplierCard}
    (selected : selectBlindBoxConsumptionProp (sweptCards call.userID call.now store.props) call.userID call.now = some prop) :
    prop.discount call.quota ≤ 0 := by
  rw [Call.offer, selected] at missing
  simpa [Option.filter] using missing

theorem offer_some {prop : MultiplierCard} (offered : call.offer store = some prop) :
    selectBlindBoxConsumptionProp (sweptCards call.userID call.now store.props) call.userID call.now = some prop ∧
      0 < prop.discount call.quota := by
  rw [Call.offer, Option.filter_eq_some_iff] at offered
  exact ⟨offered.1, of_decide_eq_true offered.2⟩

theorem offer_mem {prop : MultiplierCard} (offered : call.offer store = some prop) : prop ∈ (call.swept store).props.rows :=
  select_mem (offer_some offered).1

theorem discount_blind (blind : call.Blind store) (served : call.Served) :
    discountTx quotient call store =
      (do
        match ← Tx.view fun store => selectBlindBoxConsumptionProp store.props call.userID call.now with
        | none => return undiscountedBlindBoxResult call.quota
        | some prop =>
            let (quotaBefore, quotaAfter) := calculatePropDiscountQuota prop call.quota
            let discountQuota := quotaBefore - quotaAfter
            if quotaBefore ≤ 0 ∨ discountQuota ≤ 0 then return undiscountedBlindBoxResult call.quota
            else do
              chargeCardTx prop (wrap (prop.usedDiscountQuota + discountQuota))
              let usage := usageOf quotient call.toBlindBoxConsumptionDiscountRequest prop quotaBefore quotaAfter
              createUsage usage
              return blindBoxDiscountResultFromUsage usage : DiscountTx _) (call.swept store) := by
  have shown : (if call.overlooks = true then none else loadBlindBoxDiscountUsage store call.requestID) = none := by
    cases blind with
    | inl overlooks => rw [if_pos overlooks]
    | inr absent => rw [absent, ite_self]
  rw [discountTx, Tx.bind_view, shown]
  exact Tx.bind_ran (sweep_ran served) _

theorem discount_passed (blind : call.Blind store) (served : call.Served) (missing : call.offer store = none) :
    discountTx quotient call store = (.ok (undiscountedBlindBoxResult call.quota), call.swept store) := by
  rw [discount_blind blind served, Tx.bind_view]
  cases selected : selectBlindBoxConsumptionProp (call.swept store).props call.userID call.now with
  | none => rfl
  | some prop =>
      have small := offer_none missing selected
      simp only
      rw [if_pos (.inr small)]
      rfl

-- The row that a charged call leaves behind.
def Call.usage (quotient : Int → Int → Rat) (call : Call) (prop : MultiplierCard) : BlindBoxPropDiscountUsage :=
  usageOf quotient call.toBlindBoxConsumptionDiscountRequest prop
    (calculatePropDiscountQuota prop call.quota).1 (calculatePropDiscountQuota prop call.quota).2

def Call.charged (call : Call) (store : DiscountStore) (prop : MultiplierCard) : Table MultiplierCard :=
  chargedCards (call.swept store).props prop (wrap (prop.usedDiscountQuota + prop.discount call.quota))

theorem discount_charging (blind : call.Blind store) (served : call.Served) {prop : MultiplierCard} (offered : call.offer store = some prop) :
    discountTx quotient call store =
      (do
        createUsage (call.usage quotient prop)
        return blindBoxDiscountResultFromUsage (call.usage quotient prop) : DiscountTx _)
        { store with props := call.charged store prop } := by
  obtain ⟨selected, positive⟩ := offer_some offered
  have open_ : ¬ ((calculatePropDiscountQuota prop call.quota).1 ≤ 0 ∨
      (calculatePropDiscountQuota prop call.quota).1 - (calculatePropDiscountQuota prop call.quota).2 ≤ 0) := by
    rw [calculate_first]
    rw [discount_eq] at positive
    have whole := served.2.1
    omega
  have shown : selectBlindBoxConsumptionProp (call.swept store).props call.userID call.now = some prop := selected
  rw [discount_blind blind served, Tx.bind_view, shown]
  simp only
  rw [if_neg open_]
  exact Tx.bind_ran (charge_card_ran (offer_mem offered) _) _

theorem discount_clashed (blind : call.Blind store) (served : call.Served) {prop : MultiplierCard} (offered : call.offer store = some prop)
    {existing : BlindBoxPropDiscountUsage} (found : loadBlindBoxDiscountUsage store call.requestID = some existing) :
    ∃ after, discountTx quotient call store = (.error .uniqueViolation, after) := by
  obtain ⟨member, named⟩ := load_some found
  have refused : store.usages.insert? (call.usage quotient prop) = none := by
    rw [Table.insert?_eq_none_iff]
    intro fresh
    exact fresh existing member (usage_keyed _ _ named)
  rw [discount_charging blind served offered, createUsage, Tx.bind_assoc, Tx.bind_view]
  simp only [refused]
  exact ⟨_, rfl⟩

theorem discount_charged (served : call.Served) {prop : MultiplierCard} (offered : call.offer store = some prop)
    (absent : loadBlindBoxDiscountUsage store call.requestID = none) :
    ∃ usages, usages.rows = store.usages.rows ++ [call.usage quotient prop] ∧
      discountTx quotient call store =
        (.ok (blindBoxDiscountResultFromUsage (call.usage quotient prop)), ⟨call.charged store prop, usages⟩) := by
  have fresh : Table.Fresh store.usages (call.usage quotient prop) := by
    intro other member clash
    exact load_none absent other member clash
  obtain ⟨usages, inserted, rows⟩ := Table.insert?_of_fresh _ _ fresh
  refine ⟨usages, rows, ?_⟩
  rw [discount_charging (.inr absent) served offered, createUsage, Tx.bind_assoc, Tx.bind_view]
  simp only [inserted]
  rfl

end Branches

section Answers

variable {quotient : Int → Int → Rat} {call : Call} {store : DiscountStore}

theorem apply_unserved (idle : ¬ call.Served) :
    applyBlindBoxConsumptionDiscount quotient call store = (undiscountedBlindBoxResult call.quota, none, store) := by
  rw [applyBlindBoxConsumptionDiscount]
  by_cases blank : call.userID ≤ 0 ∨ call.quota ≤ 0 ∨ Blank call.requestID
  · rw [if_pos blank]
  · rw [if_neg blank, if_pos]
    simp only [not_or, not_le] at blank
    rw [← Bool.not_eq_true]
    intro enabled
    exact idle ⟨blank.1, blank.2.1, blank.2.2, enabled⟩

theorem apply_served (served : call.Served) :
    applyBlindBoxConsumptionDiscount quotient call store =
      match transaction quotient call store with
      | (.ok result, after) => (result, none, after)
      | (.error problem, after) =>
          match loadBlindBoxDiscountUsage after call.requestID with
          | some existing => (blindBoxDiscountResultFromUsage existing, none, after)
          | none => (undiscountedBlindBoxResult call.quota, some problem, after) := by
  obtain ⟨user, quota, named, enabled⟩ := served
  have begun : ¬ (call.userID ≤ 0 ∨ call.quota ≤ 0 ∨ Blank call.requestID) := by
    simp only [not_or, not_le]
    exact ⟨user, quota, named⟩
  rw [applyBlindBoxConsumptionDiscount, if_neg begun, if_neg (by simp [enabled])]

theorem apply_committed (served : call.Served) (commits : call.fails = false) {result : BlindBoxConsumptionDiscountResult}
    {after : DiscountStore} (ran : discountTx quotient call store = (.ok result, after)) :
    applyBlindBoxConsumptionDiscount quotient call store = (result, none, after) := by
  have whole : transaction quotient call store = (.ok result, after) := by
    rw [transaction, Tx.ran_atomic, Tx.bind_ran ran, Tx.bind_accepted (by simp [commits])]
    rfl
  rw [apply_served served, whole]

-- Whatever stops the transaction, its writes are gone and a stored row answers.
theorem apply_failed (served : call.Served) (stopped : call.fails = true ∨ ∃ problem after, discountTx quotient call store = (.error problem, after)) :
    ∃ problem, applyBlindBoxConsumptionDiscount quotient call store =
      match loadBlindBoxDiscountUsage store call.requestID with
      | some existing => (blindBoxDiscountResultFromUsage existing, none, store)
      | none => (undiscountedBlindBoxResult call.quota, some problem, store) := by
  have rolled : ∃ problem, transaction quotient call store = (.error problem, store) := by
    rw [transaction]
    cases ran : discountTx quotient call store with
    | mk outcome after =>
        cases outcome with
        | error problem =>
            refine ⟨problem, ?_⟩
            rw [Tx.atomic, Tx.bind_failed ran]
        | ok result =>
            have fails : call.fails = true := by
              obtain fails | ⟨problem, other, failed⟩ := stopped
              · exact fails
              · simp [ran] at failed
            refine ⟨.databaseFailed, ?_⟩
            rw [Tx.atomic, Tx.bind_ran ran, Tx.bind_rejected fails]
  obtain ⟨problem, failed⟩ := rolled
  refine ⟨problem, ?_⟩
  rw [apply_served served, failed]

-- A call that overlooks the row of its own id and finds no card to charge.
def Call.PassesBy (call : Call) (store : DiscountStore) : Prop := call.overlooks = true ∧ call.fails = false ∧ call.offer store = none

instance (call : Call) (store : DiscountStore) : Decidable (call.PassesBy store) := inferInstanceAs (Decidable (_ ∧ _ ∧ _))

theorem apply_recorded (served : call.Served) {existing : BlindBoxPropDiscountUsage}
    (found : loadBlindBoxDiscountUsage store call.requestID = some existing) (answered : ¬ call.PassesBy store) :
    applyBlindBoxConsumptionDiscount quotient call store = (blindBoxDiscountResultFromUsage existing, none, store) := by
  by_cases fails : call.fails = true
  · obtain ⟨problem, applied⟩ := @apply_failed quotient call store served (.inl fails)
    rw [applied, found]
  · rw [Bool.not_eq_true] at fails
    by_cases overlooks : call.overlooks = true
    · cases offered : call.offer store with
      | none => exact absurd ⟨overlooks, fails, offered⟩ answered
      | some prop =>
          obtain ⟨after, clashed⟩ := @discount_clashed quotient call store (.inl overlooks) served prop offered existing found
          obtain ⟨problem, applied⟩ := apply_failed served (.inr ⟨_, after, clashed⟩)
          rw [applied, found]
    · rw [Bool.not_eq_true] at overlooks
      exact apply_committed served fails (discount_seen overlooks found)

theorem apply_passed (served : call.Served) (commits : call.fails = false) (blind : call.Blind store) (missing : call.offer store = none) :
    applyBlindBoxConsumptionDiscount quotient call store = (undiscountedBlindBoxResult call.quota, none, call.swept store) :=
  apply_committed served commits (discount_passed blind served missing)

theorem apply_lost (served : call.Served) (absent : loadBlindBoxDiscountUsage store call.requestID = none) (fails : call.fails = true) :
    ∃ problem, applyBlindBoxConsumptionDiscount quotient call store = (undiscountedBlindBoxResult call.quota, some problem, store) := by
  obtain ⟨problem, applied⟩ := @apply_failed quotient call store served (.inl fails)
  refine ⟨problem, ?_⟩
  rw [applied, absent]

end Answers

/- What the answers and the books promise, and when a call keeps it. -/

def Fair (quota : Int) (result : BlindBoxConsumptionDiscountResult) : Prop :=
  result.quotaBeforeDiscount = quota ∧ 0 ≤ result.quotaAfterDiscount ∧ result.quotaAfterDiscount ≤ quota

instance (quota : Int) (result : BlindBoxConsumptionDiscountResult) : Decidable (Fair quota result) := inferInstanceAs (Decidable (_ ∧ _ ∧ _))

def discounted (usages : Table BlindBoxPropDiscountUsage) (propID : Int) : Int :=
  usages.total fun usage => if usage.propID = propID then usage.discountQuota else 0

def Booked (store : DiscountStore) : Prop :=
  ∀ prop ∈ store.props.rows, prop.usedDiscountQuota = discounted store.usages prop.id

def OneRowEach (store : DiscountStore) : Prop :=
  ∀ requestID, (store.usages.rows.filter fun usage => usage.requestID = requestID).length ≤ 1

theorem one_row_each (store : DiscountStore) : OneRowEach store := by
  intro requestID
  cases rows : store.usages.rows.filter fun usage => usage.requestID = requestID with
  | nil => simp
  | cons usage rest =>
      have member : usage ∈ store.usages.rows.filter fun usage => usage.requestID = requestID := by simp [rows]
      rw [List.mem_filter] at member
      have single := Table.filter_single store.usages (fun usage => usage.requestID = requestID) usage member.1 member.2 fun other _ hit =>
        usage_keyed _ _ ((of_decide_eq_true member.2).trans (of_decide_eq_true hit).symm)
      rw [← rows, single]
      simp

-- A row of the call's own id carries the call's own quota, and a first charge fits the card's counter.
def Call.Suits (call : Call) (store : DiscountStore) : Prop :=
  call.Served →
    (∀ existing ∈ loadBlindBoxDiscountUsage store call.requestID, existing.quotaBeforeDiscount = call.quota ∨ call.PassesBy store) ∧
      (loadBlindBoxDiscountUsage store call.requestID = none → call.fails = false →
        ∀ prop ∈ call.offer store, InInt64 (prop.usedDiscountQuota + prop.discount call.quota))

-- The other card operations: a new card has given no discount, and no other column is the counter.
inductive Action where
  | apply (call : Call)
  | issue (prop : BlindBoxProp)
  | rework (prop : BlindBoxProp)
deriving DecidableEq, Repr

def issued (store : DiscountStore) (prop : BlindBoxProp) : DiscountStore :=
  match store.props.insert? { prop with id := nextID store.props } with
  | none => store
  | some props => { store with props }

def reworked (store : DiscountStore) (prop : BlindBoxProp) : DiscountStore :=
  { store with props := store.props.update (fun row => row.id = prop.id) (fun row => { prop with id := row.id, usedDiscountQuota := row.usedDiscountQuota }) fun _ => rfl }

section Runs

variable (quotient : Int → Int → Rat)

def step (store : DiscountStore) : Action → DiscountStore
  | .apply call => (applyBlindBoxConsumptionDiscount quotient call store).2.2
  | .issue prop => issued store prop
  | .rework prop => reworked store prop

def Action.Answered (store : DiscountStore) : Action → Prop
  | .apply call => 0 < call.quota → Fair call.quota (applyBlindBoxConsumptionDiscount quotient call store).1
  | _ => True

def Action.Lawful (store : DiscountStore) (action : Action) : Prop :=
  action.Answered quotient store ∧ OneRowEach (step quotient store action) ∧ Booked (step quotient store action)

end Runs

def Action.Suits (store : DiscountStore) : Action → Prop
  | .apply call => call.Suits store
  | _ => True

structure Kept (store : DiscountStore) : Prop where
  booked : Booked store
  sound : ∀ usage ∈ store.usages.rows, 0 ≤ usage.quotaAfterDiscount ∧ usage.quotaAfterDiscount ≤ usage.quotaBeforeDiscount
  named : ∀ usage ∈ store.usages.rows, ∃ prop ∈ store.props.rows, prop.id = usage.propID

theorem fair_undiscounted {quota : Int} (positive : 0 < quota) : Fair quota (undiscountedBlindBoxResult quota) :=
  ⟨rfl, positive.le, le_refl _⟩

theorem kept_empty : Kept noDiscounts where
  booked := fun _ member => absurd member (List.not_mem_nil)
  sound := fun _ member => absurd member (List.not_mem_nil)
  named := fun _ member => absurd member (List.not_mem_nil)

-- Cards rewritten in place, their ids and counters as they were.
theorem kept_of_update {store : DiscountStore} (kept : Kept store) (selected : MultiplierCard → Bool) (change : MultiplierCard → MultiplierCard)
    (keeps : ∀ row, Indexed.index (change row) = Indexed.index row) (counter : ∀ row, (change row).usedDiscountQuota = row.usedDiscountQuota) :
    Kept { store with props := store.props.update selected change keeps } where
  booked := by
    intro prop member
    rw [Table.mem_update] at member
    obtain ⟨old, _⟩ | ⟨old, member, _, rfl⟩ := member
    · exact kept.booked prop old
    · have same : (change old).id = old.id := keeps old
      rw [counter, same]
      exact kept.booked old member
  sound := kept.sound
  named := by
    intro usage member
    obtain ⟨prop, row, named⟩ := kept.named usage member
    by_cases hit : selected prop = true
    · refine ⟨change prop, (Table.mem_update _ _ _ keeps _).mpr (.inr ⟨prop, row, hit, rfl⟩), ?_⟩
      have same : (change prop).id = prop.id := keeps prop
      rw [same, named]
    · exact ⟨prop, (Table.mem_update _ _ _ keeps _).mpr (.inl ⟨row, by simpa using hit⟩), named⟩

theorem kept_swept {store : DiscountStore} (kept : Kept store) (call : Call) : Kept (call.swept store) :=
  kept_of_update kept _ _ _ fun _ => rfl

theorem kept_reworked {store : DiscountStore} (kept : Kept store) (prop : BlindBoxProp) : Kept (reworked store prop) :=
  kept_of_update kept _ _ _ fun _ => rfl

-- A card that no row names has nothing in the books.
theorem discounted_unnamed {usages : Table BlindBoxPropDiscountUsage} {propID : Int} (unnamed : ∀ usage ∈ usages.rows, usage.propID ≠ propID) :
    discounted usages propID = 0 := by
  rw [discounted, Table.total_congr _ usages fun _ => (0 : Int)]
  · simp [Table.total]
  · intro usage member
    rw [if_neg (unnamed usage member)]

theorem kept_issued {store : DiscountStore} (kept : Kept store) (prop : BlindBoxProp) : Kept (issued store prop) := by
  unfold issued
  split
  · exact kept
  · rename_i props inserted
    obtain ⟨fresh, rows⟩ := (Table.insert?_eq_some_iff _ _ _).mp inserted
    constructor
    · intro card member
      rw [rows, List.mem_append, List.mem_singleton] at member
      obtain old | rfl := member
      · exact kept.booked card old
      · have unnamed : ∀ usage ∈ store.usages.rows, usage.propID ≠ nextID store.props := by
          intro usage member same
          obtain ⟨other, row, named⟩ := kept.named usage member
          exact fresh other row (card_keyed _ _ (named.trans same))
        exact (discounted_unnamed unnamed).symm
    · exact kept.sound
    · intro usage member
      obtain ⟨other, row, named⟩ := kept.named usage member
      exact ⟨other, by simp [rows, row], named⟩

section Charging

variable {quotient : Int → Int → Rat} {call : Call} {store : DiscountStore} {prop : MultiplierCard} {usages : Table BlindBoxPropDiscountUsage}

theorem usage_discount : (call.usage quotient prop).discountQuota = prop.discount call.quota := rfl

theorem fair_usage (positive : 0 < call.quota) : Fair call.quota (blindBoxDiscountResultFromUsage (call.usage quotient prop)) := by
  obtain ⟨low, high⟩ := calculate_within prop positive
  exact ⟨calculate_first _ _, low, high⟩

theorem discounted_charged (appended : usages.rows = store.usages.rows ++ [call.usage quotient prop]) (propID : Int) :
    discounted usages propID = discounted store.usages propID + if prop.id = propID then prop.discount call.quota else 0 := by
  have named : (call.usage quotient prop).propID = prop.id := rfl
  rw [discounted, Table.total_append _ _ _ _ appended, List.map_singleton, List.sum_singleton, named, usage_discount]
  rfl

theorem mem_charged {card : MultiplierCard} (offered : call.offer store = some prop) :
    card ∈ (call.charged store prop).rows ↔
      (card ∈ (call.swept store).props.rows ∧ card.id ≠ prop.id) ∨
        card = { prop with usedDiscountQuota := wrap (prop.usedDiscountQuota + prop.discount call.quota) } := by
  have row := offer_mem offered
  have alone : ∀ other ∈ (call.swept store).props.rows, other.id = prop.id → other = prop := fun other member same =>
    Table.eq_of_clash _ _ _ member row (card_keyed _ _ same)
  rw [Call.charged, chargedCards, Table.mem_update]
  constructor
  · rintro (⟨member, miss⟩ | ⟨old, member, hit, rfl⟩)
    · refine .inl ⟨member, ?_⟩
      intro same
      have isProp := alone card member same
      simp [isProp, MultiplierCard.SameAs] at miss
    · rw [alone old member (of_decide_eq_true hit).1]
      exact .inr rfl
  · rintro (⟨member, different⟩ | rfl)
    · exact .inl ⟨member, decide_eq_false fun same => different same.1⟩
    · exact .inr ⟨prop, row, by simp [MultiplierCard.SameAs], rfl⟩

-- The charged card is in the books exactly when its counter has not wrapped.
theorem booked_charged_iff (kept : Kept store) (offered : call.offer store = some prop)
    (appended : usages.rows = store.usages.rows ++ [call.usage quotient prop]) :
    Booked ⟨call.charged store prop, usages⟩ ↔ InInt64 (prop.usedDiscountQuota + prop.discount call.quota) := by
  have swept := kept_swept kept call
  have before : prop.usedDiscountQuota = discounted store.usages prop.id := swept.booked prop (offer_mem offered)
  constructor
  · intro booked
    have charged := booked _ ((mem_charged offered).mpr (.inr rfl))
    rw [discounted_charged appended, if_pos rfl] at charged
    simp only at charged
    rw [← before] at charged
    exact (wrap_eq_iff _).mp charged
  · intro fits card member
    rw [discounted_charged appended]
    obtain ⟨old, different⟩ | rfl := (mem_charged offered).mp member
    · rw [if_neg fun same => different same.symm, Int.add_zero]
      exact swept.booked card old
    · rw [if_pos rfl]
      simp only
      rw [(wrap_eq_iff _).mpr fits, before]

theorem kept_charged (kept : Kept store) (positive : 0 < call.quota) (offered : call.offer store = some prop)
    (appended : usages.rows = store.usages.rows ++ [call.usage quotient prop])
    (fits : InInt64 (prop.usedDiscountQuota + prop.discount call.quota)) : Kept ⟨call.charged store prop, usages⟩ where
  booked := (booked_charged_iff kept offered appended).mpr fits
  sound := by
    intro usage member
    rw [appended, List.mem_append, List.mem_singleton] at member
    obtain old | rfl := member
    · exact kept.sound usage old
    · obtain ⟨own, low, high⟩ := @fair_usage quotient call prop positive
      exact ⟨low, high.trans_eq own.symm⟩
  named := by
    intro usage member
    rw [appended, List.mem_append, List.mem_singleton] at member
    obtain old | rfl := member
    · obtain ⟨card, row, named⟩ := (kept_swept kept call).named usage old
      by_cases same : card.id = prop.id
      · exact ⟨_, (mem_charged offered).mpr (.inr rfl), same.symm.trans named⟩
      · exact ⟨card, (mem_charged offered).mpr (.inl ⟨row, same⟩), named⟩
    · exact ⟨_, (mem_charged offered).mpr (.inr rfl), rfl⟩

end Charging

section Steps

variable {quotient : Int → Int → Rat} {call : Call} {store : DiscountStore}

theorem fair_recorded_iff (kept : Kept store) {existing : BlindBoxPropDiscountUsage}
    (found : loadBlindBoxDiscountUsage store call.requestID = some existing) :
    Fair call.quota (blindBoxDiscountResultFromUsage existing) ↔ existing.quotaBeforeDiscount = call.quota := by
  obtain ⟨low, high⟩ := kept.sound existing (load_some found).1
  constructor
  · intro fair
    exact fair.1
  · intro own
    exact ⟨own, low, high.trans_eq own⟩

theorem lawful_iff {result : BlindBoxConsumptionDiscountResult} {problem : Option DiscountError} {after : DiscountStore}
    (applied : applyBlindBoxConsumptionDiscount quotient call store = (result, problem, after)) :
    (Action.apply call).Lawful quotient store ↔ (0 < call.quota → Fair call.quota result) ∧ Booked after := by
  have rows := one_row_each after
  unfold Action.Lawful Action.Answered step
  simp only [applied, rows, true_and]

theorem step_apply {result : BlindBoxConsumptionDiscountResult} {problem : Option DiscountError} {after : DiscountStore}
    (applied : applyBlindBoxConsumptionDiscount quotient call store = (result, problem, after)) :
    step quotient store (.apply call) = after := by
  rw [step, applied]

-- The step of a call answered with its own quota, whatever the condition.
theorem call_step_plain {problem : Option DiscountError} {after : DiscountStore} (kept : Kept after) (suits : call.Suits store)
    (applied : applyBlindBoxConsumptionDiscount quotient call store = (undiscountedBlindBoxResult call.quota, problem, after)) :
    ((Action.apply call).Lawful quotient store ↔ call.Suits store) ∧ (call.Suits store → Kept (step quotient store (.apply call))) := by
  rw [lawful_iff applied, step_apply applied]
  exact ⟨iff_of_true ⟨fair_undiscounted, kept.booked⟩ suits, fun _ => kept⟩

theorem call_step (kept : Kept store) :
    ((Action.apply call).Lawful quotient store ↔ call.Suits store) ∧ (call.Suits store → Kept (step quotient store (.apply call))) := by
  by_cases served : call.Served
  · cases found : loadBlindBoxDiscountUsage store call.requestID with
    | some existing =>
        by_cases passes : call.PassesBy store
        · have suits : call.Suits store := by
            intro _
            refine ⟨fun _ _ => .inr passes, ?_⟩
            simp [found]
          exact call_step_plain (kept_swept kept call) suits (apply_passed served passes.2.1 (.inl passes.1) passes.2.2)
        · have applied := @apply_recorded quotient call store served existing found passes
          have own : call.Suits store ↔ existing.quotaBeforeDiscount = call.quota := by
            simp [Call.Suits, served, found, passes]
          rw [own, lawful_iff applied, step_apply applied, ← fair_recorded_iff kept found]
          constructor
          · constructor
            · intro lawful
              exact lawful.1 served.2.1
            · intro fair
              exact ⟨fun _ => fair, kept.booked⟩
          · intro _
            exact kept
    | none =>
        by_cases fails : call.fails = true
        · obtain ⟨problem, applied⟩ := @apply_lost quotient call store served found fails
          exact call_step_plain kept (by simp [Call.Suits, found, fails]) applied
        · rw [Bool.not_eq_true] at fails
          cases offered : call.offer store with
          | none =>
              have suits : call.Suits store := by simp [Call.Suits, found, offered]
              exact call_step_plain (kept_swept kept call) suits (apply_passed served fails (.inr found) offered)
          | some prop =>
              obtain ⟨usages, appended, charged⟩ := @discount_charged quotient call store served prop offered found
              have applied := apply_committed served fails charged
              have own : call.Suits store ↔ InInt64 (prop.usedDiscountQuota + prop.discount call.quota) := by
                simp [Call.Suits, served, found, fails, offered]
              rw [own, lawful_iff applied, step_apply applied, booked_charged_iff kept offered appended]
              constructor
              · constructor
                · intro lawful
                  exact lawful.2
                · intro fits
                  exact ⟨fair_usage, fits⟩
              · exact kept_charged kept served.2.1 offered appended
  · exact call_step_plain kept (fun serves => absurd serves served) (apply_unserved served)

theorem action_step (kept : Kept store) (action : Action) :
    (action.Lawful quotient store ↔ action.Suits store) ∧ (action.Suits store → Kept (step quotient store action)) := by
  cases action with
  | apply call => exact call_step kept
  | issue prop =>
      have after := kept_issued kept prop
      exact ⟨iff_of_true ⟨trivial, one_row_each _, after.booked⟩ trivial, fun _ => after⟩
  | rework prop =>
      have after := kept_reworked kept prop
      exact ⟨iff_of_true ⟨trivial, one_row_each _, after.booked⟩ trivial, fun _ => after⟩

end Steps

-- Answers and books are right all along a run exactly when every call of it suits the store it meets.
theorem discounts_fair_iff (quotient : Int → Int → Rat) (actions : List Action) :
    Every (step quotient) (Action.Lawful quotient) noDiscounts actions ↔ Every (step quotient) Action.Suits noDiscounts actions :=
  Every.iff_of_kept kept_empty (fun _ action kept => (action_step kept action).1) (fun _ action kept => (action_step kept action).2) actions

def cardTwelve : BlindBoxProp where
  userID := 12
  propType := .consumeDiscount95
  title := "95 折消费卡"
  status := .active
  multiplier := 95 / 100
  expiresAt := 900

def callTwelve (quota : Int) : Call where
  requestID := "realtime-12"
  userID := 12
  multiplierCardUserEnabled := true
  quota := quota
  now := 100

def exactQuotient (first second : Int) : Rat := first / second

-- A realtime session charges a chunk of 1000 and then one of 400 under one request id.
def chunksTwelve : List Action := [.issue cardTwelve, .apply (callTwelve 1000), .apply (callTwelve 400)]

theorem second_chunk_pays_the_first :
    (applyBlindBoxConsumptionDiscount exactQuotient (callTwelve 400)
        (run (step exactQuotient) noDiscounts [.issue cardTwelve, .apply (callTwelve 1000)])).1.quotaAfterDiscount = 950 ∧
      ¬ Every (step exactQuotient) (Action.Lawful exactQuotient) noDiscounts chunksTwelve := by
  constructor
  · decide +kernel
  · intro lawful
    have second := lawful.2.2.1.1 (by decide)
    revert second
    decide +kernel

end CodeGo.BlindBox.Discounts
