import CodeGo.BlindBox.Inventory

set_option autoImplicit false

namespace CodeGo.BlindBox

open Relational Text Billing
open Checkout (PropType PropStatus nextID)

/- Cards that run for a time. A grant of the monthly pass is merged into the card the user
   holds, and the references of the grants that a card has absorbed are a text on the card.
   `fits` says which texts the reference column takes. -/

def isPausableBlindBoxMultiplierProp (propType : PropType) : Prop :=
  propType = .zeroHourMultiplier ∨ propType = .monthlyPassMultiplier ∨ propType = .consumeDiscount10

instance (propType : PropType) : Decidable (isPausableBlindBoxMultiplierProp propType) := inferInstanceAs (Decidable (_ ∨ _))

def isEligibleMonthlyPassStatus (status : PropStatus) : Prop := status = .available ∨ status = .paused ∨ status = .active

instance (status : PropStatus) : Decidable (isEligibleMonthlyPassStatus status) := inferInstanceAs (Decidable (_ ∨ _))

def benefitReferences (stored : String) : List String := (stored.toList.splitOn '|').map fun item => trimSpace (String.ofList item)

def hasMonthlyPassBenefitReference (stored reference : String) : Prop := ¬ Blank reference ∧ reference ∈ benefitReferences stored

instance (stored reference : String) : Decidable (hasMonthlyPassBenefitReference stored reference) := inferInstanceAs (Decidable (_ ∧ _))

def appendMonthlyPassBenefitReference (stored reference : String) : String :=
  if hasMonthlyPassBenefitReference stored reference then stored
  else if Blank stored then reference
  else stored ++ "|" ++ reference

def monthlyPassTitle (durationSeconds : Int) : String := toString (durationSeconds / 60) ++ " 分钟 0.1 倍率卡"

def BlindBoxProp.Lapsed (prop : BlindBoxProp) (now : Int) : Prop := prop.status = .active ∧ 0 < prop.expiresAt ∧ prop.expiresAt ≤ now

instance (prop : BlindBoxProp) (now : Int) : Decidable (prop.Lapsed now) := inferInstanceAs (Decidable (_ ∧ _))

def saveProp (prop : BlindBoxProp) : BoxTx Unit :=
  Tx.edit fun store => { store with
    props := store.props.update (fun row => row.id = prop.id) (fun row => { prop with id := row.id }) fun _ => rfl }

def findProp (userID propID : Int) (problem : BoxError) : BoxTx BlindBoxProp := do
  match ← Tx.view fun store => store.props.find? fun prop => prop.id = propID ∧ prop.userID = userID with
  | some prop => return prop
  | none => Tx.fail problem

def sweptProps (userID now : Int) (props : Table BlindBoxProp) : Table BlindBoxProp :=
  props.update (fun prop => prop.userID = userID ∧ prop.Lapsed now) (fun prop => { prop with status := .expired, remainingSeconds := 0 }) fun _ => rfl

def expireUserBlindBoxPropsTx (userID now : Int) : BoxTx Unit :=
  if userID ≤ 0 then pure ()
  else Tx.edit fun store => { store with props := sweptProps userID now store.props }

def expireBlindBoxPropIfNeededTx (prop : BlindBoxProp) (now : Int) : BoxTx BlindBoxProp :=
  if prop.Lapsed now then do
    let lapsed := { prop with
      status := .expired, remainingSeconds := if isPausableBlindBoxMultiplierProp prop.propType then 0 else prop.remainingSeconds }
    saveProp lapsed
    return lapsed
  else return prop

-- `status = 'active' desc, id asc`
def BlindBoxProp.Before (first second : BlindBoxProp) : Prop :=
  (first.status = .active ∧ second.status ≠ .active) ∨ ((first.status = .active ↔ second.status = .active) ∧ first.id ≤ second.id)

instance (first second : BlindBoxProp) : Decidable (first.Before second) := inferInstanceAs (Decidable (_ ∨ _))

def lockMonthlyPassCardsForGrantTx (userID : Int) : BoxTx (List BlindBoxProp) :=
  Tx.view fun store =>
    (store.props.rows.filter fun prop => prop.userID = userID ∧ prop.propType = .monthlyPassMultiplier).mergeSort fun first second =>
      first.Before second

-- What a card is worth to a merge: time that has been paused is read from another column than time that runs.
def cardRemaining (now : Int) (card : BlindBoxProp) : Int :=
  if card.status = .active then max (card.expiresAt - now) 0
  else if card.remainingSeconds ≤ 0 then card.durationSeconds
  else card.remainingSeconds

def mergedCard (primary : BlindBoxProp) (cards : List BlindBoxProp) (duration : Int) (reference : String) (now : Int) : BlindBoxProp :=
  let remaining := (cards.map (cardRemaining now)).sum + duration
  let granted := { primary with
    durationSeconds := max primary.durationSeconds duration, remainingSeconds := remaining,
    benefitReference := appendMonthlyPassBenefitReference primary.benefitReference reference }
  if cards.any fun card => card.status = .active then
    { granted with status := .active, activatedAt := now, expiresAt := now + remaining }
  else { granted with expiresAt := 0 }

def markMonthlyPassCardUsedTx (propID now : Int) : BoxTx Unit :=
  Tx.edit fun store => { store with
    props := store.props.update (fun prop => prop.id = propID) (fun prop => { prop with status := .used, usedAt := now }) fun _ => rfl }

def markMonthlyPassCardsUsedTx (now : Int) : List BlindBoxProp → BoxTx Unit
  | [] => pure ()
  | card :: rest => do
      markMonthlyPassCardUsedTx card.id now
      markMonthlyPassCardsUsedTx now rest

def checkReference (fits : String → Bool) (stored : String) : BoxTx Unit :=
  Tx.reject (fits stored = false) (.message "value too long for type character varying(255)")

def mergeMonthlyPassGrantTx (fits : String → Bool) (primary : BlindBoxProp) (others : List BlindBoxProp) (duration : Int) (reference : String)
    (now : Int) : BoxTx Unit := do
  let merged := mergedCard primary (primary :: others) duration reference now
  checkReference fits merged.benefitReference
  saveProp merged
  markMonthlyPassCardsUsedTx now others

def awardMonthlyPassDurationTx (fits : String → Bool) (userID duration : Int) (reference : String) (now : Int) : BoxTx Unit := do
  Tx.reject (userID ≤ 0 ∨ duration ≤ 0 ∨ Blank reference) (.message "invalid monthly pass duration grant")
  lockUser userID
  expireUserBlindBoxPropsTx userID now
  let cards ← lockMonthlyPassCardsForGrantTx userID
  if cards.any fun card => hasMonthlyPassBenefitReference card.benefitReference reference then return ()
  else
    match cards.filter fun card => isEligibleMonthlyPassStatus card.status with
    | primary :: others => mergeMonthlyPassGrantTx fits primary others duration reference now
    | [] => do
        checkReference fits reference
        let _ ← createProp
          { userID, propType := .monthlyPassMultiplier, title := monthlyPassTitle duration, multiplier := 1 / 10,
            durationSeconds := duration, remainingSeconds := duration, benefitReference := reference }
        return ()

def hasActiveBlindBoxPropTypeTx (userID : Int) (propType : PropType) (now : Int) : BoxTx Bool :=
  Tx.view fun store => store.props.rows.any fun prop =>
    prop.userID = userID ∧ prop.propType = propType ∧ prop.status = .active ∧ now < prop.expiresAt

def hasActiveZeroHourPropTx (userID now : Int) : BoxTx Bool := hasActiveBlindBoxPropTypeTx userID .zeroHourMultiplier now

def hasActiveMonthlyPassPropTx (userID now : Int) : BoxTx Bool := hasActiveBlindBoxPropTypeTx userID .monthlyPassMultiplier now

-- The clock is read a second time for these checks.
def rejectRunningCard (userID : Int) (propType : PropType) (checkedAt : Int) : BoxTx Unit := do
  match propType with
  | .zeroHourMultiplier => do
      let running ← hasActiveZeroHourPropTx userID checkedAt
      Tx.reject (running = true) (.message "zero-hour prop is already active")
  | .monthlyPassMultiplier => do
      let running ← hasActiveMonthlyPassPropTx userID checkedAt
      Tx.reject (running = true) (.message "0.1 倍率卡已经生效")
  | .consumeDiscount10 => do
      let running ← hasActiveBlindBoxPropTypeTx userID .consumeDiscount10 checkedAt
      Tx.reject (running = true) (.message "盲盒 0.1 倍率卡已经生效")
  | _ => pure ()

-- The seconds an activation starts: what a pausable card has left, or the whole duration.
def startedSeconds (prop : BlindBoxProp) : BoxTx Int := do
  if isPausableBlindBoxMultiplierProp prop.propType then do
    let remaining := if prop.remainingSeconds ≤ 0 then prop.durationSeconds else prop.remainingSeconds
    Tx.reject (remaining ≤ 0) (.message "倍率卡剩余时间不足")
    return remaining
  else return prop.durationSeconds

def activateBlindBoxPropTx (userID propID now checkedAt : Int) : BoxTx BlindBoxProp := do
  lockUser userID
  expireUserBlindBoxPropsTx userID now
  let found ← findProp userID propID .recordNotFound
  let prop ← expireBlindBoxPropIfNeededTx found now
  Tx.reject (¬ ∃ spec ∈ getBlindBoxPropSpecByType prop.propType, spec.activatable = true) (.message "this prop is applied automatically")
  Tx.reject (prop.status ≠ .available ∧ ¬ (isPausableBlindBoxMultiplierProp prop.propType ∧ prop.status = .paused))
    (.message "this prop cannot be activated")
  rejectRunningCard userID prop.propType checkedAt
  let seconds ← startedSeconds prop
  let remainingSeconds := if isPausableBlindBoxMultiplierProp prop.propType then seconds else prop.remainingSeconds
  let active := { prop with status := .active, remainingSeconds, activatedAt := now, expiresAt := now + seconds }
  saveProp active
  return active

def activateBlindBoxProp (userID propID now checkedAt : Int) : BoxTx BlindBoxProp := do
  Tx.reject (userID ≤ 0 ∨ propID ≤ 0) (.message "invalid blind box prop request")
  Tx.atomic (activateBlindBoxPropTx userID propID now checkedAt)

def pauseBlindBoxPropTx (userID propID now : Int) : BoxTx BlindBoxProp := do
  let found ← findProp userID propID .recordNotFound
  Tx.reject (¬ isPausableBlindBoxMultiplierProp found.propType) (.message "this prop cannot be paused")
  let prop ← expireBlindBoxPropIfNeededTx found now
  Tx.reject (prop.status ≠ .active) (.message "this prop is not active")
  let remainingSeconds := max (prop.expiresAt - now) 0
  let paused := { prop with status := if remainingSeconds = 0 then .expired else .paused, remainingSeconds, expiresAt := 0 }
  saveProp paused
  return paused

def pauseBlindBoxProp (userID propID now : Int) : BoxTx BlindBoxProp := do
  Tx.reject (userID ≤ 0 ∨ propID ≤ 0) (.message "invalid blind box prop request")
  Tx.atomic (pauseBlindBoxPropTx userID propID now)

end CodeGo.BlindBox
