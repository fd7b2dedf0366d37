import CodeGo.Wallet.Store
import Mathlib.Algebra.Order.Ring.Rat

set_option autoImplicit false

namespace CodeGo.Checkout

open Relational Text Billing

/- Checkout of top-ups and subscription orders with the discount cards they reserve.
   Money is an exact rational, rounded where the source rounds. Provider payloads are
   the records encoded in them and not their JSON text. Completion and audit times,
   group purchases and fuel quotas are read by nothing here. -/

inductive PropType where
  | topupDiscount90
  | subscriptionDiscount90
  | consumeDiscount95
  | consumeDiscount90
  | consumeDiscount10
  | zeroHourMultiplier
  | monthlyPassMultiplier
  | extraDraw
deriving DecidableEq, Repr

inductive PropStatus where
  | available
  | active
  | paused
  | reserved
  | used
  | expired
deriving DecidableEq, Repr

inductive PaymentProvider where
  | epay
  | stripe
  | creem
  | waffo
  | waffoPancake
  | xunhu
  | nowPayments
deriving DecidableEq, Repr

inductive OrderStatus where
  | pending
  | success
  | failed
  | expired
deriving DecidableEq, Repr

inductive FulfillmentStatus where
  | pending
  | completed
deriving DecidableEq, Repr

inductive PurchaseType where
  | normal
  | fuel
  | groupBuy
  | joinGroup
  | subscriptionBooster
deriving DecidableEq, Repr

structure EpayTopupCheckoutSnapshot where
  version : Int
  propID : Int
deriving DecidableEq, Repr

structure StripeCheckoutSnapshot where
  version : Int
  currency : String
  amount : Int
  live : Bool
  propID : Int
  sessionID : String := ""
deriving DecidableEq, Repr

-- What the payload column encodes: the checkout evidence written with the order, and
-- the provider's own identifiers once a verified payment has replaced it.
structure ProviderPayload where
  stripeCurrency : String := ""
  epayCheckout : Option EpayTopupCheckoutSnapshot := none
  stripeCheckout : Option StripeCheckoutSnapshot := none
  tradeNo : String := ""
  sessionID : String := ""
  paymentIntent : String := ""
deriving DecidableEq, Repr

structure RefundColumns where
  refundStatus : String := ""
  refundNo : String := ""
  refundProviderID : String := ""
  refundAmount : Rat := 0
  refundQuota : Int := 0
deriving DecidableEq, Repr

structure SubscriptionOrder where
  id : Int := 0
  userID : Int
  planID : Int
  money : Rat
  originalMoney : Rat := 0
  firstPurchaseDiscountApplied : Bool := false
  tradeNo : String
  paymentMethod : String
  paymentProvider : PaymentProvider
  purchaseType : PurchaseType := .normal
  creditPackQuota : Int := 0
  creditPackPaidQuota : Int := 0
  status : OrderStatus := .pending
  fulfillmentStatus : FulfillmentStatus := .pending
  createTime : Int
  refund : RefundColumns := {}
  providerPayload : ProviderPayload := {}
deriving DecidableEq, Repr

-- Settings an administrator may change between two requests.
structure PaymentSettings where
  quotaPerUnit : Int := 500000
  stripeLive : Bool := false
  usdExchangeRate : Rat
  stripeHKDUnitPrice : Rat
  stripeCNYUnitPrice : Rat
  stripeUSDUnitPrice : Rat
  firstPurchaseDiscountEnabled : Bool := false
  firstPurchaseDiscountMultiplier : Rat := 0
  firstPurchaseDiscountStartAt : Int := 0
  firstPurchaseDiscountEndAt : Int := 0
deriving DecidableEq, Repr

-- An auto-increment key: rows are never deleted, so the next one follows the row count.
def nextID {α : Type} [Indexed α] (table : Table α) : Int := table.rows.length + 1

def roundHalfAway (value : Rat) : Int := if 0 ≤ value then (value + 1 / 2).floor else -(-value + 1 / 2).floor

def roundCents (amount : Rat) : Rat := roundHalfAway (amount * 100) / 100

def quotaUnitsFromUSD (settings : PaymentSettings) (amount : Rat) : Int :=
  if amount ≤ 0 then 0 else roundHalfAway (amount * settings.quotaPerUnit)

end CodeGo.Checkout
