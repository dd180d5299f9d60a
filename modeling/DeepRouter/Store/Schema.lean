import DeepRouter.Library.Atomic
import DeepRouter.Library.GoStrings
import DeepRouter.Library.KeyedTable
import DeepRouter.Library.MachineInt

/-! # The rows and tables of the billing store

The columns are those that a modelled function reads or writes. Errors are the texts given to
`errors.New` and `fmt.Errorf`, and a fault is the text of a failed database call. -/

namespace DeepRouter.Store

open KeyedTable

abbrev Err := String

abbrev Fault := Option Err

def recordNotFound : Err := "record not found"

def errPaymentMethodMismatch : Err := "payment method mismatch"

inductive DurationUnit where
  | year
  | month
  | day
  | hour
  | custom
  | other (name : String)
deriving DecidableEq

inductive ResetPeriod where
  | never
  | daily
  | weekly
  | monthly
  | custom
deriving DecidableEq

structure SubscriptionPlan where
  id : Int
  title : String
  durationUnit : DurationUnit
  (durationValue customSeconds : Int64)
  maxPurchasePerUser : Int
  upgradeGroup : String
  totalAmount : Int64
  quotaResetPeriod : String
  quotaResetCustomSeconds : Int64
deriving DecidableEq

inductive SubscriptionStatus where
  | active
  | expired
  | cancelled
deriving DecidableEq

structure UserSubscription where
  (id userId planId : Int)
  (amountTotal amountUsed : Int64)
  (startTime endTime : Int)
  status : SubscriptionStatus
  source : String
  (lastResetTime nextResetTime : Int)
  (upgradeGroup prevUserGroup : String)
deriving DecidableEq

inductive RecordStatus where
  | consumed
  | refunded
deriving DecidableEq

structure SubscriptionPreConsumeRecord where
  requestId : String
  (userId userSubscriptionId : Int)
  preConsumed : Int64
  status : RecordStatus
  updatedAt : Int
deriving DecidableEq

inductive OrderStatus where
  | pending
  | success
  | failed
  | expired
deriving DecidableEq

inductive PaymentProvider where
  | unset
  | epay
  | stripe
  | creem
  | waffo
  | waffoPancake
  | airwallex
  | other (name : String)
deriving DecidableEq

structure SubscriptionOrder where
  tradeNo : String
  (userId planId : Int)
  money : Rat
  paymentMethod : String
  paymentProvider : PaymentProvider
  status : OrderStatus
  (createTime completeTime : Int)
  providerPayload : String
deriving DecidableEq

structure TopUp where
  tradeNo : String
  userId : Int
  amount : Int64
  money : Rat
  paymentMethod : String
  paymentProvider : PaymentProvider
  (createTime completeTime : Int)
  status : OrderStatus
deriving DecidableEq

structure User where
  quota : Int
  (group email stripeCustomer airwallexCustomer airwallexConsentId : String)
  (airwallexPaymentMethod airwallexOriginalTxnId : String)

structure Token where
  (remainQuota usedQuota : Int)

/-- `resets` and `clamps` are ghost: the quota periods started, and the settlements cut off at zero.
-/
structure Database where
  users : Int → User
  tokens : Int → Token
  subs : Table UserSubscription.id
  records : Table SubscriptionPreConsumeRecord.requestId
  orders : Table SubscriptionOrder.tradeNo
  topUps : Table TopUp.tradeNo
  resets : Int → Nat
  clamps : Nat

namespace Database

def initial : Database where
  users _ := ⟨0, "default", "", "", "", "", "", ""⟩
  tokens _ := ⟨0, 0⟩
  subs := .empty _
  records := .empty _
  orders := .empty _
  topUps := .empty _
  resets _ := 0
  clamps := 0

def updateUser (db : Database) (id : Int) (f : User → User) : Database :=
  { db with users := Function.update db.users id (f (db.users id)) }

def updateToken (db : Database) (id : Int) (f : Token → Token) : Database :=
  { db with tokens := Function.update db.tokens id (f (db.tokens id)) }

def saveSub (db : Database) (sub : UserSubscription) : Database :=
  { db with subs := db.subs.save sub }

def saveRecord (db : Database) (record : SubscriptionPreConsumeRecord) : Database :=
  { db with records := db.records.save record }

@[simp] theorem updateUser_users (db : Database) (id : Int) (f : User → User) :
    (db.updateUser id f).users = Function.update db.users id (f (db.users id)) := rfl

@[simp] theorem updateUser_tokens (db : Database) (id : Int) (f : User → User) :
    (db.updateUser id f).tokens = db.tokens := rfl

@[simp] theorem updateUser_topUps (db : Database) (id : Int) (f : User → User) :
    (db.updateUser id f).topUps = db.topUps := rfl

@[simp] theorem updateToken_users (db : Database) (id : Int) (f : Token → Token) :
    (db.updateToken id f).users = db.users := rfl

@[simp] theorem updateToken_tokens (db : Database) (id : Int) (f : Token → Token) :
    (db.updateToken id f).tokens = Function.update db.tokens id (f (db.tokens id)) := rfl

end Database

end DeepRouter.Store
