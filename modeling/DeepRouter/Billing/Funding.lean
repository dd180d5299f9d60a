import DeepRouter.Library.Runs
import DeepRouter.Subscription.UsedAmount

/-! # Funding sources

The calls on user and token quotas are the unbatched ones, each a single `UPDATE`. -/

namespace DeepRouter.Billing

open Store Atomic Subscription Runs

def updateQuota (fault : Fault) (quota : Int) (write : Database → Database) (db : Database) :
    Except Err Unit × Database :=
  if quota < 0 then (.error "quota 不能为负数！", db) else transaction db (.ok ((), write db)) fault

def increaseUserQuota (fault : Fault) (id quota : Int) : Database → Except Err Unit × Database :=
  updateQuota fault quota (·.updateUser id fun user => { user with quota := user.quota + quota })

def decreaseUserQuota (fault : Fault) (id quota : Int) : Database → Except Err Unit × Database :=
  updateQuota fault quota (·.updateUser id fun user => { user with quota := user.quota - quota })

def increaseTokenQuota (fault : Fault) (tokenId quota : Int) :
    Database → Except Err Unit × Database :=
  updateQuota fault quota (·.updateToken tokenId fun token =>
    { token with remainQuota := token.remainQuota + quota, usedQuota := token.usedQuota - quota })

def decreaseTokenQuota (fault : Fault) (id quota : Int) : Database → Except Err Unit × Database :=
  updateQuota fault quota (·.updateToken id fun token =>
    { token with remainQuota := token.remainQuota - quota, usedQuota := token.usedQuota + quota })

inductive BillingSource where
  | unset
  | wallet
  | subscription
deriving DecidableEq

structure WalletFunding where
  userId : Int
  consumed : Int := 0
deriving DecidableEq

structure SubscriptionPlanInfo where
  planId : Int
  planTitle : String

structure SubscriptionFunding where
  requestId : String
  userId : Int
  amount : Int64
  subscriptionId : Int := 0
  (preConsumed amountTotal amountUsedAfter : Int64 := 0)
  planId : Int := 0
  planTitle : String := ""
deriving DecidableEq

inductive FundingSource where
  | wallet (funding : WalletFunding)
  | subscription (funding : SubscriptionFunding)
deriving DecidableEq

def FundingSource.source : FundingSource → BillingSource
  | .wallet _ => .wallet
  | .subscription _ => .subscription

def WalletFunding.preConsume (fault : Fault) (amount : Int) (w : WalletFunding) (db : Database) :
    Except Err WalletFunding × Database :=
  if amount ≤ 0 then (.ok w, db)
  else
    match decreaseUserQuota fault w.userId amount db with
    | (.error e, db) => (.error e, db)
    | (.ok (), db) => (.ok { w with consumed := amount }, db)

def WalletFunding.settle (fault : Fault) (delta : Int) (w : WalletFunding) (db : Database) :
    Except Err Unit × Database :=
  if delta = 0 then (.ok (), db)
  else if 0 < delta then decreaseUserQuota fault w.userId delta db
  else increaseUserQuota fault w.userId (-delta) db

def WalletFunding.refund (fault : Fault) (w : WalletFunding) (db : Database) :
    Except Err Unit × Database :=
  if w.consumed ≤ 0 then (.ok (), db) else increaseUserQuota fault w.userId w.consumed db

structure SubscriptionFaults where
  preConsume : PreConsumeFaults := {}
  cachedPlanInfo : Int → Option SubscriptionPlanInfo := fun _ => none
  findPlanInfo : Fault := none

def getSubscriptionPlanInfoByUserSubscriptionId (env : Env) (faults : SubscriptionFaults)
    (userSubscriptionId : Int) (db : Database) : Except Err SubscriptionPlanInfo :=
  if userSubscriptionId ≤ 0 then .error "invalid userSubscriptionId"
  else
    match faults.cachedPlanInfo userSubscriptionId with
    | some cached => .ok cached
    | none => do
      attempt faults.findPlanInfo
      let sub ← require (db.subs.find? userSubscriptionId) recordNotFound
      let plan ← getSubscriptionPlanById env sub.planId
      .ok ⟨sub.planId, plan.title⟩

def SubscriptionFunding.preConsume (env : Env) (faults : SubscriptionFaults)
    (s : SubscriptionFunding) (db : Database) : Except Err SubscriptionFunding × Database :=
  -- the amount of the call is ignored in favour of the one set at construction
  match preConsumeUserSubscription env faults.preConsume s.requestId s.userId s.amount db with
  | (.error e, db) => (.error e, db)
  | (.ok res, db) =>
    let s := { s with
      subscriptionId := res.userSubscriptionId, preConsumed := res.preConsumed
      amountTotal := res.amountTotal, amountUsedAfter := res.amountUsedAfter }
    match getSubscriptionPlanInfoByUserSubscriptionId env faults res.userSubscriptionId db with
    | .ok info => (.ok { s with planId := info.planId, planTitle := info.planTitle }, db)
    | .error _ => (.ok s, db)

def SubscriptionFunding.settle (faults : PostFaults) (delta : Int) (s : SubscriptionFunding)
    (db : Database) : Except Err Unit × Database :=
  if delta = 0 then (.ok (), db)
  else postConsumeUserSubscriptionDelta faults s.subscriptionId (.ofInt delta) db

def maxAttempts : Nat := 3

def refundWithRetry (fn : Nat → Database → Except Err Unit × Database) (db : Database) :
    Except Err Unit × Database :=
  retry fn maxAttempts 0 none db

def SubscriptionFunding.refund (attempts : Nat → Env × RefundFaults) (s : SubscriptionFunding)
    (db : Database) : Except Err Unit × Database :=
  if s.preConsumed ≤ 0 then (.ok (), db)
  else
    refundWithRetry
      (fun i => refundSubscriptionPreConsume (attempts i).1 (attempts i).2 s.requestId) db

end DeepRouter.Billing
