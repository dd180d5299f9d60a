import DeepRouter.Billing.Debits
import DeepRouter.Tasks.Schema

/-! # Refund and settlement of a task

Settlement sets the quota of the copy it is given and writes no row. -/

namespace DeepRouter.Tasks

open Store KeyedTable Billing Subscription MachineInt

inductive TaskEvent where
  | refunded (id amount : Int)
  | settled (id : Int)
  | adjusted (id : Int) (delta : Int64)
deriving DecidableEq

structure World where
  db : Database
  tasks : TaskTable
  history : List TaskEvent

/-- The key is empty when the token is gone. -/
structure BillingCalls where
  funding : Fault := none
  subscription : PostFaults := {}
  tokenKey : String := ""
  token : Fault := none

def taskIsSubscription (task : Task) : Bool :=
  task.privateData.billingSource = .subscription ∧ 0 < task.privateData.subscriptionId

def taskAdjustFunding (calls : BillingCalls) (task : Task) (delta : Int64) (db : Database) :
    Except Err Unit × Database :=
  if taskIsSubscription task then
    postConsumeUserSubscriptionDelta calls.subscription task.privateData.subscriptionId delta db
  else if 0 < delta then decreaseUserQuota calls.funding task.userId delta.toInt db
  else increaseUserQuota calls.funding task.userId (-delta).toInt db

def taskAdjustTokenQuota (calls : BillingCalls) (task : Task) (delta : Int64) (db : Database) :
    Database :=
  if task.privateData.tokenId ≤ 0 ∨ delta = 0 then db
  else if calls.tokenKey = "" then db
  else if 0 < delta then
    (decreaseTokenQuota calls.token task.privateData.tokenId delta.toInt db).2
  else (increaseTokenQuota calls.token task.privateData.tokenId (-delta).toInt db).2

def available (task : Task) (db : Database) : Int :=
  if taskIsSubscription task then -(usedOf db task.privateData.subscriptionId).toInt
  else (db.users task.userId).quota

def refundTaskQuota (calls : BillingCalls) (task : Task) (w : World) : World :=
  if task.quota = 0 then w
  else
    match taskAdjustFunding calls task (-task.quota) w.db with
    | (.error _, db) => { w with db }
    | (.ok (), db) =>
      { w with
        db := taskAdjustTokenQuota calls task (-task.quota) db
        history := w.history ++ [.refunded task.id (available task db - available task w.db)] }

def recalculateTaskQuota (calls : BillingCalls) (task : Task) (actualQuota : Int64) (w : World) :
    Task × World :=
  if actualQuota ≤ 0 then (task, w)
  else
    let quotaDelta := actualQuota - task.quota
    if quotaDelta = 0 then (task, w)
    else
      match taskAdjustFunding calls task quotaDelta w.db with
      | (.error _, db) => (task, { w with db })
      | (.ok (), db) =>
        ({ task with quota := actualQuota },
          { w with
            db := taskAdjustTokenQuota calls task quotaDelta db
            history := w.history ++ [.adjusted task.id quotaDelta] })

structure TaskInfo where
  status : TaskStatus
  (reason url progress : String := "")
  totalTokens : Int := 0

/-- The ratios and the conversion of the product to `int` that recalculation by tokens uses. -/
structure TaskRatios where
  getModelRatio : String → Option Rat
  getGroupRatio : String → Rat
  getGroupGroupRatio : String → String → Option Rat
  toInt : Rat → Int64

def taskModelName (task : Task) : String :=
  match task.privateData.billingContext with
  | some bc => if bc.originModelName ≠ "" then bc.originModelName else task.originModelName
  | none => task.originModelName

def otherMultiplier (task : Task) : Rat :=
  match task.privateData.billingContext with
  | some bc => (bc.otherRatios.filter fun r => r ≠ 1 ∧ 0 < r).foldl (· * ·) 1
  | none => 1

def taskGroup (findUser : Fault) (task : Task) (db : Database) : String :=
  if task.group ≠ "" then task.group
  else if findUser = none then (db.users task.userId).group
  else ""

def quotaByTokens (ratios : TaskRatios) (findUser : Fault) (task : Task) (totalTokens : Int)
    (db : Database) : Option Int64 :=
  if totalTokens ≤ 0 then none
  else
    match ratios.getModelRatio (taskModelName task) with
    | none => none
    | some modelRatio =>
      let group := taskGroup findUser task db
      if modelRatio ≤ 0 ∨ group = "" then none
      else
        let finalGroupRatio := (ratios.getGroupGroupRatio group group).getD (ratios.getGroupRatio group)
        some (ratios.toInt (totalTokens * modelRatio * finalGroupRatio * otherMultiplier task))

def recalculateTaskQuotaByTokens (ratios : TaskRatios) (findUser : Fault) (calls : BillingCalls)
    (task : Task) (totalTokens : Int) (w : World) : Task × World :=
  match quotaByTokens ratios findUser task totalTokens w.db with
  | none => (task, w)
  | some actualQuota => recalculateTaskQuota calls task actualQuota w

/-- What a settlement reads and calls; `adjustBillingOnComplete` is the adaptor's. -/
structure TaskSettleCalls where
  ratios : TaskRatios
  adjustBillingOnComplete : Task → TaskInfo → Int64
  findUser : Fault := none
  billing : BillingCalls := {}

def perCallBilling (task : Task) : Bool :=
  match task.privateData.billingContext with
  | some bc => bc.perCallBilling
  | none => false

def settleTaskBillingOnComplete (calls : TaskSettleCalls) (task : Task) (taskResult : TaskInfo)
    (w : World) : Task × World :=
  let w := { w with history := w.history ++ [.settled task.id] }
  if perCallBilling task then (task, w)
  else if 0 < calls.adjustBillingOnComplete task taskResult then
    recalculateTaskQuota calls.billing task (calls.adjustBillingOnComplete task taskResult) w
  else if 0 < taskResult.totalTokens then
    recalculateTaskQuotaByTokens calls.ratios calls.findUser calls.billing task
      taskResult.totalTokens w
  else (task, w)

end DeepRouter.Tasks
