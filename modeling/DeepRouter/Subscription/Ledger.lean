import Mathlib.Data.List.Sort
import DeepRouter.Subscription.Plan

/-! # The subscription ledger

A refund opens the transaction of its settlement through the global handle: that one commits before
the refund's own transaction does. -/

namespace DeepRouter.Subscription

open Store GoStrings Atomic

def getSubscriptionPlanById (env : Env) (id : Int) : Except Err SubscriptionPlan :=
  if id ≤ 0 then .error "invalid plan id" else env.plans id

def maybeResetUserSubscriptionWithPlanTx (env : Env) (saveFault : Fault) (sub : UserSubscription)
    (plan : SubscriptionPlan) (db : Database) : Except Err (UserSubscription × Database) :=
  match resetOutcome env sub plan with
  | .unchanged => .ok (sub, db)
  | .scheduled sub' => do
    attempt saveFault
    .ok (sub', db.saveSub sub')
  | .reset sub' => do
    attempt saveFault
    .ok (sub', { db.saveSub sub' with
      resets := Function.update db.resets sub.id (db.resets sub.id + 1) })
  | .unfinished => .error "reset catch-up loop still running"

structure PreConsumeFaults where
  (findRecord firstSub listSubs : Fault := none)
  saveReset : Int → Fault := fun _ => none
  (createRecord findDup saveSub commit : Fault := none)

structure SubscriptionPreConsumeResult where
  userSubscriptionId : Int
  (preConsumed amountTotal amountUsedBefore amountUsedAfter : Int64)

def replayResult (sub : UserSubscription) (preConsumed : Int64) : SubscriptionPreConsumeResult :=
  ⟨sub.id, preConsumed, sub.amountTotal, sub.amountUsed, sub.amountUsed⟩

def createRecord (fault : Fault) (record : SubscriptionPreConsumeRecord) (db : Database) :
    Except Err Database := do
  attempt fault
  let records ← require (db.records.insert? record) "duplicated key not allowed"
  .ok { db with records }

def consumedRecord (env : Env) (requestId : String) (userId : Int) (amount : Int64)
    (sub : UserSubscription) : SubscriptionPreConsumeRecord :=
  { requestId, userId, userSubscriptionId := sub.id, preConsumed := amount, status := .consumed,
    updatedAt := env.now }

def chargeCandidate (env : Env) (faults : PreConsumeFaults) (requestId : String) (userId : Int)
    (amount : Int64) (sub : UserSubscription) (db : Database) :
    Except Err (SubscriptionPreConsumeResult × Database) :=
  match createRecord faults.createRecord (consumedRecord env requestId userId amount sub) db with
  | .error e =>
    match faults.findDup, db.records.find? requestId with
    | none, some dup =>
      if dup.status = .refunded then .error "subscription pre-consume already refunded"
      else .ok (replayResult sub dup.preConsumed, db)
    | _, _ => .error e
  | .ok db => do
    attempt faults.saveSub
    .ok (⟨sub.id, amount, sub.amountTotal, sub.amountUsed, sub.amountUsed + amount⟩,
      db.saveSub { sub with amountUsed := sub.amountUsed + amount })

def preConsumeCandidates (env : Env) (faults : PreConsumeFaults) (requestId : String) (userId : Int)
    (amount : Int64) :
    List UserSubscription → Database → Except Err (SubscriptionPreConsumeResult × Database)
  | [], _ => .error ("subscription quota insufficient, need=" ++ toString amount)
  | candidate :: rest, db => do
    let plan ← getSubscriptionPlanById env candidate.planId
    let (sub, db) ← maybeResetUserSubscriptionWithPlanTx env (faults.saveReset candidate.id)
      candidate plan db
    if 0 < sub.amountTotal ∧ sub.amountTotal - sub.amountUsed < amount then
      preConsumeCandidates env faults requestId userId amount rest db
    else chargeCandidate env faults requestId userId amount sub db

/-- `user_id = ? AND status = 'active' AND end_time > now`, by end time and id. -/
def activeSubscriptions (now userId : Int) (db : Database) : List UserSubscription :=
  (db.subs.rows.filter (fun sub => sub.userId = userId ∧ sub.status = .active ∧ now < sub.endTime)
    ).insertionSort (fun a b => a.endTime < b.endTime ∨ (a.endTime = b.endTime ∧ a.id ≤ b.id))

def preConsumeTx (env : Env) (faults : PreConsumeFaults) (requestId : String) (userId : Int)
    (amount : Int64) (db : Database) : Except Err (SubscriptionPreConsumeResult × Database) := do
  attempt faults.findRecord
  match db.records.find? requestId with
  | some existing =>
    if existing.status = .refunded then .error "subscription pre-consume already refunded"
    else do
      attempt faults.firstSub
      let sub ← require (db.subs.find? existing.userSubscriptionId) recordNotFound
      .ok (replayResult sub existing.preConsumed, db)
  | none =>
    match faults.listSubs, activeSubscriptions env.now userId db with
    | some _, _ => .error "no active subscription"
    | none, [] => .error "no active subscription"
    | none, subs => preConsumeCandidates env faults requestId userId amount subs db

def preConsumeUserSubscription (env : Env) (faults : PreConsumeFaults) (requestId : String)
    (userId : Int) (amount : Int64) (db : Database) :
    Except Err SubscriptionPreConsumeResult × Database :=
  if userId ≤ 0 then (.error "invalid userId", db)
  else if trimSpace requestId = "" then (.error "requestId is empty", db)
  else if amount ≤ 0 then (.error "amount must be > 0", db)
  else transaction db (preConsumeTx env faults requestId userId amount db) faults.commit

structure PostFaults where
  (find save commit : Fault := none)

def settledUsed (used delta : Int64) : Int64 := if used + delta < 0 then 0 else used + delta

def postConsumeTx (faults : PostFaults) (userSubscriptionId : Int) (delta : Int64) (db : Database) :
    Except Err (Unit × Database) := do
  attempt faults.find
  let sub ← require (db.subs.find? userSubscriptionId) recordNotFound
  let newUsed := settledUsed sub.amountUsed delta
  if 0 < sub.amountTotal ∧ sub.amountTotal < newUsed then
    .error ("subscription used exceeds total, used=" ++ toString newUsed ++ " total=" ++
      toString sub.amountTotal)
  else do
    attempt faults.save
    .ok ((), { db.saveSub { sub with amountUsed := newUsed } with
      clamps := db.clamps + if sub.amountUsed + delta < 0 then 1 else 0 })

def postConsumeUserSubscriptionDelta (faults : PostFaults) (userSubscriptionId : Int)
    (delta : Int64) (db : Database) : Except Err Unit × Database :=
  if userSubscriptionId ≤ 0 then (.error "invalid userSubscriptionId", db)
  else if delta = 0 then (.ok (), db)
  else transaction db (postConsumeTx faults userSubscriptionId delta db) faults.commit

structure RefundFaults where
  find : Fault := none
  settlement : PostFaults := {}
  (save commit : Fault := none)

def markRefunded (env : Env) (faults : RefundFaults) (record : SubscriptionPreConsumeRecord)
    (db : Database) : Except Err Unit × Database :=
  transaction db (do
    attempt faults.save
    .ok ((), db.saveRecord { record with status := .refunded, updatedAt := env.now })) faults.commit

def refundSubscriptionPreConsume (env : Env) (faults : RefundFaults) (requestId : String)
    (db : Database) : Except Err Unit × Database :=
  if trimSpace requestId = "" then (.error "requestId is empty", db)
  else
    match faults.find, db.records.find? requestId with
    | some e, _ => (.error e, db)
    | none, none => (.error recordNotFound, db)
    | none, some record =>
      if record.status = .refunded then (.ok (), db)
      else if record.preConsumed ≤ 0 then markRefunded env faults record db
      else
        match postConsumeUserSubscriptionDelta faults.settlement record.userSubscriptionId
            (-record.preConsumed) db with
        | (.error e, db) => (.error e, db)
        | (.ok (), db) => markRefunded env faults record db

structure ResetFaults where
  list : Fault := none
  (lock save commit : Int → Fault := fun _ => none)

def resetLockedTx (env : Env) (faults : ResetFaults) (id : Int) (plan : SubscriptionPlan)
    (db : Database) : Except Err (Bool × Database) :=
  match faults.lock id, db.subs.find? id with
  | none, some locked =>
    if 0 < locked.nextResetTime ∧ locked.nextResetTime ≤ env.now then do
      let (_, db) ← maybeResetUserSubscriptionWithPlanTx env (faults.save id) locked plan db
      .ok (true, db)
    else .ok (false, db)
  | _, _ => .ok (false, db)

def resetDueRows (env : Env) (faults : ResetFaults) :
    List UserSubscription → Nat → Database → (Nat × Fault) × Database
  | [], count, db => ((count, none), db)
  | sub :: rest, count, db =>
    match getSubscriptionPlanById env sub.planId with
    | .error _ => resetDueRows env faults rest count db
    | .ok plan =>
      -- the counter is a Go variable: it keeps its increment when the commit fails
      match resetLockedTx env faults sub.id plan db, faults.commit sub.id with
      | .error e, _ => ((count, some e), db)
      | .ok (done, _), some e => ((if done then count + 1 else count, some e), db)
      | .ok (done, db), none => resetDueRows env faults rest (if done then count + 1 else count) db

/-- `next_reset_time > 0 AND next_reset_time <= now AND status = 'active'`, earliest first. -/
def dueForReset (now : Int) (limit : Int) (db : Database) : List UserSubscription :=
  ((db.subs.rows.filter
    (fun sub => 0 < sub.nextResetTime ∧ sub.nextResetTime ≤ now ∧ sub.status = .active)
    ).insertionSort (fun a b => a.nextResetTime ≤ b.nextResetTime)).take
      (if limit ≤ 0 then 200 else limit.toNat)

def resetDueSubscriptions (env : Env) (faults : ResetFaults) (limit : Int) (db : Database) :
    (Nat × Fault) × Database :=
  match faults.list with
  | some e => ((0, some e), db)
  | none => resetDueRows env faults (dueForReset env.now limit db) 0 db

def cleanupSubscriptionPreConsumeRecords (env : Env) (fault : Fault) (olderThanSeconds : Int)
    (db : Database) : Except Err Nat × Database :=
  let cutoff := env.now - (if olderThanSeconds ≤ 0 then 7 * 24 * 3600 else olderThanSeconds)
  match fault with
  | some e => (.error e, db)
  | none =>
    (.ok (db.records.rows.countP (fun record => record.updatedAt < cutoff)),
      { db with records := db.records.keep (fun record => !decide (record.updatedAt < cutoff)) })

end DeepRouter.Subscription
