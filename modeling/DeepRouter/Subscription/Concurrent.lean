import DeepRouter.Library.ReadCommitted
import DeepRouter.Subscription.Ledger

/-! # The ledger calls as concurrent transactions

None of the reads locks a row: the query option that asks for `FOR UPDATE` does not reach the SQL. -/

namespace DeepRouter.Subscription

open Store GoStrings KeyedTable ReadCommitted Runs Atomic

inductive RowKey where
  | sub (id : Int)
  | record (requestId : String)
deriving DecidableEq

inductive Cause where
  | schedule
  | reset
  | preConsume (amount : Int64)
  | delta (amount : Int64)
  | refund (amount : Int64)
deriving DecidableEq

namespace Cause

-- the ghost counters of the database, as the sequential calls keep them
def count (found : UserSubscription) (db : Database) : Cause → Database
  | .reset => { db with resets := Function.update db.resets found.id (db.resets found.id + 1) }
  | .delta amount =>
    { db with clamps := db.clamps + if found.amountUsed + amount < 0 then 1 else 0 }
  | .refund amount =>
    { db with clamps := db.clamps + if found.amountUsed + -amount < 0 then 1 else 0 }
  | _ => db

@[simp] theorem count_subs (cause : Cause) (found : UserSubscription) (db : Database) :
    (cause.count found db).subs = db.subs := by
  cases cause <;> rfl

@[simp] theorem count_records (cause : Cause) (found : UserSubscription) (db : Database) :
    (cause.count found db).records = db.records := by
  cases cause <;> rfl

end Cause

inductive LedgerWrite where
  | saveSub (cause : Cause) (found saved : UserSubscription)
  | createRecord (record : SubscriptionPreConsumeRecord)
  | saveRecord (record : SubscriptionPreConsumeRecord)

structure LedgerStore where
  db : Database
  causes : List (Int × Cause) := []

namespace LedgerWrite

def key : LedgerWrite → RowKey
  | .saveSub _ _ saved => .sub saved.id
  | .createRecord record => .record record.requestId
  | .saveRecord record => .record record.requestId

def apply (s : LedgerStore) : LedgerWrite → LedgerStore
  | .saveSub cause found saved =>
    { db := cause.count found (s.db.saveSub saved), causes := s.causes ++ [(saved.id, cause)] }
  | .createRecord record => { s with db := { s.db with records := s.db.records.put record } }
  | .saveRecord record => { s with db := s.db.saveRecord record }

def refuse (s : LedgerStore) : LedgerWrite → Fault
  | .createRecord record =>
    if (s.db.records.find? record.requestId).isSome then some "duplicated key not allowed" else none
  | _ => none

end LedgerWrite

def RowKey.slot (s : LedgerStore) :
    RowKey → Option UserSubscription × Option SubscriptionPreConsumeRecord
  | .sub id => (s.db.subs.find? id, none)
  | .record requestId => (none, s.db.records.find? requestId)

def ledgerEngine : Engine RowKey LedgerStore LedgerWrite Err
    (Option UserSubscription × Option SubscriptionPreConsumeRecord) where
  key := LedgerWrite.key
  apply := LedgerWrite.apply
  refuse := LedgerWrite.refuse
  slot k s := k.slot s
  frame k s row hk := by
    cases row with
    | saveSub cause found saved =>
      cases k with
      | sub id =>
        have hi : saved.id ≠ id := fun h => hk (congrArg RowKey.sub h).symm
        simp [RowKey.slot, LedgerWrite.apply, Database.saveSub, Table.find?_save_of_ne hi]
      | record requestId => simp [RowKey.slot, LedgerWrite.apply, Database.saveSub]
    | createRecord record =>
      cases k with
      | sub id => rfl
      | record requestId =>
        have hi : record.requestId ≠ requestId := fun h => hk (congrArg RowKey.record h).symm
        simp [RowKey.slot, LedgerWrite.apply, Table.find?_put_of_ne hi]
    | saveRecord record =>
      cases k with
      | sub id => rfl
      | record requestId =>
        have hi : record.requestId ≠ requestId := fun h => hk (congrArg RowKey.record h).symm
        simp [RowKey.slot, LedgerWrite.apply, Database.saveRecord, Table.find?_save_of_ne hi]
  local_row s t row hs := by
    cases row with
    | saveSub cause found saved =>
      simp only [LedgerWrite.key, RowKey.slot, Prod.mk.injEq, and_true] at hs
      simp [LedgerWrite.key, RowKey.slot, LedgerWrite.apply, Database.saveSub,
        Table.find?_save_congr hs]
    | createRecord record =>
      simp [LedgerWrite.key, RowKey.slot, LedgerWrite.apply, Table.find?_put_self]
    | saveRecord record =>
      simp only [LedgerWrite.key, RowKey.slot, Prod.mk.injEq, true_and] at hs
      simp [LedgerWrite.key, RowKey.slot, LedgerWrite.apply, Database.saveRecord,
        Table.find?_save_congr hs]

abbrev LedgerProg := Prog LedgerStore LedgerWrite Err (Option SubscriptionPreConsumeResult)

def failTx (e : Err) : LedgerProg := .rollback (.done (.error e))

def commitTx (result : Option SubscriptionPreConsumeResult) : LedgerProg :=
  .commit fun
    | .ok () => .done (.ok result)
    | .error e => .done (.error e)

def chargeCandidateProg (env : Env) (requestId : String) (userId : Int) (amount : Int64)
    (sub : UserSubscription) : LedgerProg :=
  .write (.createRecord (consumedRecord env requestId userId amount sub)) fun
    | .ok () =>
      .write (.saveSub (.preConsume amount) sub { sub with amountUsed := sub.amountUsed + amount })
        fun
        | .ok () => commitTx (some
            ⟨sub.id, amount, sub.amountTotal, sub.amountUsed, sub.amountUsed + amount⟩)
        | .error e => failTx e
    | .error e =>
      .read fun
        | .ok s =>
          match s.db.records.find? requestId with
          | some dup =>
            if dup.status = .refunded then failTx "subscription pre-consume already refunded"
            else commitTx (some (replayResult sub dup.preConsumed))
          | none => failTx e
        | .error _ => failTx e

def preConsumeCandidatesProg (env : Env) (requestId : String) (userId : Int) (amount : Int64) :
    List UserSubscription → LedgerProg
  | [] => failTx ("subscription quota insufficient, need=" ++ toString amount)
  | candidate :: rest =>
    let charge (sub : UserSubscription) : LedgerProg :=
      if 0 < sub.amountTotal ∧ sub.amountTotal - sub.amountUsed < amount then
        preConsumeCandidatesProg env requestId userId amount rest
      else chargeCandidateProg env requestId userId amount sub
    let save (cause : Cause) (sub : UserSubscription) : LedgerProg :=
      .write (.saveSub cause candidate sub) fun
        | .ok () => charge sub
        | .error e => failTx e
    match getSubscriptionPlanById env candidate.planId with
    | .error e => failTx e
    | .ok plan =>
      match resetOutcome env candidate plan with
      | .unchanged => charge candidate
      | .scheduled sub => save .schedule sub
      | .reset sub => save .reset sub
      | .unfinished => failTx "reset catch-up loop still running"

def preConsumeProg (env : Env) (requestId : String) (userId : Int) (amount : Int64) : LedgerProg :=
  if userId ≤ 0 then .done (.error "invalid userId")
  else if trimSpace requestId = "" then .done (.error "requestId is empty")
  else if amount ≤ 0 then .done (.error "amount must be > 0")
  else
    .read fun
      | .error e => failTx e
      | .ok s =>
        match s.db.records.find? requestId with
        | some existing =>
          if existing.status = .refunded then failTx "subscription pre-consume already refunded"
          else
            .read fun
              | .error e => failTx e
              | .ok s =>
                match s.db.subs.find? existing.userSubscriptionId with
                | none => failTx recordNotFound
                | some sub => commitTx (some (replayResult sub existing.preConsumed))
        | none =>
          .read fun
            | .error _ => failTx "no active subscription"
            | .ok s =>
              match activeSubscriptions env.now userId s.db with
              | [] => failTx "no active subscription"
              | subs => preConsumeCandidatesProg env requestId userId amount subs

def postConsumeProg (cause : Cause) (userSubscriptionId : Int) (delta : Int64)
    (next : Except Err Unit → LedgerProg) : LedgerProg :=
  if userSubscriptionId ≤ 0 then next (.error "invalid userSubscriptionId")
  else if delta = 0 then next (.ok ())
  else
    .read fun
      | .error e => .rollback (next (.error e))
      | .ok s =>
        match s.db.subs.find? userSubscriptionId with
        | none => .rollback (next (.error recordNotFound))
        | some sub =>
          let newUsed := settledUsed sub.amountUsed delta
          if 0 < sub.amountTotal ∧ sub.amountTotal < newUsed then
            .rollback (next (.error ("subscription used exceeds total, used=" ++ toString newUsed ++
              " total=" ++ toString sub.amountTotal)))
          else
            .write (.saveSub cause sub { sub with amountUsed := newUsed }) fun
              | .ok () => .commit next
              | .error e => .rollback (next (.error e))

def markRefundedProg (env : Env) (record : SubscriptionPreConsumeRecord) : LedgerProg :=
  .write (.saveRecord { record with status := .refunded, updatedAt := env.now }) fun
    | .ok () => commitTx none
    | .error e => failTx e

def refundProg (env : Env) (requestId : String) : LedgerProg :=
  if trimSpace requestId = "" then .done (.error "requestId is empty")
  else
    .read fun
      | .error e => failTx e
      | .ok s =>
        match s.db.records.find? requestId with
        | none => failTx recordNotFound
        | some record =>
          if record.status = .refunded then commitTx none
          else if record.preConsumed ≤ 0 then markRefundedProg env record
          else
            postConsumeProg (.refund record.preConsumed) record.userSubscriptionId
              (-record.preConsumed) fun
              | .ok () => markRefundedProg env record
              | .error e => failTx e

inductive LedgerCall where
  | preConsume (env : Env) (requestId : String) (userId : Int) (amount : Int64)
  | postConsume (userSubscriptionId : Int) (delta : Int64)
  | refund (env : Env) (requestId : String)

def LedgerCall.prog : LedgerCall → LedgerProg
  | .preConsume env requestId userId amount => preConsumeProg env requestId userId amount
  | .postConsume userSubscriptionId delta =>
    postConsumeProg (.delta delta) userSubscriptionId delta fun
      | .ok () => .done (.ok none)
      | .error e => .done (.error e)
  | .refund env requestId => refundProg env requestId

abbrev LedgerState :=
  State Nat RowKey LedgerStore LedgerWrite Err (Option SubscriptionPreConsumeResult)

abbrev LedgerEvent := Event Nat LedgerCall Err

abbrev concurrentStep : LedgerState → LedgerEvent → LedgerState :=
  State.step ledgerEngine LedgerCall.prog

end DeepRouter.Subscription
