import DeepRouter.Library.Runs
import DeepRouter.Subscription.Ledger
import DeepRouter.Subscription.Create

/-! # Subscription orders -/

namespace DeepRouter.Subscription

open Store GoStrings Atomic KeyedTable Runs

def errSubscriptionOrderNotFound : Err := "subscription order not found"

def errSubscriptionOrderStatusInvalid : Err := "subscription order status invalid"

structure OrderFaults where
  find : Fault := none
  create : CreateFaults := {}
  (findTopUp saveTopUp saveOrder commit : Fault := none)

def lockOrder (fault : Fault) (tradeNo : String) (expectedPaymentProvider : PaymentProvider)
    (db : Database) : Except Err SubscriptionOrder :=
  match fault, db.orders.find? tradeNo with
  | none, some order =>
    if expectedPaymentProvider ≠ .unset ∧ order.paymentProvider ≠ expectedPaymentProvider then
      .error errPaymentMethodMismatch
    else .ok order
  | _, _ => .error errSubscriptionOrderNotFound

def newTopUp (now : Int) (order : SubscriptionOrder) : TopUp :=
  { tradeNo := order.tradeNo, userId := order.userId, amount := 0, money := order.money,
    paymentMethod := order.paymentMethod, paymentProvider := .unset,
    createTime := order.createTime, completeTime := now, status := .success }

def updatedTopUp (now : Int) (order : SubscriptionOrder) (topUp : TopUp) : TopUp :=
  { topUp with
    money := order.money
    paymentMethod := if topUp.paymentMethod = "" then order.paymentMethod else topUp.paymentMethod
    createTime := if topUp.createTime = 0 then order.createTime else topUp.createTime
    completeTime := now
    status := .success }

def upsertSubscriptionTopUpTx (now : Int) (faults : OrderFaults) (order : SubscriptionOrder)
    (db : Database) : Except Err Database := do
  attempt faults.findTopUp
  match db.topUps.find? order.tradeNo with
  | none =>
    attempt faults.saveTopUp
    let topUps ← require (db.topUps.insert? (newTopUp now order)) "duplicated key not allowed"
    .ok { db with topUps }
  | some topUp =>
    if topUp.paymentMethod ≠ "" ∧ topUp.paymentMethod ≠ order.paymentMethod then
      .error errPaymentMethodMismatch
    else do
      attempt faults.saveTopUp
      .ok { db with topUps := db.topUps.save (updatedTopUp now order topUp) }

def saveOrder (db : Database) (order : SubscriptionOrder) : Database :=
  { db with orders := db.orders.save order }

def completedOrder (now : Int) (providerPayload actualPaymentMethod : String)
    (order : SubscriptionOrder) : SubscriptionOrder :=
  { order with
    status := .success
    completeTime := now
    providerPayload := if providerPayload ≠ "" then providerPayload else order.providerPayload
    paymentMethod :=
      if actualPaymentMethod ≠ "" ∧ order.paymentMethod ≠ actualPaymentMethod then
        actualPaymentMethod
      else order.paymentMethod }

def completeTx (env : Env) (faults : OrderFaults) (newId : Int) (tradeNo providerPayload : String)
    (expectedPaymentProvider : PaymentProvider) (actualPaymentMethod : String) (db : Database) :
    Except Err (Unit × Database) := do
  let order ← lockOrder faults.find tradeNo expectedPaymentProvider db
  if order.status = .success then .ok ((), db)
  else if order.status ≠ .pending then .error errSubscriptionOrderStatusInvalid
  else do
    let plan ← getSubscriptionPlanById env order.planId
    let (_, db) ←
      createUserSubscriptionFromPlanTx env faults.create newId order.userId plan "order" db
    let db ← upsertSubscriptionTopUpTx env.now faults order db
    attempt faults.saveOrder
    .ok ((), saveOrder db (completedOrder env.now providerPayload actualPaymentMethod order))

def completeSubscriptionOrder (env : Env) (faults : OrderFaults) (newId : Int)
    (tradeNo providerPayload : String) (expectedPaymentProvider : PaymentProvider)
    (actualPaymentMethod : String) (db : Database) : Except Err Unit × Database :=
  if tradeNo = "" then (.error "tradeNo is empty", db)
  else
    transaction db
      (completeTx env faults newId tradeNo providerPayload expectedPaymentProvider
        actualPaymentMethod db) faults.commit

def expireOrderTx (now : Int) (faults : OrderFaults) (tradeNo : String)
    (expectedPaymentProvider : PaymentProvider) (db : Database) : Except Err (Unit × Database) := do
  let order ← lockOrder faults.find tradeNo expectedPaymentProvider db
  if order.status ≠ .pending then .ok ((), db)
  else do
    attempt faults.saveOrder
    .ok ((), saveOrder db { order with status := .expired, completeTime := now })

def expireSubscriptionOrder (now : Int) (faults : OrderFaults) (tradeNo : String)
    (expectedPaymentProvider : PaymentProvider) (db : Database) : Except Err Unit × Database :=
  if tradeNo = "" then (.error "tradeNo is empty", db)
  else transaction db (expireOrderTx now faults tradeNo expectedPaymentProvider db) faults.commit

theorem lockOrder_ok {fault : Fault} {tn : String} {expected : PaymentProvider}
    {db : Database} {order : SubscriptionOrder} (h : lockOrder fault tn expected db = .ok order) :
    db.orders.find? tn = some order ∧ (expected = .unset ∨ order.paymentProvider = expected) := by
  unfold lockOrder at h
  split at h
  · rename_i found hf
    split at h
    · cases h
    rename_i hp
    cases h
    refine ⟨hf, ?_⟩
    by_contra hn
    exact hp ⟨fun he => hn (.inl he), fun he => hn (.inr he)⟩
  · cases h

theorem upsert_ok {now : Int} {fl : OrderFaults} {order : SubscriptionOrder} {db db' : Database}
    (h : upsertSubscriptionTopUpTx now fl order db = .ok db') :
    ∃ topUps, db' = { db with topUps } := by
  unfold upsertSubscriptionTopUpTx at h
  obtain ⟨_, _, h⟩ := bind_eq_ok.mp h
  split at h
  · obtain ⟨_, _, h⟩ := bind_eq_ok.mp h
    obtain ⟨topUps, _, h⟩ := bind_eq_ok.mp h
    cases h
    exact ⟨topUps, rfl⟩
  · split at h
    · cases h
    · obtain ⟨_, _, h⟩ := bind_eq_ok.mp h
      cases h
      exact ⟨_, rfl⟩

end DeepRouter.Subscription
