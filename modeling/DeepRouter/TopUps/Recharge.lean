import DeepRouter.Store.Schema

/-! # Completing a top-up order -/

namespace DeepRouter.TopUps

open Store Atomic KeyedTable

/-- The clock, `common.QuotaPerUnit`, and the integer kept when a fractional amount is added to a
quota. -/
structure Settings where
  now : Int
  quotaPerUnit : Rat
  stored : Rat → Int

structure TopUpFaults where
  (find saveTopUp findUser updateUser commit : Fault := none)

def errTopUpNotFound : Err := "topup not found"

def errTopUpStatusInvalid : Err := "topup status invalid"

def errRechargeFailed : Err := "充值失败，请稍后重试"

def intPart (d : Rat) : Int := (Int64.ofInt (d.num.tdiv d.den)).toInt

def positiveCredit (quotaToAdd : Int) : Except Err Int :=
  if quotaToAdd ≤ 0 then .error "无效的充值额度" else .ok quotaToAdd

theorem positiveCredit_eq_ok {quotaToAdd quota : Int}
    (h : positiveCredit quotaToAdd = .ok quota) : 0 < quotaToAdd ∧ quota = quotaToAdd := by
  unfold positiveCredit at h
  split at h
  · cases h
  · cases h
    exact ⟨by omega, rfl⟩

structure Completion where
  provider : Option PaymentProvider
  replayed : Bool
  notPending : Err
  credit : TopUp → Except Err Int
  readsUser : Bool := false
  columns : User → User := id

def saveTopUp (db : Database) (topUp : TopUp) : Database :=
  { db with topUps := db.topUps.save topUp }

def completedTopUp (now : Int) (topUp : TopUp) : TopUp :=
  { topUp with completeTime := now, status := .success }

def creditUser (columns : User → User) (quota : Int) (user : User) : User :=
  { columns user with quota := user.quota + quota }

def completeTx (completion : Completion) (now : Int) (faults : TopUpFaults) (tradeNo : String)
    (db : Database) : Except Err (Unit × Database) :=
  match faults.find, db.topUps.find? tradeNo with
  | none, some topUp =>
    if completion.provider.any (· ≠ topUp.paymentProvider) then .error errPaymentMethodMismatch
    else if completion.replayed ∧ topUp.status = .success then .ok ((), db)
    else if topUp.status ≠ .pending then .error completion.notPending
    else do
      let quota ← completion.credit topUp
      attempt faults.saveTopUp
      attempt (if completion.readsUser then faults.findUser else none)
      attempt faults.updateUser
      .ok ((), (saveTopUp db (completedTopUp now topUp)).updateUser topUp.userId
        (creditUser completion.columns quota))
  | _, _ => .error "充值订单不存在"

/-- A gateway callback hides the reason of a failure from its caller. -/
def gatewayRecharge (completion : Completion) (now : Int) (faults : TopUpFaults)
    (tradeNo : String) (db : Database) : Except Err Unit × Database :=
  if tradeNo = "" then (.error "未提供支付单号", db)
  else
    match transaction db (completeTx completion now faults tradeNo db) faults.commit with
    | (.error _, db) => (.error errRechargeFailed, db)
    | (.ok (), db) => (.ok (), db)

def stripeCompletion (cfg : Settings) (customerId : String) : Completion where
  provider := some .stripe
  replayed := false
  notPending := "充值订单状态错误"
  credit := fun topUp => .ok (cfg.stored (topUp.money * cfg.quotaPerUnit))
  columns := fun user => { user with stripeCustomer := customerId }

def recharge (cfg : Settings) (faults : TopUpFaults) (referenceId customerId : String) :
    Database → Except Err Unit × Database :=
  gatewayRecharge (stripeCompletion cfg customerId) cfg.now faults referenceId

def creemCompletion (customerEmail : String) : Completion where
  provider := some .creem
  replayed := false
  notPending := "充值订单状态错误"
  credit := fun topUp => .ok topUp.amount.toInt
  readsUser := customerEmail ≠ ""
  columns := fun user =>
    if customerEmail ≠ "" ∧ user.email = "" then { user with email := customerEmail } else user

def rechargeCreem (cfg : Settings) (faults : TopUpFaults)
    (referenceId customerEmail : String) : Database → Except Err Unit × Database :=
  gatewayRecharge (creemCompletion customerEmail) cfg.now faults referenceId

def amountCredit (cfg : Settings) (topUp : TopUp) : Except Err Int :=
  positiveCredit (intPart (topUp.amount.toInt * cfg.quotaPerUnit))

def waffoCompletion (cfg : Settings) : Completion where
  provider := some .waffo
  replayed := true
  notPending := "充值订单状态错误"
  credit := amountCredit cfg

def rechargeWaffo (cfg : Settings) (faults : TopUpFaults) (tradeNo : String) :
    Database → Except Err Unit × Database :=
  gatewayRecharge (waffoCompletion cfg) cfg.now faults tradeNo

structure AirwallexHandles where
  (customerId consentId pmId originalTxnId : String)

def AirwallexHandles.write (handles : AirwallexHandles) (user : User) : User :=
  { user with
    airwallexCustomer :=
      if handles.customerId ≠ "" then handles.customerId else user.airwallexCustomer
    airwallexConsentId :=
      if handles.consentId ≠ "" then handles.consentId else user.airwallexConsentId
    airwallexPaymentMethod :=
      if handles.pmId ≠ "" then handles.pmId else user.airwallexPaymentMethod
    airwallexOriginalTxnId :=
      if handles.originalTxnId ≠ "" then handles.originalTxnId else user.airwallexOriginalTxnId }

def airwallexCompletion (cfg : Settings) (handles : AirwallexHandles) : Completion where
  provider := some .airwallex
  replayed := true
  notPending := "充值订单状态错误"
  credit := amountCredit cfg
  columns := handles.write

def rechargeAirwallex (cfg : Settings) (faults : TopUpFaults) (tradeNo : String)
    (handles : AirwallexHandles) : Database → Except Err Unit × Database :=
  gatewayRecharge (airwallexCompletion cfg handles) cfg.now faults tradeNo

def waffoPancakeCompletion (cfg : Settings) : Completion where
  provider := some .waffoPancake
  replayed := true
  notPending := "充值订单状态错误"
  credit := amountCredit cfg

def rechargeWaffoPancake (cfg : Settings) (faults : TopUpFaults) (tradeNo : String) :
    Database → Except Err Unit × Database :=
  gatewayRecharge (waffoPancakeCompletion cfg) cfg.now faults tradeNo

def manualCompletion (cfg : Settings) : Completion where
  provider := none
  replayed := true
  notPending := "订单状态不是待支付，无法补单"
  credit := fun topUp =>
    if topUp.paymentProvider = .stripe then
      positiveCredit (intPart (topUp.money * cfg.quotaPerUnit))
    else amountCredit cfg topUp

/-- The administrator sees the error of the transaction itself. -/
def manualCompleteTopUp (cfg : Settings) (faults : TopUpFaults) (tradeNo : String)
    (db : Database) : Except Err Unit × Database :=
  if tradeNo = "" then (.error "未提供订单号", db)
  else
    transaction db (completeTx (manualCompletion cfg) cfg.now faults tradeNo db)
      faults.commit

def updatePendingTx (faults : TopUpFaults) (tradeNo : String)
    (expectedPaymentProvider : PaymentProvider) (targetStatus : OrderStatus) (db : Database) :
    Except Err (Unit × Database) :=
  match faults.find, db.topUps.find? tradeNo with
  | none, some topUp =>
    if expectedPaymentProvider ≠ .unset ∧ topUp.paymentProvider ≠ expectedPaymentProvider then
      .error errPaymentMethodMismatch
    else if topUp.status ≠ .pending then .error errTopUpStatusInvalid
    else do
      attempt faults.saveTopUp
      .ok ((), saveTopUp db { topUp with status := targetStatus })
  | _, _ => .error errTopUpNotFound

def updatePendingTopUpStatus (faults : TopUpFaults) (tradeNo : String)
    (expectedPaymentProvider : PaymentProvider) (targetStatus : OrderStatus) (db : Database) :
    Except Err Unit × Database :=
  if tradeNo = "" then (.error "未提供支付单号", db)
  else
    transaction db (updatePendingTx faults tradeNo expectedPaymentProvider targetStatus db)
      faults.commit

inductive CompletionEffect (completion : Completion) (now : Int) (tradeNo : String)
    (db : Database) : Except Err Unit → Database → Prop where
  | failed (e : Err) : CompletionEffect completion now tradeNo db (.error e) db
  | replayed (topUp : TopUp) (hf : db.topUps.find? tradeNo = some topUp)
      (hs : topUp.status = .success) :
      CompletionEffect completion now tradeNo db (.ok ()) db
  | credited (topUp : TopUp) (quota : Int) (hf : db.topUps.find? tradeNo = some topUp)
      (hp : ∀ p ∈ completion.provider, topUp.paymentProvider = p)
      (hs : topUp.status = .pending) (hc : completion.credit topUp = .ok quota) :
      CompletionEffect completion now tradeNo db (.ok ())
        ((saveTopUp db (completedTopUp now topUp)).updateUser topUp.userId
          (creditUser completion.columns quota))

variable {faults : TopUpFaults} {tradeNo : String} {db db' : Database}

theorem completeTx_effect {cp : Completion} {now : Int}
    (h : completeTx cp now faults tradeNo db = .ok ((), db')) :
    CompletionEffect cp now tradeNo db (.ok ()) db' := by
  unfold completeTx at h
  split at h
  · rename_i topUp _ hf
    split at h
    · cases h
    rename_i hpr
    split at h
    · rename_i hd
      cases h
      exact .replayed topUp hf hd.2
    split at h
    · cases h
    rename_i hpe
    obtain ⟨quota, hc, h⟩ := bind_eq_ok.mp h
    obtain ⟨_, _, h⟩ := bind_eq_ok.mp h
    obtain ⟨_, _, h⟩ := bind_eq_ok.mp h
    obtain ⟨_, _, h⟩ := bind_eq_ok.mp h
    cases h
    refine .credited topUp quota hf ?_ (not_not.mp hpe) hc
    intro p hp
    by_contra ho
    apply hpr
    rw [Option.mem_def.mp hp, Option.any_some, decide_eq_true_eq]
    exact Ne.symm ho
  · cases h

variable {r : Except Err Unit}

theorem gatewayRecharge_effect {cp : Completion} {now : Int}
    (h : gatewayRecharge cp now faults tradeNo db = (r, db')) :
    CompletionEffect cp now tradeNo db r db' := by
  unfold gatewayRecharge at h
  split at h
  · cases h
    exact .failed _
  rcases transaction_cases db (completeTx cp now faults tradeNo db) faults.commit with
    ⟨_, mid, hb, _, he⟩ | ⟨e, he⟩
  · rw [he] at h
    cases h
    exact completeTx_effect hb
  · rw [he] at h
    cases h
    exact .failed _

theorem manualComplete_effect {cfg : Settings}
    (h : manualCompleteTopUp cfg faults tradeNo db = (r, db')) :
    CompletionEffect (manualCompletion cfg) cfg.now tradeNo db r db' := by
  unfold manualCompleteTopUp at h
  split at h
  · cases h
    exact .failed _
  exact transaction_elim h (fun _ _ hb => completeTx_effect hb) .failed

theorem updatePending_effect {expected : PaymentProvider} {target : OrderStatus}
    (h : updatePendingTopUpStatus faults tradeNo expected target db = (r, db')) :
    (∃ e, r = .error e ∧ db' = db) ∨
      ∃ topUp, db.topUps.find? tradeNo = some topUp ∧ topUp.status = .pending ∧ r = .ok () ∧
        db' = saveTopUp db { topUp with status := target } := by
  unfold updatePendingTopUpStatus at h
  split at h
  · cases h
    exact .inl ⟨_, rfl, rfl⟩
  rcases transaction_cases db (updatePendingTx faults tradeNo expected target db)
    faults.commit with ⟨_, mid, hb, _, he⟩ | ⟨e, he⟩
  · rw [he] at h
    cases h
    unfold updatePendingTx at hb
    split at hb
    · rename_i topUp _ hf
      split at hb
      · cases hb
      split at hb
      · cases hb
      rename_i hp
      obtain ⟨_, _, hb⟩ := bind_eq_ok.mp hb
      cases hb
      exact .inr ⟨topUp, hf, not_not.mp hp, rfl, rfl⟩
    · cases hb
  · rw [he] at h
    cases h
    exact .inl ⟨e, rfl, rfl⟩

end DeepRouter.TopUps
