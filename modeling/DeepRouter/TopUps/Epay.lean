import DeepRouter.Billing.Debits
import DeepRouter.Referral.Grant
import DeepRouter.TopUps.CreditOnce

/-! # Orders paid through Epay

The callback marks the order and credits the user in two separate statements. -/

namespace DeepRouter.TopUps

open Store Atomic KeyedTable Billing Referral Runs

inductive QuotaDisplayType where
  | usd
  | cny
  | tokens
  | custom
deriving DecidableEq

structure EpaySettings where
  quotaPerUnit : Rat
  quotaDisplayType : QuotaDisplayType
  price : Rat
  minTopUp : Int
  topupGroupRatio : String → Rat
  amountDiscount : Int → Option Rat
  payMethods : List String
  client : Bool

def getPayMoney (cfg : EpaySettings) (amount : Int64) (group : String) : Rat :=
  let dAmount : Rat :=
    if cfg.quotaDisplayType = .tokens then amount.toInt / cfg.quotaPerUnit
    else amount.toInt
  let topupGroupRatio :=
    if cfg.topupGroupRatio group = 0 then 1 else cfg.topupGroupRatio group
  let discount :=
    match cfg.amountDiscount amount.toInt with
    | some ds => if 0 < ds then ds else 1
    | none => 1
  dAmount * cfg.price * topupGroupRatio * discount

def getMinTopup (cfg : EpaySettings) : Int :=
  if cfg.quotaDisplayType = .tokens then intPart (cfg.minTopUp * cfg.quotaPerUnit)
  else cfg.minTopUp

structure EpayRequest where
  amount : Int64
  paymentMethod : String

structure EpayContext where
  userId : Int
  group : Except Err String
  random : String
  now : Int
  (purchase insert : Fault := none)

def orderAmount (cfg : EpaySettings) (amount : Int64) : Int64 :=
  if cfg.quotaDisplayType = .tokens then
    .ofInt (intPart (amount.toInt / cfg.quotaPerUnit))
  else amount

def tradeNoOf (ctx : EpayContext) : String :=
  "USR" ++ toString ctx.userId ++ "NO" ++ ctx.random ++ toString ctx.now

def epayOrder (cfg : EpaySettings) (ctx : EpayContext) (req : EpayRequest) (group : String) :
    TopUp where
  tradeNo := tradeNoOf ctx
  userId := ctx.userId
  amount := orderAmount cfg req.amount
  money := getPayMoney cfg req.amount group
  paymentMethod := req.paymentMethod
  paymentProvider := .epay
  createTime := ctx.now
  completeTime := 0
  status := .pending

/-- A request that is accepted answers with the trade number of its order. -/
def requestEpay (cfg : EpaySettings) (ctx : EpayContext) (req : Option EpayRequest)
    (db : Database) : Except Err String × Database :=
  match req with
  | none => (.error "参数错误", db)
  | some req =>
    if req.amount.toInt < getMinTopup cfg then
      (.error ("充值数量不能小于 " ++ toString (getMinTopup cfg)), db)
    else
      match ctx.group with
      | .error _ => (.error "获取用户分组失败", db)
      | .ok group =>
        if getPayMoney cfg req.amount group < 1 / 100 then (.error "充值金额过低", db)
        else if req.paymentMethod ∉ cfg.payMethods then (.error "支付方式不存在", db)
        else if !cfg.client then (.error "当前管理员未配置支付信息", db)
        else
          match ctx.purchase, ctx.insert, db.topUps.insert? (epayOrder cfg ctx req group) with
          | some _, _, _ => (.error "拉起支付失败", db)
          | none, none, some topUps => (.ok (tradeNoOf ctx), { db with topUps })
          | none, _, _ => (.error "创建订单失败", db)

structure VerifyInfo where
  (serviceTradeNo type : String)
  tradeSuccess : Bool

structure EpayFaults where
  (find update increase : Fault := none)

def amountQuota (quotaPerUnit : Rat) (topUp : TopUp) : Int :=
  intPart (topUp.amount.toInt * quotaPerUnit)

def paidTopUp (type : String) (topUp : TopUp) : TopUp :=
  { topUp with paymentMethod := type, status := .success }

structure PaymentStore where
  db : Database
  referrals : Table ReferralRecord.inviteeId

def PaymentStore.referralStore (s : PaymentStore) : ReferralStore :=
  ⟨s.referrals, fun id => some (s.db.users id).quota⟩

structure GrantCall where
  config : RewardConfig
  now : Int
  find : Fault := none
  answers : List Fault

/-- The result of the grant is only logged. -/
def grantReferralForTopUp (grant : GrantCall) (tradeNo : String) (s : PaymentStore) :
    PaymentStore :=
  match grant.find, s.db.topUps.find? tradeNo with
  | none, some topUp =>
    let granted := (run (referralStep grant.config) (.initial s.referralStore)
      (callEvents ⟨grant.now, topUp.userId, "topup", tradeNo⟩ grant.answers)).store
    ⟨{ s.db with users := fun id => { s.db.users id with quota := (granted.quotas id).getD 0 } },
      granted.records⟩
  | _, _ => s

/-- The part of the callback under the lock of the order. The errors are only logged. -/
def completeEpay (quotaPerUnit : Rat) (faults : EpayFaults) (grant : GrantCall) (info : VerifyInfo)
    (s : PaymentStore) : Except Err Unit × PaymentStore :=
  match faults.find, s.db.topUps.find? info.serviceTradeNo with
  | none, some topUp =>
    if topUp.paymentProvider ≠ .epay then (.error "易支付 订单支付网关不匹配", s)
    else if topUp.status ≠ .pending then (.ok (), s)
    else
      match faults.update with
      | some e => (.error e, s)
      | none =>
        match increaseUserQuota faults.increase topUp.userId (amountQuota quotaPerUnit topUp)
          (saveTopUp s.db (paidTopUp info.type topUp)) with
        | (.error e, db) => (.error e, { s with db })
        | (.ok (), db) => (.ok (), grantReferralForTopUp grant topUp.tradeNo { s with db })
  | _, _ => (.error "易支付 回调订单不存在", s)

/-- The gateway is answered before the order is touched. `none` stands for a callback that is
refused. -/
def epayNotify (quotaPerUnit : Rat) (faults : EpayFaults) (grant : GrantCall)
    (verified : Option VerifyInfo) (s : PaymentStore) : String × PaymentStore :=
  match verified with
  | none => ("fail", s)
  | some info =>
    if info.tradeSuccess then ("success", (completeEpay quotaPerUnit faults grant info s).2)
    else ("success", s)

def adminCompleteTopUp (cfg : Settings) (faults : TopUpFaults) (grant : GrantCall)
    (tradeNo : String) (s : PaymentStore) : Except Err Unit × PaymentStore :=
  if tradeNo = "" then (.error "参数错误", s)
  else
    match manualCompleteTopUp cfg faults tradeNo s.db with
    | (.error e, db) => (.error e, { s with db })
    | (.ok (), db) => (.ok (), grantReferralForTopUp grant tradeNo { s with db })

section

variable (quotaPerUnit : Rat) (faults : EpayFaults) (grant : GrantCall) (info : VerifyInfo)
  {s : PaymentStore} {topUp : TopUp}

def PaymentStore.mark (s : PaymentStore) (row : TopUp) : PaymentStore :=
  { s with db := saveTopUp s.db row }

def PaymentStore.credit (s : PaymentStore) (userId : Int) (columns : User → User) (quota : Int) :
    PaymentStore :=
  { s with db := s.db.updateUser userId (creditUser columns quota) }

theorem completeEpay_pending (hf : s.db.topUps.find? info.serviceTradeNo = some topUp)
    (hp : topUp.paymentProvider = .epay) (hpe : topUp.status = .pending) :
    (¬(faults.find = none ∧ faults.update = none) ∧
      ∃ e, completeEpay quotaPerUnit faults grant info s = (.error e, s)) ∨
    ((faults.find = none ∧ faults.update = none) ∧
      ¬(faults.increase = none ∧ 0 ≤ amountQuota quotaPerUnit topUp) ∧
      ∃ e, completeEpay quotaPerUnit faults grant info s =
        (.error e, s.mark (paidTopUp info.type topUp))) ∨
    ((faults.find = none ∧ faults.update = none) ∧
      (faults.increase = none ∧ 0 ≤ amountQuota quotaPerUnit topUp) ∧
      completeEpay quotaPerUnit faults grant info s =
        (.ok (), grantReferralForTopUp grant topUp.tradeNo ((s.mark (paidTopUp info.type topUp)).credit
          topUp.userId id (amountQuota quotaPerUnit topUp)))) := by
  unfold completeEpay
  rw [hf]
  cases hl : faults.find with
  | some e =>
    refine .inl ⟨?_, _, rfl⟩
    rintro ⟨h, _⟩
    cases h
  | none =>
    cases hu : faults.update with
    | some e =>
      refine .inl ⟨?_, e, ?_⟩
      · rintro ⟨_, h⟩
        cases h
      · simp [hp, hpe]
    | none =>
      refine .inr ?_
      simp only [hp, hpe, ne_eq, not_true, if_false, increaseUserQuota, true_and]
      rcases updateQuota_cases faults.increase (amountQuota quotaPerUnit topUp) _
        (saveTopUp s.db (paidTopUp info.type topUp)) with ⟨hi, hn, hd⟩ | ⟨hr, e, hd⟩
      · rw [hd]
        exact .inr ⟨⟨hi, hn⟩, rfl⟩
      · rw [hd]
        exact .inl ⟨hr, e, rfl⟩

theorem completeEpay_ok {s' : PaymentStore}
    (hfi : s.db.topUps.find? info.serviceTradeNo = some topUp) (hp : topUp.status = .pending)
    (h : completeEpay quotaPerUnit faults grant info s = (.ok (), s')) :
    topUp.paymentProvider = .epay ∧ 0 ≤ amountQuota quotaPerUnit topUp ∧
      s' = grantReferralForTopUp grant topUp.tradeNo ((s.mark (paidTopUp info.type topUp)).credit
        topUp.userId id (amountQuota quotaPerUnit topUp)) := by
  by_cases hpr : topUp.paymentProvider = .epay
  · rcases completeEpay_pending quotaPerUnit faults grant info hfi hpr hp with
      ⟨_, e, he⟩ | ⟨_, _, e, he⟩ | ⟨_, hn, he⟩
    · rw [he] at h
      cases h
    · rw [he] at h
      cases h
    · rw [he] at h
      cases h
      exact ⟨hpr, hn.2, rfl⟩
  · unfold completeEpay at h
    rw [hfi] at h
    split at h
    · rename_i found _ hf
      cases hf
      rw [if_pos hpr] at h
      cases h
    · cases h

theorem completeEpay_closed (hf : s.db.topUps.find? info.serviceTradeNo = some topUp)
    (hc : topUp.status ≠ .pending) : (completeEpay quotaPerUnit faults grant info s).2 = s := by
  unfold completeEpay
  rw [hf]
  cases faults.find with
  | some e => rfl
  | none =>
    dsimp only
    rw [if_pos hc]
    split
    · rfl
    · rfl

end

end DeepRouter.TopUps
