import DeepRouter.Subscription.Plan

/-! # Creating and updating plans -/

namespace DeepRouter.Subscription

open Store GoStrings Atomic KeyedTable

def ResetPeriod.name : ResetPeriod → String
  | .never => "never"
  | .daily => "daily"
  | .weekly => "weekly"
  | .monthly => "monthly"
  | .custom => "custom"

/-- The price is read by no other modelled function. -/
structure PlanRequest where
  plan : SubscriptionPlan
  priceAmount : Rat

/-- `groups` are the names in the group ratios. -/
def checkPlan (groups : String → Bool) (request : PlanRequest) : Except Err SubscriptionPlan := do
  let plan := request.plan
  refuseIf (trimSpace plan.title = "") "套餐标题不能为空"
  refuseIf (request.priceAmount < 0) "价格不能为负数"
  refuseIf (9999 < request.priceAmount) "价格不能超过9999"
  let durationUnit := if plan.durationUnit = .other "" then .month else plan.durationUnit
  let durationValue :=
    if plan.durationValue ≤ 0 ∧ durationUnit ≠ .custom then 1 else plan.durationValue
  refuseIf (plan.maxPurchasePerUser < 0) "购买上限不能为负数"
  refuseIf (plan.totalAmount < 0) "总额度不能为负数"
  let upgradeGroup := trimSpace plan.upgradeGroup
  refuseIf (upgradeGroup ≠ "" ∧ groups upgradeGroup = false) "升级分组不存在"
  let period := normalizeResetPeriod plan.quotaResetPeriod
  refuseIf (period = .custom ∧ plan.quotaResetCustomSeconds ≤ 0) "自定义重置周期需大于0秒"
  .ok { plan with durationUnit, durationValue, upgradeGroup, quotaResetPeriod := ResetPeriod.name period }

abbrev PlanTable := Table SubscriptionPlan.id

/-- `newId` is the primary key the database assigns. -/
def adminCreateSubscriptionPlan (groups : String → Bool) (fault : Fault) (newId : Int)
    (request : PlanRequest) (plans : PlanTable) : Except Err (SubscriptionPlan × PlanTable) := do
  let plan ← checkPlan groups request
  attempt fault
  let plan := { plan with id := newId }
  let plans ← require (if 0 < newId then plans.insert? plan else none) "primary key not assigned"
  .ok (plan, plans)

/-- An update of an id without a row changes nothing and is no error. -/
def adminUpdateSubscriptionPlan (groups : String → Bool) (fault : Fault) (id : Int)
    (request : PlanRequest) (plans : PlanTable) : Except Err PlanTable := do
  refuseIf (id ≤ 0) "无效的ID"
  let plan ← checkPlan groups request
  attempt fault
  .ok (plans.save { plan with id })

variable {groups : String → Bool} {request : PlanRequest}

theorem adminCreateSubscriptionPlan_ok {fault : Fault} {newId : Int} {plans plans' : PlanTable}
    {plan : SubscriptionPlan}
    (h : adminCreateSubscriptionPlan groups fault newId request plans = .ok (plan, plans')) :
    0 < newId ∧ plan.id = newId ∧ plans.insert? plan = some plans' := by
  obtain ⟨checked, _, h⟩ := bind_eq_ok.mp h
  obtain ⟨_, _, h⟩ := bind_eq_ok.mp h
  obtain ⟨stored, hin, h⟩ := bind_eq_ok.mp h
  cases h
  have hin := require_eq_ok.mp hin
  split at hin
  · rename_i hi
    exact ⟨hi, rfl, hin⟩
  · cases hin

theorem normalizeResetPeriod_name (period : ResetPeriod) :
    normalizeResetPeriod (ResetPeriod.name period) = period := by
  cases period <;> decide

structure SameReset (a b : SubscriptionPlan) : Prop where
  period : normalizeResetPeriod a.quotaResetPeriod = normalizeResetPeriod b.quotaResetPeriod
  seconds : a.quotaResetCustomSeconds = b.quotaResetCustomSeconds

theorem checkPlan_sameReset {plan : SubscriptionPlan} (h : checkPlan groups request = .ok plan) :
    SameReset plan request.plan := by
  iterate 7 obtain ⟨_, _, h⟩ := bind_eq_ok.mp h
  cases h
  exact ⟨normalizeResetPeriod_name _, rfl⟩

theorem adminUpdateSubscriptionPlan_ok {fault : Fault} {id : Int} {plans plans' : PlanTable}
    (h : adminUpdateSubscriptionPlan groups fault id request plans = .ok plans') :
    0 < id ∧ ∃ plan, plan.id = id ∧ SameReset plan request.plan ∧ plans' = plans.save plan := by
  obtain ⟨_, hi, h⟩ := bind_eq_ok.mp h
  obtain ⟨checked, hc, h⟩ := bind_eq_ok.mp h
  obtain ⟨_, _, h⟩ := bind_eq_ok.mp h
  cases h
  have hs := checkPlan_sameReset hc
  exact ⟨Int.not_le.mp (refuseIf_eq_ok.mp hi), { checked with id }, rfl,
    ⟨hs.period, hs.seconds⟩, rfl⟩

end DeepRouter.Subscription
