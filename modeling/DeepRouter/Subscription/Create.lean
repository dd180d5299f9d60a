import DeepRouter.Subscription.Plan

/-! # Creating a subscription from a plan -/

namespace DeepRouter.Subscription

open Store GoStrings Atomic KeyedTable

structure CreateFaults where
  (count readGroup writeGroup create : Fault := none)

def countByPlan (userId planId : Int) (db : Database) : Nat :=
  db.subs.rows.countP (fun sub => sub.userId = userId ∧ sub.planId = planId)

def setGroup (db : Database) (userId : Int) (group : String) : Database :=
  db.updateUser userId (fun user => { user with group })

def upgradeUserGroupTx (faults : CreateFaults) (userId : Int) (upgradeGroup : String)
    (db : Database) : Except Err (String × Database) :=
  if upgradeGroup = "" then .ok ("", db)
  else do
    attempt faults.readGroup
    if (db.users userId).group ≠ upgradeGroup then do
      attempt faults.writeGroup
      .ok ((db.users userId).group, setGroup db userId upgradeGroup)
    else .ok ("", db)

def checkPurchaseLimit (faults : CreateFaults) (userId : Int) (plan : SubscriptionPlan)
    (db : Database) : Except Err Unit :=
  if 0 < plan.maxPurchasePerUser then do
    attempt faults.count
    if plan.maxPurchasePerUser ≤ countByPlan userId plan.id db then .error "已达到该套餐购买上限"
    else .ok ()
  else .ok ()

def newSubscription (env : Env) (id userId : Int) (plan : SubscriptionPlan) (source : String)
    (endUnix : Int) (prevGroup : String) : UserSubscription :=
  let nextReset := calcNextResetTime env.calendar env.now plan endUnix
  { id, userId, planId := plan.id, amountTotal := plan.totalAmount, amountUsed := 0,
    startTime := env.now, endTime := endUnix, status := .active, source,
    lastResetTime := if 0 < nextReset then env.now else 0, nextResetTime := nextReset,
    upgradeGroup := trimSpace plan.upgradeGroup, prevUserGroup := prevGroup }

/-- `newId` is the primary key the database assigns. -/
def createUserSubscriptionFromPlanTx (env : Env) (faults : CreateFaults) (newId userId : Int)
    (plan : SubscriptionPlan) (source : String) (db : Database) :
    Except Err (UserSubscription × Database) :=
  if plan.id = 0 then .error "invalid plan"
  else if userId ≤ 0 then .error "invalid user id"
  else do
    checkPurchaseLimit faults userId plan db
    let endUnix ← calcPlanEndTime env.calendar env.now plan
    let (prevGroup, db) ← upgradeUserGroupTx faults userId (trimSpace plan.upgradeGroup) db
    attempt faults.create
    let sub := newSubscription env newId userId plan source endUnix prevGroup
    let subs ← require (if 0 < newId then db.subs.insert? sub else none) "primary key not assigned"
    .ok (sub, { db with subs })

variable {faults : CreateFaults}

theorem upgradeUserGroupTx_ok {uid : Int} {upgradeGroup pg : String} {db db' : Database}
    (h : upgradeUserGroupTx faults uid upgradeGroup db = .ok (pg, db')) :
    (upgradeGroup = "" ∧ pg = "" ∧ db' = db) ∨
    (upgradeGroup ≠ "" ∧ (db.users uid).group = upgradeGroup ∧ pg = "" ∧ db' = db) ∨
    (upgradeGroup ≠ "" ∧ (db.users uid).group ≠ upgradeGroup ∧
      pg = (db.users uid).group ∧ db' = setGroup db uid upgradeGroup) := by
  unfold upgradeUserGroupTx at h
  split at h
  · rename_i he
    cases h
    exact .inl ⟨he, rfl, rfl⟩
  rename_i hg
  obtain ⟨_, _, h⟩ := bind_eq_ok.mp h
  split at h
  · rename_i hd
    obtain ⟨_, _, h⟩ := bind_eq_ok.mp h
    cases h
    exact .inr (.inr ⟨hg, hd, rfl, rfl⟩)
  · rename_i hs
    cases h
    exact .inr (.inl ⟨hg, not_not.mp hs, rfl, rfl⟩)

variable {plan : SubscriptionPlan}

theorem checkPurchaseLimit_ok {uid : Int}
    {db : Database} {u : Unit} (h : checkPurchaseLimit faults uid plan db = .ok u) :
    0 < plan.maxPurchasePerUser → countByPlan uid plan.id db < plan.maxPurchasePerUser := by
  intro hl
  rw [checkPurchaseLimit, if_pos hl] at h
  obtain ⟨_, _, h⟩ := bind_eq_ok.mp h
  split at h
  · cases h
  · rename_i hc
    exact Int.not_le.mp hc

structure Created (env : Env) (newId userId : Int) (plan : SubscriptionPlan) (source : String)
    (endUnix : Int) (prevGroup : String) (db mid : Database) (sub : UserSubscription)
    (db' : Database) : Prop where
  plan_ne : plan.id ≠ 0
  user_pos : 0 < userId
  id_pos : 0 < newId
  limit : 0 < plan.maxPurchasePerUser → countByPlan userId plan.id db < plan.maxPurchasePerUser
  ends : calcPlanEndTime env.calendar env.now plan = .ok endUnix
  group : (trimSpace plan.upgradeGroup = "" ∧ prevGroup = "" ∧ mid = db) ∨
    (trimSpace plan.upgradeGroup ≠ "" ∧ (db.users userId).group = trimSpace plan.upgradeGroup ∧
      prevGroup = "" ∧ mid = db) ∨
    (trimSpace plan.upgradeGroup ≠ "" ∧ (db.users userId).group ≠ trimSpace plan.upgradeGroup ∧
      prevGroup = (db.users userId).group ∧
      mid = setGroup db userId (trimSpace plan.upgradeGroup))
  row : sub = newSubscription env newId userId plan source endUnix prevGroup
  inserted : ∃ subs, db.subs.insert? sub = some subs ∧ db' = { mid with subs }

theorem create_ok {env : Env} {newId uid : Int}
    {src : String} {db db' : Database} {sub : UserSubscription}
    (h : createUserSubscriptionFromPlanTx env faults newId uid plan src db = .ok (sub, db')) :
    ∃ eu pg mid,
      Created env newId uid plan src eu pg db mid sub db' := by
  unfold createUserSubscriptionFromPlanTx at h
  split at h
  · cases h
  rename_i hp
  split at h
  · cases h
  rename_i hu
  obtain ⟨_, hl, h⟩ := bind_eq_ok.mp h
  obtain ⟨eu, he, h⟩ := bind_eq_ok.mp h
  obtain ⟨⟨pg, mid⟩, hg, h⟩ := bind_eq_ok.mp h
  obtain ⟨_, _, h⟩ := bind_eq_ok.mp h
  obtain ⟨subs, hin, h⟩ := bind_eq_ok.mp h
  cases h
  have hc := upgradeUserGroupTx_ok hg
  have hs : mid.subs = db.subs := by
    rcases hc with ⟨_, _, rfl⟩ | ⟨_, _, _, rfl⟩ | ⟨_, _, _, rfl⟩ <;> rfl
  have hin := require_eq_ok.mp hin
  split at hin
  · rename_i hi
    rw [hs] at hin
    exact ⟨eu, pg, mid, hp, by omega, hi, checkPurchaseLimit_ok hl, he, hc, rfl, subs, hin, rfl⟩
  · cases hin

theorem Created.frame {env : Env} {newId uid : Int} {src : String}
    {eu : Int} {pg : String} {db mid db' : Database} {sub : UserSubscription}
    (h : Created env newId uid plan src eu pg db mid sub db') :
    db'.subs.rows = db.subs.rows ++ [sub] ∧ sub.userId = uid ∧ sub.planId = plan.id ∧
      db'.orders = db.orders ∧ db'.topUps = db.topUps := by
  obtain ⟨subs, hi, hDb'⟩ := h.inserted
  have hm : mid.orders = db.orders ∧ mid.topUps = db.topUps := by
    rcases h.group with ⟨_, _, hm⟩ | ⟨_, _, _, hm⟩ | ⟨_, _, _, hm⟩
    · rw [hm]
      exact ⟨rfl, rfl⟩
    · rw [hm]
      exact ⟨rfl, rfl⟩
    · rw [hm]
      exact ⟨rfl, rfl⟩
  refine ⟨?_, ?_, ?_, ?_, ?_⟩
  · rw [hDb']
    exact (Table.insert?_eq_some hi).2
  · rw [h.row]
    rfl
  · rw [h.row]
    rfl
  · rw [hDb']
    exact hm.1
  · rw [hDb']
    exact hm.2

end DeepRouter.Subscription
