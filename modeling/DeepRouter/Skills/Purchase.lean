import DeepRouter.Billing.Realtime
import DeepRouter.Skills.UsageEvents

/-! # Buying a skill once

Whether the user already holds the entitlement is not asked. -/

namespace DeepRouter.Skills

open GoStrings Atomic KeyedTable

inductive PurchaseStatus where
  | pending
  | succeeded
  | failed
  | abandoned
deriving DecidableEq

structure SkillPurchaseOrder where
  (id skillID : String)
  skillVersionID : Option String
  idempotencyKey : String
  amountUSD : Rat
  currency : String
  quotaCharged : Int
  monetization : MonetizationType
  status : PurchaseStatus

inductive EntitlementSource where
  | oneTimePurchase
  | other (name : String)
deriving DecidableEq

structure SkillEntitlement where
  skillID : String
  source : EntitlementSource
  purchaseOrderID : String

structure UserEnabledSkill where
  skillID : String
  (enabled removed : Bool)
  source : String

structure PurchaseStore where
  quota : Int
  orders : Table SkillPurchaseOrder.idempotencyKey
  entitlements : Table SkillEntitlement.skillID
  granted : ∀ row ∈ entitlements.rows, row.source = .oneTimePurchase
  enabledSkills : Table UserEnabledSkill.skillID
  events : List SkillUsageEvent

namespace PurchaseStore

def hasOneTimeEntitlement (store : PurchaseStore) (skillID : String) : Bool :=
  store.entitlements.rows.any fun row =>
    decide (row.skillID = skillID ∧ row.source = .oneTimePurchase)

def grantOneTimeEntitlement (store : PurchaseStore) (skillID orderID : String) : PurchaseStore :=
  { store with
    entitlements := store.entitlements.insertMissing [⟨skillID, .oneTimePurchase, orderID⟩]
    granted := fun row hr => by
      obtain ho | hn := Table.mem_insertMissing hr
      · exact store.granted row ho
      · rw [List.mem_singleton.mp hn] }

def enableSkillForUser (store : PurchaseStore) (skillID source : String) : PurchaseStore :=
  let source := if source = "" then "marketplace" else source
  let row := match store.enabledSkills.find? skillID with
    | some row => { row with enabled := true, removed := false }
    | none => ⟨skillID, true, false, source⟩
  { store with enabledSkills := store.enabledSkills.put row }

end PurchaseStore

inductive PurchaseError where
  | databaseUnavailable
  | authRequired
  | invalidPayload
  | keyRequired
  | unsupportedStatus
  | unsupportedEntryPoint
  | skillNotFound
  | invalidMonetization
  | noActiveVersion
  | idempotencyConflict
  | insufficientQuota
  | database

structure PurchaseSkillRequest where
  idempotencyKey : String
  (paymentStatus entryPoint : String := "")

inductive PurchaseStatement where
  | findSkill
  | findOrder
  | createOrder
  | debitQuota
  | grantEntitlement
  | enableSkill
  | emitPurchased
  | saveOrder
  | commit
deriving DecidableEq

structure PurchaseCall where
  database : Bool := true
  userID : Int
  userGroup : String
  body : Option PurchaseSkillRequest
  skill : Option Skill
  orderID : String
  failing : List PurchaseStatement := []

def PurchaseCall.fault (call : PurchaseCall) (statement : PurchaseStatement) :
    Option PurchaseError :=
  if statement ∈ call.failing then some .database else none

def oneTimeSkillPriceUSD : Rat := 2

def plusMonthlyPriceUSD : Rat := 199 / 10

def oneTimePurchaseQuotaCharge (quotaPerUnit : Rat) : Int :=
  Billing.roundHalfUp (oneTimeSkillPriceUSD * quotaPerUnit)

def debitOneTimePurchaseQuota (store : PurchaseStore) (quota : Int) : Option PurchaseStore :=
  if quota ≤ 0 then none
  else if quota ≤ store.quota then some { store with quota := store.quota - quota }
  else none

structure PurchaseSkillResponse where
  (orderID skillID : String)
  skillVersionID : Option String
  status : PurchaseStatus
  entitled : Bool
  amountUSD : Rat
  currency : String
  quotaCharged : Int
  monetizationType : MonetizationType

def purchaseResponseFromOrder (order : SkillPurchaseOrder) (entitled : Bool) :
    PurchaseSkillResponse :=
  { orderID := order.id
    skillID := order.skillID
    skillVersionID := order.skillVersionID
    status := order.status
    entitled
    amountUSD := order.amountUSD
    currency := order.currency
    quotaCharged := order.quotaCharged
    monetizationType := order.monetization }

structure PurchaseInput where
  key : String
  unpaid : Option PurchaseStatus
  entryPoint : String

def parsePaymentStatus (status : String) : Except PurchaseError (Option PurchaseStatus) :=
  if status = "" ∨ status = "paid" then .ok none
  else if status = "failed" then .ok (some .failed)
  else if status = "abandoned" then .ok (some .abandoned)
  else .error .unsupportedStatus

def parsePurchase (call : PurchaseCall) : Except PurchaseError PurchaseInput := do
  refuseIf (call.database = false) .databaseUnavailable
  refuseIf (call.userID ≤ 0) .authRequired
  let request ← require call.body .invalidPayload
  let key := trimSpace request.idempotencyKey
  refuseIf (key = "" ∨ 128 < key.utf8ByteSize) .keyRequired
  let unpaid ← parsePaymentStatus (trimSpace request.paymentStatus)
  let entryPoint := trimSpace request.entryPoint
  let entryPoint := if entryPoint = "" then "skill_detail" else entryPoint
  refuseIf (entryPoint ∉ validEntryPoints) .unsupportedEntryPoint
  pure { key, unpaid, entryPoint }

def purchasableSkill (call : PurchaseCall) : Except PurchaseError Skill := do
  attempt (call.fault .findSkill)
  let skill ← require call.skill .skillNotFound
  refuseIf (skill.monetizationType ≠ .oneTime) .invalidMonetization
  refuseIf (trimSpace (skill.activeVersionID.getD "") = "") .noActiveVersion
  pure skill

def newPurchaseOrder (quotaPerUnit : Rat) (call : PurchaseCall) (input : PurchaseInput)
    (skill : Skill) : SkillPurchaseOrder :=
  { id := call.orderID
    skillID := skill.id
    skillVersionID := skill.activeVersionID
    idempotencyKey := input.key
    amountUSD := oneTimeSkillPriceUSD
    currency := "USD"
    quotaCharged := oneTimePurchaseQuotaCharge quotaPerUnit
    monetization := .oneTime
    status := input.unpaid.getD .pending }

def createOrder (call : PurchaseCall) (order : SkillPurchaseOrder) (store : PurchaseStore) :
    Except PurchaseError PurchaseStore := do
  attempt (call.fault .createOrder)
  let orders ← require (store.orders.insert? order) .database
  pure { store with orders }

def completePurchase (call : PurchaseCall) (input : PurchaseInput) (skill : Skill)
    (order : SkillPurchaseOrder) (store : PurchaseStore) : Except PurchaseError PurchaseStore := do
  attempt (call.fault .debitQuota)
  let store ← require (debitOneTimePurchaseQuota store order.quotaCharged) .insufficientQuota
  attempt (call.fault .grantEntitlement)
  let store := store.grantOneTimeEntitlement skill.id order.id
  attempt (call.fault .enableSkill)
  let store := store.enableSkillForUser skill.id "one_time_purchase"
  attempt (call.fault .emitPurchased)
  let event ← (emitSkillPurchased call.userID skill.id skill.activeVersionID
    (groupToPlan call.userGroup) oneTimeSkillPriceUSD plusMonthlyPriceUSD input.entryPoint).mapError
    fun _ => .database
  attempt (call.fault .saveOrder)
  pure { store with
    events := store.events ++ [event]
    orders := store.orders.save { order with status := .succeeded } }

structure PurchaseOutcome where
  response : PurchaseSkillResponse
  referralOrder : Option String

def replayPurchase (order : SkillPurchaseOrder) : PurchaseOutcome :=
  { response := purchaseResponseFromOrder order (order.status = .succeeded)
    referralOrder := if order.status = .succeeded then some order.id else none }

def purchaseBody (quotaPerUnit : Rat) (call : PurchaseCall) (input : PurchaseInput)
    (store : PurchaseStore) : Except PurchaseError (PurchaseOutcome × PurchaseStore) := do
  let skill ← purchasableSkill call
  attempt (call.fault .findOrder)
  match store.orders.find? input.key with
  | some order =>
    refuseIf (order.skillID ≠ skill.id) .idempotencyConflict
    pure (replayPurchase order, store)
  | none =>
    let order := newPurchaseOrder quotaPerUnit call input skill
    let created ← createOrder call order store
    if input.unpaid.isSome then
      pure ({ response := purchaseResponseFromOrder order false, referralOrder := none }, created)
    else
      let paid ← completePurchase call input skill order created
      let order := { order with status := .succeeded }
      pure ({ response := purchaseResponseFromOrder order true, referralOrder := some order.id },
        paid)

def purchaseMarketplaceSkill (quotaPerUnit : Rat) (call : PurchaseCall) (store : PurchaseStore) :
    Except PurchaseError PurchaseOutcome × PurchaseStore :=
  match parsePurchase call with
  | .error e => (.error e, store)
  | .ok input =>
    transaction store (purchaseBody quotaPerUnit call input store) (call.fault .commit)

end DeepRouter.Skills
