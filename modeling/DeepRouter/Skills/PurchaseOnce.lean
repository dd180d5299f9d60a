import DeepRouter.Skills.Purchase

/-! # What a user pays for a skill -/

namespace DeepRouter.Skills

open GoStrings Atomic KeyedTable Runs Table PurchaseStore

variable {store : PurchaseStore}

theorem hasOneTimeEntitlement_iff {sid : String} :
    store.hasOneTimeEntitlement sid = true ↔ (store.entitlements.find? sid).isSome = true := by
  simp only [hasOneTimeEntitlement, List.any_eq_true, decide_eq_true_eq, Table.find?,
    List.find?_isSome]
  constructor
  · rintro ⟨row, hr, hs, _⟩
    exact ⟨row, hr, hs⟩
  · rintro ⟨row, hr, hs⟩
    exact ⟨row, hr, hs, store.granted row hr⟩

theorem hasOneTimeEntitlement_grant (store : PurchaseStore) (sid orderID other : String) :
    (store.grantOneTimeEntitlement sid orderID).hasOneTimeEntitlement other = true ↔
      store.hasOneTimeEntitlement other = true ∨ sid = other := by
  rw [hasOneTimeEntitlement_iff, hasOneTimeEntitlement_iff]
  simp only [grantOneTimeEntitlement, find?_insertMissing, Option.isSome_or, Bool.or_eq_true,
    List.find?_isSome, List.mem_singleton, exists_eq_left, decide_eq_true_eq]

structure Paid (order : SkillPurchaseOrder) (store after : PurchaseStore) : Prop where
  fresh : store.orders.find? order.idempotencyKey = none
  positive : 0 < order.quotaCharged
  quota : after.quota = store.quota - order.quotaCharged
  orders : ∀ row, row ∈ after.orders.rows ↔
    row ∈ store.orders.rows ∨ row = { order with status := .succeeded }
  entitled : ∀ skillID, after.hasOneTimeEntitlement skillID = true ↔
    store.hasOneTimeEntitlement skillID = true ∨ order.skillID = skillID
  event : ∃ event row, Written event row ∧ after.events = store.events ++ [row]

theorem debitOneTimePurchaseQuota_eq_some {store debited : PurchaseStore} {quota : Int}
    (h : debitOneTimePurchaseQuota store quota = some debited) :
    0 < quota ∧ debited = { store with quota := store.quota - quota } := by
  unfold debitOneTimePurchaseQuota at h
  split at h
  · cases h
  split at h
  · cases h
    exact ⟨by omega, rfl⟩
  · cases h

variable {call : PurchaseCall} {order : SkillPurchaseOrder}

theorem createOrder_ok
    {store created : PurchaseStore} (h : createOrder call order store = .ok created) :
    ∃ orders, store.orders.insert? order = some orders ∧ created = { store with orders } := by
  simp only [createOrder, bind_eq_ok, require_eq_ok] at h
  obtain ⟨_, _, orders, hi, hc⟩ := h
  cases hc
  exact ⟨orders, hi, rfl⟩

variable {input : PurchaseInput}

theorem completePurchase_paid {skill : Skill} {store created after : PurchaseStore}
    (hc : createOrder call order store = .ok created) (hs : order.skillID = skill.id)
    (h : completePurchase call input skill order created = .ok after) : Paid order store after := by
  obtain ⟨orders, hi, rfl⟩ := createOrder_ok hc
  simp only [completePurchase, bind_eq_ok, require_eq_ok] at h
  obtain ⟨_, _, debited, hd, _, _, _, _, _, _, row, hr, _, _, ha⟩ := h
  obtain ⟨hp, rfl⟩ := debitOneTimePurchaseQuota_eq_some hd
  cases ha
  refine ⟨(insert?_eq_some hi).1, hp, ?_, ?_, ?_, ?_⟩
  · rfl
  · intro row
    exact mem_save_insert? hi rfl
  · intro skillID
    rw [hs]
    exact hasOneTimeEntitlement_grant _ skill.id order.id skillID
  · exact ⟨_, row, emitSkillUsageEvent_written (mapError_eq_ok.mp hr), rfl⟩

theorem parsePaymentStatus_ne_succeeded {text : String} {st : PurchaseStatus}
    (h : parsePaymentStatus text = .ok (some st)) : st ≠ .succeeded := by
  unfold parsePaymentStatus at h
  split at h
  · cases h
  split at h
  · cases h
    exact nofun
  split at h
  · cases h
    exact nofun
  · cases h

theorem parsePurchase_unpaid {st : PurchaseStatus} (h : parsePurchase call = .ok input)
    (hu : input.unpaid = some st) : st ≠ .succeeded := by
  simp only [parsePurchase, bind_eq_ok] at h
  obtain ⟨_, _, _, _, request, _, _, _, unpaid, hs, _, _, hi⟩ := h
  cases hi
  rw [show unpaid = some st from hu] at hs
  exact parsePaymentStatus_ne_succeeded hs

theorem purchasableSkill_ok {skill : Skill}
    (h : purchasableSkill call = .ok skill) : call.skill = some skill := by
  simp only [purchasableSkill, bind_eq_ok, require_eq_ok] at h
  obtain ⟨_, _, found, hf, _, _, _, _, hs⟩ := h
  cases hs
  exact hf

inductive PurchaseCall.Does (quotaPerUnit : Rat) (call : PurchaseCall) (store : PurchaseStore) :
    Except PurchaseError PurchaseOutcome × PurchaseStore → Prop
  | refused (e : PurchaseError) : Does quotaPerUnit call store (.error e, store)
  | replayed (input : PurchaseInput) (order : SkillPurchaseOrder)
      (hp : parsePurchase call = .ok input)
      (hf : store.orders.find? input.key = some order) :
      Does quotaPerUnit call store (.ok (replayPurchase order), store)
  | recorded (input : PurchaseInput) (order : SkillPurchaseOrder)
      (orders : Table SkillPurchaseOrder.idempotencyKey) (outcome : PurchaseOutcome)
      (hp : parsePurchase call = .ok input) (hSt : order.status ≠ .succeeded)
      (hi : store.orders.insert? order = some orders) :
      Does quotaPerUnit call store (.ok outcome, { store with orders })
  | paid (input : PurchaseInput) (skill : Skill) (after : PurchaseStore) (outcome : PurchaseOutcome)
      (hp : parsePurchase call = .ok input) (hu : input.unpaid = none)
      (hs : call.skill = some skill)
      (hpa : Paid (newPurchaseOrder quotaPerUnit call input skill) store after) :
      Does quotaPerUnit call store (.ok outcome, after)

variable {quotaPerUnit : Rat}

theorem purchaseBody_does
    {store after : PurchaseStore} {oc : PurchaseOutcome} (hp : parsePurchase call = .ok input)
    (h : purchaseBody quotaPerUnit call input store = .ok (oc, after)) :
    call.Does quotaPerUnit store (.ok oc, after) := by
  simp only [purchaseBody, bind_eq_ok] at h
  obtain ⟨skill, hsk, _, _, h⟩ := h
  split at h
  · rename_i order hf
    simp only [bind_eq_ok] at h
    obtain ⟨_, _, hs⟩ := h
    cases hs
    exact .replayed input order hp hf
  · simp only [bind_eq_ok] at h
    obtain ⟨created, hcr, h⟩ := h
    split at h
    · rename_i hu
      cases h
      obtain ⟨status, hSt⟩ := Option.isSome_iff_exists.mp hu
      obtain ⟨orders, hi, rfl⟩ := createOrder_ok hcr
      refine .recorded input _ orders _ hp ?_ hi
      rw [newPurchaseOrder, hSt, Option.getD_some]
      exact parsePurchase_unpaid hp hSt
    · rename_i hu
      simp only [bind_eq_ok] at h
      obtain ⟨paid, hc, h⟩ := h
      cases h
      exact .paid input skill _ _ hp (Option.not_isSome_iff_eq_none.mp hu)
        (purchasableSkill_ok hsk) (completePurchase_paid hcr rfl hc)

theorem purchaseMarketplaceSkill_does (quotaPerUnit : Rat) (call : PurchaseCall)
    (store : PurchaseStore) :
    call.Does quotaPerUnit store (purchaseMarketplaceSkill quotaPerUnit call store) := by
  unfold purchaseMarketplaceSkill
  split
  · exact .refused _
  rename_i input hp
  obtain ⟨outcome, after, hb, _, he⟩ | ⟨e, he⟩ :=
    transaction_cases store (purchaseBody quotaPerUnit call input store) (call.fault .commit)
  · rw [he]
    exact purchaseBody_does hp hb
  · rw [he]
    exact .refused e

inductive PurchaseOp where
  | purchase (call : PurchaseCall)
  | wallet (quota : Int)

def PurchaseStore.step (quotaPerUnit : Rat) (store : PurchaseStore) : PurchaseOp → PurchaseStore
  | .purchase call => (purchaseMarketplaceSkill quotaPerUnit call store).2
  | .wallet quota => { store with quota }

def debited (quotaPerUnit : Rat) (store : PurchaseStore) : PurchaseOp → Int
  | .purchase call => store.quota - (purchaseMarketplaceSkill quotaPerUnit call store).2.quota
  | .wallet _ => 0

def PurchaseOp.HasKey (key : String) : PurchaseOp → Prop
  | .purchase call => (parsePurchase call).toOption.map PurchaseInput.key = some key
  | .wallet _ => False

instance (key : String) : DecidablePred (PurchaseOp.HasKey key)
  | .purchase call =>
    inferInstanceAs (Decidable ((parsePurchase call).toOption.map PurchaseInput.key = some key))
  | .wallet _ => .isFalse id

def PurchaseOp.HasSkill (skillID : String) : PurchaseOp → Prop
  | .purchase call => call.skill.map Skill.id = some skillID
  | .wallet _ => False

instance (skillID : String) : DecidablePred (PurchaseOp.HasSkill skillID)
  | .purchase call => inferInstanceAs (Decidable (call.skill.map Skill.id = some skillID))
  | .wallet _ => .isFalse id

def PurchaseOp.PaysAnew (store : PurchaseStore) : PurchaseOp → Prop
  | .purchase call => ∃ input ∈ (parsePurchase call).toOption,
      input.unpaid = none ∧ store.orders.find? input.key = none
  | .wallet _ => False

instance (store : PurchaseStore) (op : PurchaseOp) : Decidable (op.PaysAnew store) := by
  unfold PurchaseOp.PaysAnew
  split <;> infer_instance

structure Unpaid (store after : PurchaseStore) : Prop where
  stays : ∀ order ∈ store.orders.rows, order ∈ after.orders.rows
  succeeded : ∀ order ∈ after.orders.rows, order.status = .succeeded → order ∈ store.orders.rows
  entitled : ∀ skillID, after.hasOneTimeEntitlement skillID = store.hasOneTimeEntitlement skillID

theorem Unpaid.refl (store : PurchaseStore) : Unpaid store store :=
  ⟨fun _ h => h, fun _ h _ => h, fun _ => rfl⟩

theorem PurchaseStore.step_cases (quotaPerUnit : Rat) (store : PurchaseStore) (op : PurchaseOp) :
    (debited quotaPerUnit store op = 0 ∧ Unpaid store (store.step quotaPerUnit op)) ∨
      ∃ order, op.HasKey order.idempotencyKey ∧ op.HasSkill order.skillID ∧ op.PaysAnew store ∧
        order.quotaCharged = oneTimePurchaseQuotaCharge quotaPerUnit ∧
        debited quotaPerUnit store op = order.quotaCharged ∧
        Paid order store (store.step quotaPerUnit op) := by
  cases op with
  | wallet quota => exact .inl ⟨rfl, fun _ h => h, fun _ h _ => h, fun _ => rfl⟩
  | purchase call =>
    have hd := purchaseMarketplaceSkill_does quotaPerUnit call store
    simp only [debited, step, PurchaseOp.HasKey, PurchaseOp.HasSkill, PurchaseOp.PaysAnew]
    generalize purchaseMarketplaceSkill quotaPerUnit call store = result at hd
    cases hd with
    | refused e => exact .inl ⟨Int.sub_self _, .refl store⟩
    | replayed input order hp hf => exact .inl ⟨Int.sub_self _, .refl store⟩
    | recorded input order orders outcome hp hSt hi =>
      refine .inl ⟨Int.sub_self _, ?_, ?_, fun _ => rfl⟩
      · intro row hr
        exact (mem_insert? hi).mpr (.inl hr)
      intro row hr hs
      obtain ho | rfl := (mem_insert? hi).mp hr
      · exact ho
      · exact absurd hs hSt
    | paid input skill after outcome hp hu hsk hpa =>
      refine .inr ⟨_, ?_, ?_, ⟨input, ?_, hu, hpa.fresh⟩, rfl, ?_, hpa⟩
      · rw [hp]
        rfl
      · rw [hsk]
        rfl
      · rw [hp]
        rfl
      · rw [hpa.quota]
        omega

def debitsUnder (quotaPerUnit : Rat) (key : String) (store : PurchaseStore) (op : PurchaseOp) :
    Bool :=
  decide (op.HasKey key) && decide (debited quotaPerUnit store op ≠ 0)

def debitedFor (quotaPerUnit : Rat) (skillID : String) (store : PurchaseStore) (op : PurchaseOp) :
    Int :=
  if op.HasSkill skillID then debited quotaPerUnit store op else 0

structure DebitComplete (quotaPerUnit : Rat) (store : PurchaseStore) (op : PurchaseOp) : Prop where
  order : debited quotaPerUnit store op ≠ 0 → ∃ order ∈ (store.step quotaPerUnit op).orders.rows,
    order.status = .succeeded ∧ order ∉ store.orders.rows ∧
      order.quotaCharged = debited quotaPerUnit store op ∧
      (store.step quotaPerUnit op).hasOneTimeEntitlement order.skillID = true
  succeeded : ∀ order ∈ (store.step quotaPerUnit op).orders.rows, order.status = .succeeded →
    order ∉ store.orders.rows → debited quotaPerUnit store op ≠ 0
  entitled : ∀ skillID, (store.step quotaPerUnit op).hasOneTimeEntitlement skillID = true →
    store.hasOneTimeEntitlement skillID = false → debited quotaPerUnit store op ≠ 0

def ErrorKeeps (quotaPerUnit : Rat) (store : PurchaseStore) : PurchaseOp → Prop
  | .purchase call => ∀ e, (purchaseMarketplaceSkill quotaPerUnit call store).1 = .error e →
      store.step quotaPerUnit (.purchase call) = store
  | .wallet _ => True

def PaidOnce (skillID : String) (store : PurchaseStore) (op : PurchaseOp) : Prop :=
  ¬(op.HasSkill skillID ∧ op.PaysAnew store ∧ store.hasOneTimeEntitlement skillID = true)
deriving Decidable

theorem Paid.not_mem {store after : PurchaseStore}
    (h : Paid order store after) : { order with status := .succeeded } ∉ store.orders.rows :=
  fun hr => find?_eq_none_iff.mp h.fresh _ hr rfl

theorem debitComplete (quotaPerUnit : Rat) (store : PurchaseStore) (op : PurchaseOp) :
    DebitComplete quotaPerUnit store op := by
  obtain ⟨hz, hu⟩ | ⟨order, _, _, _, _, hd, hp⟩ := store.step_cases quotaPerUnit op
  · refine ⟨fun hd => absurd hz hd, ?_, ?_⟩
    · intro order hr hs hne
      exact absurd (hu.succeeded order hr hs) hne
    · intro skillID hh hno
      rw [hu.entitled, hno] at hh
      cases hh
  · have hn : debited quotaPerUnit store op ≠ 0 := by
      rw [hd]
      exact Int.ne_of_gt hp.positive
    refine ⟨fun _ => ?_, fun _ _ _ _ => hn, fun _ _ _ => hn⟩
    exact ⟨_, (hp.orders _).mpr (.inr rfl), rfl, hp.not_mem, hd.symm,
      (hp.entitled _).mpr (.inr rfl)⟩

theorem errorKeeps (quotaPerUnit : Rat) (store : PurchaseStore) (op : PurchaseOp) :
    ErrorKeeps quotaPerUnit store op := by
  cases op with
  | wallet quota => trivial
  | purchase call =>
    intro e he
    have hd := purchaseMarketplaceSkill_does quotaPerUnit call store
    rw [step]
    generalize purchaseMarketplaceSkill quotaPerUnit call store = result at hd he
    cases hd with
    | refused e => rfl
    | replayed input order hp hf => rfl
    | recorded input order orders outcome hp hSt hi => cases he
    | paid input skill after outcome hp hu hs hpa => cases he

variable {op : PurchaseOp}

theorem order_key_step
    {key : String} (h : ∃ order ∈ store.orders.rows, order.idempotencyKey = key) :
    ∃ order ∈ (store.step quotaPerUnit op).orders.rows, order.idempotencyKey = key := by
  obtain ⟨order, hr, hk⟩ := h
  obtain ⟨_, hu⟩ | ⟨_, _, _, _, _, _, hp⟩ := store.step_cases quotaPerUnit op
  · exact ⟨order, hu.stays order hr, hk⟩
  · exact ⟨order, (hp.orders order).mpr (.inl hr), hk⟩

theorem PurchaseOp.HasKey.unique {key key' : String} (h : op.HasKey key)
    (h' : op.HasKey key') : key = key' := by
  cases op with
  | wallet quota => exact h.elim
  | purchase call => exact Option.some.inj (Eq.trans (Eq.symm h) h')

theorem PurchaseOp.HasSkill.unique {skillID skillID' : String}
    (h : op.HasSkill skillID) (h' : op.HasSkill skillID') : skillID = skillID' := by
  cases op with
  | wallet quota => exact h.elim
  | purchase call => exact Option.some.inj (Eq.trans (Eq.symm h) h')

theorem debitsUnder_tally_le_one (quotaPerUnit : Rat) (key : String) (store : PurchaseStore)
    (ops : List PurchaseOp) :
    tally (step quotaPerUnit) (debitsUnder quotaPerUnit key) store ops ≤ 1 := by
  refine (tally_le_one (I := fun _ => True)
    (P := fun store => ∃ order ∈ store.orders.rows, order.idempotencyKey = key)
    (fun _ _ _ => trivial) (fun _ _ _ => order_key_step) ?_ trivial ops).1
  intro store op _ hd
  rw [debitsUnder, Bool.and_eq_true, decide_eq_true_eq, decide_eq_true_eq] at hd
  obtain ⟨hk, hde⟩ := hd
  obtain ⟨hz, _⟩ | ⟨order, ho, _, _, _, _, hp⟩ := store.step_cases quotaPerUnit op
  · exact absurd hz hde
  obtain rfl := hk.unique ho
  constructor
  · rintro ⟨row, hr, hs⟩
    exact find?_eq_none_iff.mp hp.fresh row hr hs
  · exact ⟨_, (hp.orders _).mpr (.inr rfl), rfl⟩

theorem hasOneTimeEntitlement_step {sid : String} (h : store.hasOneTimeEntitlement sid = true) :
    (store.step quotaPerUnit op).hasOneTimeEntitlement sid = true := by
  obtain ⟨_, hu⟩ | ⟨_, _, _, _, _, _, hp⟩ := store.step_cases quotaPerUnit op
  · rw [hu.entitled, h]
  · exact (hp.entitled sid).mpr (.inl h)

theorem debitedFor_cases (quotaPerUnit : Rat) (sid : String) (store : PurchaseStore)
    (op : PurchaseOp) :
    debitedFor quotaPerUnit sid store op = 0 ∨
      op.HasSkill sid ∧ op.PaysAnew store ∧
        debitedFor quotaPerUnit sid store op = oneTimePurchaseQuotaCharge quotaPerUnit ∧
        (store.step quotaPerUnit op).hasOneTimeEntitlement sid = true := by
  rw [debitedFor]
  split
  · rename_i hs
    obtain ⟨hz, _⟩ | ⟨order, _, ho, hp, hc, hd, hpa⟩ := store.step_cases quotaPerUnit op
    · exact .inl hz
    · obtain rfl := hs.unique ho
      exact .inr ⟨hs, hp, hd.trans hc, (hpa.entitled _).mpr (.inr rfl)⟩
  · exact .inl rfl

theorem debitedFor_sum (quotaPerUnit : Rat) (sid : String) (store : PurchaseStore)
    (ops : List PurchaseOp) (h : Along (step quotaPerUnit) (PaidOnce sid) store ops) :
    sumAlong (step quotaPerUnit) (debitedFor quotaPerUnit sid) store ops = 0 ∨
      sumAlong (step quotaPerUnit) (debitedFor quotaPerUnit sid) store ops =
        oneTimePurchaseQuotaCharge quotaPerUnit := by
  refine (sumAlong_entering (P := fun store => store.hasOneTimeEntitlement sid = true)
    (fun _ _ => hasOneTimeEntitlement_step) ?_ ?_ h).1
  · intro store op ho hh
    obtain hz | ⟨hs, hp, _⟩ := debitedFor_cases quotaPerUnit sid store op
    · exact hz
    · exact absurd ⟨hs, hp, hh⟩ ho
  · intro store op _
    obtain hz | ⟨_, _, hc, hh⟩ := debitedFor_cases quotaPerUnit sid store op
    · exact .inl hz
    · exact .inr ⟨hc, hh⟩

theorem skill_purchases (quotaPerUnit : Rat) (store : PurchaseStore) (ops : List PurchaseOp) :
    (∀ key, tally (PurchaseStore.step quotaPerUnit) (debitsUnder quotaPerUnit key) store ops ≤ 1) ∧
    Along (PurchaseStore.step quotaPerUnit)
      (fun store op => DebitComplete quotaPerUnit store op ∧ ErrorKeeps quotaPerUnit store op)
      store ops ∧
    ∀ skillID, Along (PurchaseStore.step quotaPerUnit) (PaidOnce skillID) store ops →
      sumAlong (PurchaseStore.step quotaPerUnit) (debitedFor quotaPerUnit skillID) store ops = 0 ∨
        sumAlong (PurchaseStore.step quotaPerUnit) (debitedFor quotaPerUnit skillID) store ops =
          oneTimePurchaseQuotaCharge quotaPerUnit := by
  refine ⟨fun key => debitsUnder_tally_le_one quotaPerUnit key store ops, ?_, ?_⟩
  · have hs : Along (step quotaPerUnit) (fun _ _ => True) store ops :=
      along_of_forall_mem store fun _ _ => trivial
    refine along_mono ?_ hs
    intro store op _
    exact ⟨debitComplete quotaPerUnit store op, errorKeeps quotaPerUnit store op⟩
  · intro skillID ho
    exact debitedFor_sum quotaPerUnit skillID store ops ho

def walletOf (quota : Int) : PurchaseStore :=
  { quota, orders := .empty _, entitlements := .empty _, granted := nofun
    enabledSkills := .empty _, events := [] }

def publishedSkill : Skill :=
  { id := "s1", status := .published, requiredPlan := .free, monetizationType := .oneTime
    activeVersionID := some "v1", isKidsSafe := true, isKidsExclusive := false
    freeQuotaPerMonth := none }

def purchaseUnder (key : String) : PurchaseOp :=
  .purchase
    { userID := 7, userGroup := "default", body := some { idempotencyKey := key }
      skill := some publishedSkill, orderID := key }

theorem skill_purchases_replayed :
    sumAlong (PurchaseStore.step 500000) (debitedFor 500000 "s1") (walletOf 3000000)
        [purchaseUnder "a", purchaseUnder "a"] = 1000000 ∧
      (sumAlong (PurchaseStore.step 500000) (debitedFor 500000 "s1") (walletOf 3000000)
          [purchaseUnder "a", purchaseUnder "a"] = 0 ∨
        sumAlong (PurchaseStore.step 500000) (debitedFor 500000 "s1") (walletOf 3000000)
          [purchaseUnder "a", purchaseUnder "a"] = oneTimePurchaseQuotaCharge 500000) :=
  ⟨by decide +kernel, (skill_purchases 500000 (walletOf 3000000)
    [purchaseUnder "a", purchaseUnder "a"]).2.2 "s1" (by decide +kernel)⟩

theorem second_key_pays_again :
    ((walletOf 3000000).step 500000 (purchaseUnder "a")).hasOneTimeEntitlement "s1" = true ∧
      sumAlong (PurchaseStore.step 500000) (debitedFor 500000 "s1") (walletOf 3000000)
        [purchaseUnder "a", purchaseUnder "b"] = 2000000 ∧
      oneTimePurchaseQuotaCharge 500000 = 1000000 := by
  decide +kernel

end DeepRouter.Skills
