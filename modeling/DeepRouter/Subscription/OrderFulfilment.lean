import DeepRouter.Subscription.Orders
import DeepRouter.Subscription.QuotaBounds

/-! # Orders are fulfilled at most once -/

namespace DeepRouter.Subscription

open Store Atomic KeyedTable Runs List

inductive OrderOp where
  | complete (env : Env) (faults : OrderFaults) (newId : Int) (tradeNo providerPayload : String)
      (expectedPaymentProvider : PaymentProvider) (actualPaymentMethod : String)
  | expire (now : Int) (faults : OrderFaults) (tradeNo : String)
      (expectedPaymentProvider : PaymentProvider)

def OrderOp.tradeNo : OrderOp → String
  | .complete _ _ _ tradeNo _ _ _ => tradeNo
  | .expire _ _ tradeNo _ => tradeNo

def OrderOp.expectedPaymentProvider : OrderOp → PaymentProvider
  | .complete _ _ _ _ _ expectedPaymentProvider _ => expectedPaymentProvider
  | .expire _ _ _ expectedPaymentProvider => expectedPaymentProvider

def orderCall (db : Database) : OrderOp → Except Err Unit × Database
  | .complete env faults newId tradeNo providerPayload expectedPaymentProvider
      actualPaymentMethod =>
    completeSubscriptionOrder env faults newId tradeNo providerPayload expectedPaymentProvider
      actualPaymentMethod db
  | .expire now faults tradeNo expectedPaymentProvider =>
    expireSubscriptionOrder now faults tradeNo expectedPaymentProvider db

def orderStep (db : Database) (op : OrderOp) : Database := (orderCall db op).2

def orderStatus (db : Database) (tradeNo : String) : Option OrderStatus :=
  (db.orders.find? tradeNo).map SubscriptionOrder.status

def createsFor (tradeNo : String) (db : Database) (op : OrderOp) : Bool :=
  op.tradeNo = tradeNo ∧ db.subs.rows.length < (orderStep db op).subs.rows.length

/-- What a call writes before it saves `order` as `order'`. -/
inductive Closing (db : Database) (op : OrderOp) (order order' : SubscriptionOrder) :
    Database → Prop where
  | fulfilled (env : Env) (newId : Int) (plan : SubscriptionPlan) (endUnix : Int)
      (prevGroup : String) (mid : Database) (sub : UserSubscription) (created : Database)
      (topUps : Table TopUp.tradeNo)
      (he : ∃ faults payload expected method,
        op = .complete env faults newId order.tradeNo payload expected method)
      (hp : env.plans order.planId = .ok plan)
      (hc : Created env newId order.userId plan "order" endUnix prevGroup db mid sub created)
      (hs : order'.status = .success) :
      Closing db op order order' { created with topUps }
  | expired (hs : order'.status = .expired) : Closing db op order order' db

inductive OrderEffect (db : Database) (op : OrderOp) : Except Err Unit → Database → Prop where
  | failed (e : Err) : OrderEffect db op (.error e) db
  | kept (order : SubscriptionOrder) (hf : db.orders.find? op.tradeNo = some order)
      (hpr : op.expectedPaymentProvider = .unset ∨
        order.paymentProvider = op.expectedPaymentProvider) (hs : order.status ≠ .pending) :
      OrderEffect db op (.ok ()) db
  | saved (order order' : SubscriptionOrder) (before : Database)
      (hf : db.orders.find? op.tradeNo = some order)
      (hpr : op.expectedPaymentProvider = .unset ∨
        order.paymentProvider = op.expectedPaymentProvider) (hs : order.status = .pending)
      (ho : order'.tradeNo = order.tradeNo ∧ order'.paymentProvider = order.paymentProvider)
      (hc : Closing db op order order' before) :
      OrderEffect db op (.ok ()) (saveOrder before order')

theorem getSubscriptionPlanById_ok {env : Env} {id : Int} {plan : SubscriptionPlan}
    (h : getSubscriptionPlanById env id = .ok plan) : env.plans id = .ok plan := by
  unfold getSubscriptionPlanById at h
  split at h
  · cases h
  · exact h

theorem completeTx_effect {env : Env} {fl : OrderFaults} {newId : Int}
    {tradeNo providerPayload : String} {expected : PaymentProvider} {method : String}
    {db db' : Database}
    (h : completeTx env fl newId tradeNo providerPayload expected method db = .ok ((), db')) :
    OrderEffect db (.complete env fl newId tradeNo providerPayload expected method) (.ok ())
      db' := by
  unfold completeTx at h
  obtain ⟨order, hl, h⟩ := bind_eq_ok.mp h
  obtain ⟨hf, hpr⟩ := lockOrder_ok hl
  have hk : order.tradeNo = tradeNo := Table.key_of_find? hf
  have hpr : expected = .unset ∨ order.paymentProvider = expected := hpr
  split at h
  · rename_i hs
    cases h
    refine .kept order hf hpr ?_
    rw [hs]
    nofun
  · split at h
    · cases h
    rename_i hpe
    obtain ⟨plan, hp, h⟩ := bind_eq_ok.mp h
    obtain ⟨⟨sub, created⟩, hc, h⟩ := bind_eq_ok.mp h
    obtain ⟨topped, ht, h⟩ := bind_eq_ok.mp h
    obtain ⟨_, _, h⟩ := bind_eq_ok.mp h
    cases h
    obtain ⟨topUps, rfl⟩ := upsert_ok ht
    obtain ⟨endUnix, prevGroup, mid, hcr⟩ := create_ok hc
    exact .saved order _ _ hf hpr (not_not.mp hpe) ⟨rfl, rfl⟩
      (.fulfilled env newId plan endUnix prevGroup mid sub created topUps
        ⟨fl, providerPayload, expected, method, by rw [hk]⟩ (getSubscriptionPlanById_ok hp) hcr rfl)

theorem expireOrderTx_effect {now : Int} {fl : OrderFaults} {tradeNo : String}
    {expected : PaymentProvider} {db db' : Database}
    (h : expireOrderTx now fl tradeNo expected db = .ok ((), db')) :
    OrderEffect db (.expire now fl tradeNo expected) (.ok ()) db' := by
  unfold expireOrderTx at h
  obtain ⟨order, hl, h⟩ := bind_eq_ok.mp h
  obtain ⟨hf, hp⟩ := lockOrder_ok hl
  split at h
  · rename_i hs
    cases h
    exact .kept order hf hp hs
  rename_i hpe
  obtain ⟨_, _, h⟩ := bind_eq_ok.mp h
  cases h
  exact .saved order _ _ hf hp (not_not.mp hpe) ⟨rfl, rfl⟩ (.expired rfl)

theorem orderCall_effect {db db' : Database} {op : OrderOp} {r : Except Err Unit}
    (h : orderCall db op = (r, db')) : OrderEffect db op r db' := by
  cases op with
  | complete env faults newId tradeNo providerPayload expected method =>
    rw [orderCall, completeSubscriptionOrder] at h
    split at h
    · cases h
      exact .failed _
    exact transaction_elim h (fun _ _ hb => completeTx_effect hb) .failed
  | expire now faults tradeNo expected =>
    rw [orderCall, expireSubscriptionOrder] at h
    split at h
    · cases h
      exact .failed _
    exact transaction_elim h (fun _ _ hb => expireOrderTx_effect hb) .failed

section

variable {db : Database} {op : OrderOp} {tradeNo : String} {order : SubscriptionOrder}

theorem Closing.orders {order' : SubscriptionOrder} {before : Database}
    (h : Closing db op order order' before) : before.orders = db.orders := by
  cases h with
  | fulfilled _ _ _ _ _ _ _ created topUps _ _ hc _ => exact hc.frame.2.2.2.1
  | expired => rfl

theorem Closing.find? {order' : SubscriptionOrder} {before : Database}
    (h : Closing db op order order' before) (hf : db.orders.find? op.tradeNo = some order)
    (hk : order'.tradeNo = order.tradeNo) (tradeNo : String) :
    (saveOrder before order').orders.find? tradeNo =
      if tradeNo = op.tradeNo then some order' else db.orders.find? tradeNo := by
  change (before.orders.save order').find? tradeNo = _
  rw [h.orders]
  exact Table.find?_save hf (hk.trans (Table.key_of_find? hf)) tradeNo

theorem orderStep_order (op : OrderOp) (hf : db.orders.find? tradeNo = some order) :
    ∃ order', (orderStep db op).orders.find? tradeNo = some order' ∧
      order'.paymentProvider = order.paymentProvider ∧
      (order' = order ∨ order.status = .pending) := by
  unfold orderStep
  cases h : orderCall db op with
  | mk r db' =>
    cases orderCall_effect h with
    | failed e => exact ⟨order, hf, rfl, .inl rfl⟩
    | kept => exact ⟨order, hf, rfl, .inl rfl⟩
    | saved old order' before hol _ hSt ho hc =>
      rw [hc.find? hol ho.1]
      split
      · rename_i hs
        rw [← hs, hf] at hol
        cases hol
        exact ⟨order', rfl, ho.2, .inr hSt⟩
      · exact ⟨order, hf, rfl, .inl rfl⟩

theorem orderStatus_kept {tradeNo : String} {db after : Database}
    (hr : after.orders.find? tradeNo = db.orders.find? tradeNo) :
    ¬(orderStatus db tradeNo = some .pending ∧ orderStatus after tradeNo = some .success) ∧
      (orderStatus after tradeNo = some .success →
        orderStatus db tradeNo = some .success ∨ orderStatus db tradeNo = some .pending) := by
  unfold orderStatus
  rw [hr]
  refine ⟨?_, .inl⟩
  rintro ⟨hp, hs⟩
  rw [hp] at hs
  cases hs

theorem createsFor_iff (tradeNo : String) (db : Database) (op : OrderOp) :
    (createsFor tradeNo db op = true ↔ orderStatus db tradeNo = some .pending ∧
        orderStatus (orderStep db op) tradeNo = some .success) ∧
      (orderStatus (orderStep db op) tradeNo = some .success →
        orderStatus db tradeNo = some .success ∨ orderStatus db tradeNo = some .pending) := by
  unfold createsFor orderStep
  rw [decide_eq_true_eq]
  cases h : orderCall db op with
  | mk r db' =>
    dsimp only
    cases orderCall_effect h with
    | failed e => exact ⟨iff_of_false (by simp) (orderStatus_kept rfl).1, (orderStatus_kept rfl).2⟩
    | kept => exact ⟨iff_of_false (by simp) (orderStatus_kept rfl).1, (orderStatus_kept rfl).2⟩
    | saved old order' before hol _ hSt ho hc =>
      have hro := hc.find? hol ho.1 tradeNo
      by_cases hsa : tradeNo = op.tradeNo
      · have hp : orderStatus db tradeNo = some .pending := by
          rw [orderStatus, hsa, hol, Option.map_some, hSt]
        have hs : orderStatus (saveOrder before order') tradeNo = some order'.status := by
          rw [orderStatus, hro, if_pos hsa, Option.map_some]
        cases hc with
        | fulfilled _ _ _ _ _ _ _ created _ _ _ hc hst =>
          have hl : db.subs.rows.length < created.subs.rows.length := by
            rw [hc.frame.1, length_append, length_singleton]
            exact Nat.lt_succ_self _
          exact ⟨iff_of_true ⟨hsa.symm, hl⟩ ⟨hp, hs.trans (congrArg some hst)⟩, fun _ => .inr hp⟩
        | expired hst =>
          rw [hs, hst]
          exact ⟨iff_of_false (fun hb => Nat.lt_irrefl _ hb.2) nofun, nofun⟩
      · rw [if_neg hsa] at hro
        exact ⟨iff_of_false (fun hb => hsa hb.1.symm) (orderStatus_kept hro).1,
          (orderStatus_kept hro).2⟩

theorem orderStep_rows (db : Database) (op : OrderOp) :
    ∃ created, (orderStep db op).subs.rows = db.subs.rows ++ created ∧ created.length ≤ 1 := by
  have hn : db.subs.rows = db.subs.rows ++ [] := (append_nil _).symm
  unfold orderStep
  cases h : orderCall db op with
  | mk r db' =>
    cases orderCall_effect h with
    | failed e => exact ⟨[], hn, Nat.zero_le 1⟩
    | kept => exact ⟨[], hn, Nat.zero_le 1⟩
    | saved _ _ _ _ _ _ _ hc =>
      cases hc with
      | fulfilled _ _ _ _ _ _ sub _ _ _ _ hc => exact ⟨[sub], hc.frame.1, le_refl 1⟩
      | expired => exact ⟨[], hn, Nat.zero_le 1⟩

/-- The lookups of the call give the plan `planId` with the purchase limit `m`. -/
def PlanLimit (planId m : Int) : OrderOp → Prop
  | .complete env _ _ _ _ _ _ =>
    ∀ id plan, env.plans id = .ok plan → plan.id = planId → plan.maxPurchasePerUser = m
  | .expire _ _ _ _ => True

theorem orderStep_limit {uid planId m : Int} (hli : 0 < m) (hpl : PlanLimit planId m op)
    (hc : countByPlan uid planId db ≤ m) : countByPlan uid planId (orderStep db op) ≤ m := by
  unfold orderStep
  cases h : orderCall db op with
  | mk r db' =>
    cases orderCall_effect h with
    | failed e => exact hc
    | kept => exact hc
    | saved old order' before _ _ _ _ hcl =>
      cases hcl with
      | expired => exact hc
      | fulfilled env _ plan _ _ _ sub created topUps he hl hcr _ =>
        obtain ⟨faults, payload, expected, method, rfl⟩ := he
        obtain ⟨hr, hu, hp, _, _⟩ := hcr.frame
        change (countByPlan uid planId created : Int) ≤ m
        have hs : countByPlan uid planId created = countByPlan uid planId db +
            if sub.userId = uid ∧ sub.planId = planId then 1 else 0 := by
          unfold countByPlan
          rw [hr, countP_append, countP_singleton]
          simp
        rw [hs]
        split
        · rename_i hm
          rw [hu, hp] at hm
          obtain ⟨rfl, rfl⟩ := hm
          have hma := hpl old.planId plan hl rfl
          have hro := hcr.limit (by rw [hma]; exact hli)
          rw [hma] at hro
          push_cast
          omega
        · push_cast
          omega

theorem orderStep_success (db : Database) (op : OrderOp)
    (h : orderStatus db tradeNo = some .success) :
    orderStatus (orderStep db op) tradeNo = some .success := by
  obtain ⟨order, hFind, hSt⟩ := Option.map_eq_some_iff.mp h
  obtain ⟨order', hFind', _, hs | hp⟩ := orderStep_order op hFind
  · rw [orderStatus, hFind', hs, Option.map_some, hSt]
  · rw [hSt] at hp
    cases hp

end

theorem createsFor_tally (tradeNo : String) (db : Database) (ops : List OrderOp) :
    tally orderStep (createsFor tradeNo) db ops =
      if ¬orderStatus db tradeNo = some .success ∧
        orderStatus (run orderStep db ops) tradeNo = some .success then 1 else 0 := by
  refine tally_entering (C := fun _ => True) (fun db op _ => orderStep_success db op) ?_ db
    (fun _ _ => trivial)
  intro db op _
  obtain ⟨hc, he⟩ := createsFor_iff tradeNo db op
  rw [hc]
  constructor
  · rintro ⟨hp, hs⟩
    rw [hp]
    exact ⟨nofun, hs⟩
  rintro ⟨hn, hs⟩
  rcases he hs with hb | hb
  · exact absurd hb hn
  · exact ⟨hb, hs⟩

/-- An order through any run of completions and expiries, of this order and of others. -/
theorem order_fulfilled_at_most_once (db : Database) (tradeNo : String) (order : SubscriptionOrder)
    (hOrder : db.orders.find? tradeNo = some order) (ops : List OrderOp) :
    tally orderStep (createsFor tradeNo) db ops ≤ 1 ∧
    (∀ op, createsFor tradeNo (run orderStep db ops) op = true ↔
      orderStatus (run orderStep db ops) tradeNo = some .pending ∧
        orderStatus (orderStep (run orderStep db ops) op) tradeNo = some .success) ∧
    (∀ op, ∃ created, (orderStep (run orderStep db ops) op).subs.rows =
      (run orderStep db ops).subs.rows ++ created ∧ created.length ≤ 1) ∧
    (∃ final, (run orderStep db ops).orders.find? tradeNo = some final ∧ final.paymentProvider =
      order.paymentProvider ∧ (final.status ≠ .pending → ∀ more, (run orderStep (run orderStep db
      ops) more).orders.find? tradeNo = some final)) ∧
    (∀ op db', op.tradeNo = tradeNo → orderCall (run orderStep db ops) op = (.ok (), db') →
      op.expectedPaymentProvider = .unset ∨ op.expectedPaymentProvider = order.paymentProvider) ∧
    (∀ op e db', orderCall (run orderStep db ops) op = (.error e, db') →
      db' = run orderStep db ops) ∧
    (∀ userId planId m, 0 < m → (∀ op ∈ ops, PlanLimit planId m op) →
      countByPlan userId planId db ≤ m →
      countByPlan userId planId (run orderStep db ops) ≤ m) := by
  have hr : ∃ final, (run orderStep db ops).orders.find? tradeNo = some final ∧
      final.paymentProvider = order.paymentProvider := by
    refine run_preserves (I := fun db : Database => ∃ final,
      db.orders.find? tradeNo = some final ∧
        final.paymentProvider = order.paymentProvider) ?_ ⟨order, hOrder, rfl⟩ ops
    rintro mid op ⟨row, hRow, hProvider⟩
    obtain ⟨row', hRow', hProvider', _⟩ := orderStep_order op hRow
    exact ⟨row', hRow', hProvider'.trans hProvider⟩
  obtain ⟨final, hf, hProvider⟩ := hr
  refine ⟨?_, fun op => (createsFor_iff tradeNo _ op).1, orderStep_rows _,
    ⟨final, hf, hProvider, ?_⟩, ?_, ?_, ?_⟩
  · rw [createsFor_tally]
    split
    · exact le_refl 1
    · exact Nat.zero_le 1
  · intro hs more
    refine run_preserves (I := fun db : Database => db.orders.find? tradeNo = some final) ?_ hf more
    intro mid op hRow
    obtain ⟨row', hRow', _, hsa | hpe⟩ := orderStep_order op hRow
    · rw [hRow', hsa]
    · exact absurd hpe hs
  · intro op db' ht hca
    subst ht
    have hma {row : SubscriptionOrder}
        (hRow : (run orderStep db ops).orders.find? op.tradeNo = some row)
        (hcl : op.expectedPaymentProvider = .unset ∨
          row.paymentProvider = op.expectedPaymentProvider) :
        op.expectedPaymentProvider = .unset ∨
          op.expectedPaymentProvider = order.paymentProvider := by
      rw [hf] at hRow
      cases hRow
      rcases hcl with hu | hsa
      · exact .inl hu
      · exact .inr (hsa.symm.trans hProvider)
    cases orderCall_effect hca with
    | kept row hRow hcl => exact hma hRow hcl
    | saved row _ _ hRow hcl => exact hma hRow hcl
  · intro op e db' hca
    cases orderCall_effect hca with
    | failed => rfl
  · intro userId planId m hl hp hc
    refine run_invariant (I := fun mid => (countByPlan userId planId mid : Int) ≤ m) ?_ hc ops
      (along_of_forall_mem db hp)
    intro mid op hm hpl
    exact orderStep_limit hl hpl hm

def pendingOrder : Database :=
  { Database.initial with
    orders := ⟨[⟨"T1", 7, 1, 10, "alipay", .epay, .pending, 900, 0, ""⟩], List.nodup_singleton _⟩ }

def completeT1 (now : Int) : OrderOp :=
  .complete (unlimitedEnv now) {} 1 "T1" "" .epay "alipay"

theorem order_fulfilled_once_replayed :
    createsFor "T1" pendingOrder (completeT1 1000) = true ∧
      tally orderStep (createsFor "T1") pendingOrder [completeT1 1000, completeT1 1001] ≤ 1 := by
  refine ⟨by decide, ?_⟩
  have ho : pendingOrder.orders.find? "T1" =
      some ⟨"T1", 7, 1, 10, "alipay", .epay, .pending, 900, 0, ""⟩ := by decide
  exact (order_fulfilled_at_most_once pendingOrder "T1" _ ho [completeT1 1000, completeT1 1001]).1

end DeepRouter.Subscription
