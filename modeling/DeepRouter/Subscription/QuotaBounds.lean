import DeepRouter.Library.Runs
import DeepRouter.Subscription.Create
import DeepRouter.Subscription.UsedAmount

/-! # The used amount stays within the quota -/

namespace DeepRouter.Subscription

open Store Atomic KeyedTable MachineInt Runs Table

def RowBounds (sub : UserSubscription) : Prop :=
  0 ≤ sub.amountUsed ∧ (0 < sub.amountTotal → sub.amountUsed ≤ sub.amountTotal)

def Bounds (db : Database) : Prop :=
  ∀ sub ∈ db.subs.rows, 0 ≤ sub.amountTotal ∧ RowBounds sub

inductive StoreOp where
  | create (env : Env) (faults : CreateFaults) (newId userId : Int) (plan : SubscriptionPlan)
      (source : String) (commit : Fault)
  | ledger (op : LedgerOp)

def storeStep (db : Database) : StoreOp → Database
  | .create env faults newId userId plan source commit =>
    (transaction db (createUserSubscriptionFromPlanTx env faults newId userId plan source db) commit).2
  | .ledger op => ledgerStep db op

def PlanNonneg : StoreOp → Prop
  | .create _ _ _ _ plan _ _ => 0 ≤ plan.totalAmount
  | .ledger _ => True

def ChargeFits (db : Database) : StoreOp → Prop
  | .ledger (.preConsume env _ _ userId amount) =>
    ∀ sub ∈ activeSubscriptions env.now userId db, sub.amountTotal = 0 → FitsAdd sub.amountUsed amount
  | _ => True

instance : DecidablePred PlanNonneg
  | .create _ _ _ _ plan _ _ => inferInstanceAs (Decidable (0 ≤ plan.totalAmount))
  | .ledger _ => .isTrue trivial

instance (db : Database) (op : StoreOp) : Decidable (ChargeFits db op) := by
  unfold ChargeFits
  split <;> infer_instance

theorem RefreshedRow.bounds {sub sub' : UserSubscription} (h : RefreshedRow sub sub')
    (hs : 0 ≤ sub.amountTotal ∧ RowBounds sub) : 0 ≤ sub'.amountTotal ∧ RowBounds sub' := by
  obtain ⟨next, last, used, hu, rfl⟩ := h
  obtain ⟨ht, hn, hl⟩ := hs
  rcases hu with rfl | rfl
  · exact ⟨ht, hn, hl⟩
  · exact ⟨ht, Int64.le_refl 0, fun _ => ht⟩

variable {db db' : Database}

theorem Refreshes.bounds (h : Refreshes db db') (hd : Bounds db) : Bounds db' := by
  intro sub' hSub'
  obtain ⟨sub, hSub, hr⟩ := (Refreshes.frame h).rows sub' hSub'
  exact hr.bounds (hd sub hSub)

variable {db : Database}

theorem saveSub_bounds (hd : Bounds db) {sub : UserSubscription}
    (hs : 0 ≤ sub.amountTotal ∧ RowBounds sub) : Bounds (db.saveSub sub) := by
  intro x hx
  rcases mem_save.mp hx with ⟨hm, _⟩ | ⟨rfl, _⟩
  · exact hd x hm
  · exact hs

theorem charged_bounds {total used amount : Int64} (ht : 0 ≤ total) (hus : 0 ≤ used)
    (ham : 0 < amount) (hq : ¬(0 < total ∧ total - used < amount))
    (hf : total = 0 → FitsAdd used amount) :
    0 ≤ used + amount ∧ (0 < total → used + amount ≤ total) := by
  have ha := pos_iff.mp ham
  have hu := nonneg_iff.mp hus
  by_cases hp : 0 < total
  · obtain ⟨hs, hl⟩ := toInt_add_of_covered hp ham (Int64.not_lt.mp fun h => hq ⟨hp, h⟩)
    exact ⟨nonneg_iff.mpr (by omega), fun _ => le_iff.mpr (hs.le.trans hl)⟩
  · have hz : total = 0 := Int64.le_antisymm (Int64.not_lt.mp hp) ht
    have hs := toInt_add_of_fits (hf hz)
    exact ⟨nonneg_iff.mpr (by omega), fun h => absurd h hp⟩

variable {amount : Int64}

theorem fits_zero (h : 0 < amount) : FitsAdd 0 amount := by
  have hp := pos_iff.mp h
  have hh := amount.toInt_lt
  have hz : (0 : Int64).toInt = 0 := rfl
  exact ⟨by omega, by omega⟩

variable {env : Env} {requestId : String}

theorem charges_bounds {uid : Int}
    {cs : List UserSubscription} {result : SubscriptionPreConsumeResult}
    (hd : Bounds db) (ha : 0 < amount)
    (hf : ∀ sub ∈ cs, sub.amountTotal = 0 → FitsAdd sub.amountUsed amount)
    (h : Charges env requestId uid amount cs db result db') : Bounds db' := by
  obtain ⟨mid, candidate, sub, records, hr, _, hme, hRow, hfn, hq, _, _, rfl⟩ := h
  have hm := Refreshes.bounds hr hd
  obtain ⟨ht, hu, _⟩ := hm sub (mem_of_find? hfn)
  have hro : sub.amountTotal = 0 → FitsAdd sub.amountUsed amount := by
    obtain ⟨_, _, used, rfl | rfl, rfl⟩ := hRow
    · exact hf candidate hme
    · exact fun _ => fits_zero ha
  exact saveSub_bounds hm ⟨ht, charged_bounds ht hu ha hq hro⟩

theorem post_bounds (fl : PostFaults) (id : Int) (delta : Int64)
    (hd : Bounds db) : Bounds (postConsumeUserSubscriptionDelta fl id delta db).2 := by
  cases hp : postConsumeUserSubscriptionDelta fl id delta db with
  | mk r db' =>
    cases r with
    | error e =>
      rw [post_error hp]
      exact hd
    | ok u =>
      obtain ⟨_, ⟨_, rfl⟩ | ⟨_, sub, hs, ht, rfl⟩⟩ := post_ok hp
      · exact hd
      · refine saveSub_bounds hd ⟨(hd sub (mem_of_find? hs)).1, settledUsed_nonneg _ _, ?_⟩
        intro hpo
        exact Int64.not_lt.mp (fun h => ht ⟨hpo, h⟩)

theorem refund_bounds {fl : RefundFaults}
    (hd : Bounds db) : Bounds (refundSubscriptionPreConsume env fl requestId db).2 := by
  have hs {id : Int} {delta : Int64} {mid : Database}
      (hp : postConsumeUserSubscriptionDelta fl.settlement id delta db = (.ok (), mid)) :
      Bounds mid := by
    have hm := post_bounds fl.settlement id delta hd
    rw [hp] at hm
    exact hm
  cases hc : refundSubscriptionPreConsume env fl requestId db with
  | mk r db' =>
    cases refund_effect hc with
    | failed e => exact hd
    | already => exact hd
    | empty => exact hd
    | settled record mid _ _ _ hp =>
      have hm := hs hp
      exact hm
    | lostMark record mid e _ _ _ hp => exact hs hp

theorem create_bounds {fl : CreateFaults} {newId uid : Int}
    {plan : SubscriptionPlan} {src : String} {commit : Fault} (hd : Bounds db)
    (hp : 0 ≤ plan.totalAmount) :
    Bounds (transaction db
      (createUserSubscriptionFromPlanTx env fl newId uid plan src db) commit).2 := by
  rcases transaction_cases db
    (createUserSubscriptionFromPlanTx env fl newId uid plan src db) commit with
    ⟨sub, db', hb, _, he⟩ | ⟨e, he⟩
  · obtain ⟨endUnix, prevGroup, mid, hc⟩ := create_ok hb
    obtain ⟨subs, hi, rfl⟩ := hc.inserted
    rw [he]
    intro x hx
    rcases (mem_insert? hi).mp hx with hx | rfl
    · exact hd x hx
    · rw [hc.row]
      exact ⟨hp, Int64.le_refl 0, fun _ => hp⟩
  · rw [he]
    exact hd

theorem storeStep_bounds (db : Database) (op : StoreOp) (hd : Bounds db)
    (ho : PlanNonneg op ∧ ChargeFits db op) : Bounds (storeStep db op) := by
  obtain ⟨hp, hf⟩ := ho
  cases op with
  | create env faults newId userId plan source commit => exact create_bounds hd hp
  | ledger op =>
    cases op with
    | preConsume env faults requestId userId amount =>
      change Bounds (preConsumeUserSubscription env faults requestId userId amount db).2
      cases hc : preConsumeUserSubscription env faults requestId userId amount db with
      | mk r db' =>
        cases r with
        | error e =>
          rw [preConsume_error hc]
          exact hd
        | ok result =>
          obtain ⟨ha, ⟨_, _, _, _, _, _, rfl⟩ | ⟨_, hch⟩⟩ := preConsume_ok hc
          · exact hd
          · exact charges_bounds hd ha hf hch
    | post faults id delta => exact post_bounds faults id delta hd
    | refund env faults requestId => exact refund_bounds hd
    | resetDue env faults limit => exact Refreshes.bounds (resetDue_refreshes env faults limit db) hd
    | cleanup env fault olderThanSeconds =>
      change Bounds (cleanupSubscriptionPreConsumeRecords env fault olderThanSeconds db).2
      rcases cleanup_cases env fault olderThanSeconds db with he | ⟨p, he⟩
      · rw [he]
        exact hd
      · rw [he]
        exact hd

theorem preConsume_inactive {fl : PreConsumeFaults}
    {uid : Int} {result : SubscriptionPreConsumeResult}
    (h : preConsumeUserSubscription env fl requestId uid amount db = (.ok result, db'))
    {sub : UserSubscription} (hsu : sub ∈ db.subs.rows)
    (hin : sub.status ≠ .active ∨ sub.endTime ≤ env.now) : db'.subs.find? sub.id = some sub := by
  obtain ⟨_, ⟨_, _, _, _, _, _, rfl⟩ | ⟨_, hch⟩⟩ := preConsume_ok h
  · exact find?_of_mem hsu
  obtain ⟨mid, candidate, row, records, _, hk, hme, hro, hf, _, _, _, rfl⟩ := hch
  have ho : ∀ c ∈ activeSubscriptions env.now uid db, c.id ≠ sub.id := by
    intro c hc he
    obtain ⟨hcMem, _, hs, hen⟩ := mem_activeSubscriptions.mp hc
    have hEq := db.subs.eq_of_key_eq hcMem hsu he
    rcases hin with hin | hin
    · exact hin (hEq ▸ hs)
    · rw [hEq] at hen
      omega
  have hr : row.id = candidate.id := by
    obtain ⟨_, _, _, _, rfl⟩ := hro
    rfl
  have hm : mid.subs.find? sub.id = some sub := by
    rw [hk sub.id, find?_of_mem hsu]
    intro hi
    obtain ⟨c, hc, he⟩ := List.mem_map.mp hi
    exact ho c hc he
  rw [← hm]
  exact find?_save_of_ne (fun he => ho candidate hme (hr.symm.trans he))

/-- Every subscription stays within its bounds, and a pre-consume charges no inactive or expired
one. -/
theorem quota_bounds_of_charges_fit (db : Database) (hEmpty : db.subs.rows = [])
    (ops : List StoreOp)
    (h : Along storeStep (fun db op => PlanNonneg op ∧ ChargeFits db op) db ops) :
    (∀ sub ∈ (run storeStep db ops).subs.rows,
      0 ≤ sub.amountUsed ∧ (0 < sub.amountTotal → sub.amountUsed ≤ sub.amountTotal)) ∧
    ∀ env faults requestId userId amount result db',
      preConsumeUserSubscription env faults requestId userId amount (run storeStep db ops) =
        (.ok result, db') →
      ∀ sub ∈ (run storeStep db ops).subs.rows,
        sub.status ≠ .active ∨ sub.endTime ≤ env.now → db'.subs.find? sub.id = some sub := by
  have hs : Bounds db := by
    intro sub hsu
    rw [hEmpty] at hsu
    cases hsu
  have hr := run_invariant storeStep_bounds hs ops h
  refine ⟨fun sub hsu => (hr sub hsu).2, ?_⟩
  intro env faults requestId userId amount result db' hc sub hsu hi
  exact preConsume_inactive hc hsu hi

def plainCalendar : Calendar where
  addDate t years months days := t + (years * 360 + months * 30 + days) * 86400
  startOfDay t := t - t % 86400
  startOfMonth t := t - t % (30 * 86400)
  weekday t := (t / 86400 + 4) % 7

def unlimitedPlan : SubscriptionPlan :=
  ⟨1, "unlimited", .day, 30, 0, 0, "", 0, "never", 0⟩

def unlimitedEnv (now : Int) : Env := ⟨now, plainCalendar, fun _ => .ok unlimitedPlan, 0⟩

def buyUnlimited : StoreOp := .create (unlimitedEnv 1000) {} 1 7 unlimitedPlan "order" none

def charge (requestId : String) (amount : Int64) : StoreOp :=
  .ledger (.preConsume (unlimitedEnv 2000) {} requestId 7 amount)

theorem quota_bounds_two_charges :
    (run storeStep .initial [buyUnlimited, charge "a" 5, charge "b" 6]).subs.rows.Forall fun sub =>
      0 ≤ sub.amountUsed ∧ (0 < sub.amountTotal → sub.amountUsed ≤ sub.amountTotal) :=
  List.forall_iff_forall_mem.mpr
    (quota_bounds_of_charges_fit .initial rfl [buyUnlimited, charge "a" 5, charge "b" 6]
      ⟨⟨by decide, trivial⟩, ⟨trivial, by decide⟩, ⟨trivial, by decide⟩, trivial⟩).1

theorem quota_bounds_overflow :
    ¬∀ ops : List StoreOp, (∀ op ∈ ops, PlanNonneg op) →
      ∀ sub ∈ (run storeStep .initial ops).subs.rows, 0 ≤ sub.amountUsed := by
  intro h
  have hu : (run storeStep .initial
      [buyUnlimited, charge "a" 9223372036854775807, charge "b" 1]).subs.rows.map
        UserSubscription.amountUsed = [-9223372036854775808] := by decide
  have hm : (-9223372036854775808 : Int64) ∈ (run storeStep .initial
      [buyUnlimited, charge "a" 9223372036854775807, charge "b" 1]).subs.rows.map
        UserSubscription.amountUsed := by
    rw [hu]
    exact List.mem_singleton_self _
  obtain ⟨sub, hs, he⟩ := List.mem_map.mp hm
  have hp : ∀ op ∈ [buyUnlimited, charge "a" 9223372036854775807, charge "b" 1], PlanNonneg op := by
    simp [buyUnlimited, charge, PlanNonneg, unlimitedPlan]
  have hn := h _ hp sub hs
  rw [he] at hn
  exact absurd hn (by decide)

end DeepRouter.Subscription
