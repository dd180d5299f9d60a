import DeepRouter.Subscription.RequestLedger

/-! # Quota periods

The tracked store adds the period and the net consumption of every request. -/

namespace DeepRouter.Subscription

open Store KeyedTable MachineInt Runs Table Function

structure Tracked where
  db : Database
  net : String → Int
  chargedIn : String → Nat
  foreign : Int → Int

inductive PeriodOp where
  | preConsume (env : Env) (faults : PreConsumeFaults) (requestId : String) (userId : Int)
      (amount : Int64)
  | refund (env : Env) (find : Fault) (settlement : PostFaults) (requestId : String)
  | settle (faults : PostFaults) (requestId : String) (delta : Int64)
  | resetDue (env : Env) (faults : ResetFaults) (limit : Int)

namespace Tracked

def refreshed (t : Tracked) (db : Database) : Tracked :=
  { t with
    db
    foreign := fun id => if db.resets id = t.db.resets id then t.foreign id else 0 }

def charged (t : Tracked) (db : Database) (requestId : String) (id : Int) (amount : Int64) :
    Tracked :=
  { t.refreshed db with
    net := Function.update t.net requestId amount.toInt
    chargedIn := Function.update t.chargedIn requestId (db.resets id) }

def settled (t : Tracked) (db : Database) (record : SubscriptionPreConsumeRecord) (delta : Int) :
    Tracked :=
  { t with
    db
    net := Function.update t.net record.requestId (t.net record.requestId + delta)
    foreign :=
      if t.chargedIn record.requestId = t.db.resets record.userSubscriptionId then t.foreign
      else Function.update t.foreign record.userSubscriptionId
        (t.foreign record.userSubscriptionId + max 0 (-delta)) }

end Tracked

def periodStep (t : Tracked) : PeriodOp → Tracked
  | .preConsume env faults requestId userId amount =>
    match preConsumeUserSubscription env faults requestId userId amount t.db,
        t.db.records.find? requestId with
    | (.ok result, db), none => t.charged db requestId result.userSubscriptionId amount
    | (_, db), _ => { t with db }
  | .refund env find settlement requestId =>
    match refundSubscriptionPreConsume env { find, settlement } requestId t.db,
        t.db.records.find? requestId with
    | (.ok (), db), some record =>
      if record.status = .consumed then t.settled db record (-record.preConsumed.toInt)
      else { t with db }
    | (_, db), _ => { t with db }
  | .settle faults requestId delta =>
    match t.db.records.find? requestId with
    | none => t
    | some record =>
      match postConsumeUserSubscriptionDelta faults record.userSubscriptionId delta t.db with
      | (.ok (), db) => t.settled db record delta.toInt
      | (.error _, db) => { t with db }
  | .resetDue env faults limit => t.refreshed (resetDueSubscriptions env faults limit t.db).2

def currentShare (resets : Int → Nat) (chargedIn : String → Nat) (net : String → Int) (id : Int)
    (record : SubscriptionPreConsumeRecord) : Int :=
  if record.userSubscriptionId = id ∧ chargedIn record.requestId = resets id then
    net record.requestId
  else 0

def currentNet (t : Tracked) (id : Int) : Int :=
  t.db.records.total (currentShare t.db.resets t.chargedIn t.net id)

def UsageFits (t : Tracked) : PeriodOp → Prop
  | .preConsume env _ _ userId amount =>
    ∀ sub ∈ activeSubscriptions env.now userId t.db, ¬0 < sub.amountTotal →
      FitsAdd sub.amountUsed amount
  | .settle _ requestId delta =>
    ∀ record ∈ t.db.records.rows, record.requestId = requestId →
      FitsAdd (usedOf t.db record.userSubscriptionId) delta
  | _ => True

instance (t : Tracked) (op : PeriodOp) : Decidable (UsageFits t op) := by
  unfold UsageFits
  split <;> infer_instance

structure Covered (t : Tracked) : Prop where
  records : ∀ record ∈ t.db.records.rows, 0 < record.preConsumed ∧
    t.chargedIn record.requestId ≤ t.db.resets record.userSubscriptionId
  used : ∀ id, 0 ≤ (usedOf t.db id).toInt ∧
    currentNet t id ≤ (usedOf t.db id).toInt + t.foreign id

section

variable {t : Tracked} {db : Database}

theorem total_refreshed (h : Covered t) (hrs : ∀ id, t.db.resets id ≤ db.resets id) (id : Int) :
    t.db.records.total (currentShare db.resets t.chargedIn t.net id) =
      if db.resets id = t.db.resets id then currentNet t id else 0 := by
  by_cases hs : db.resets id = t.db.resets id
  · rw [if_pos hs]
    apply total_congr
    intro record _
    unfold currentShare
    rw [hs]
  · rw [if_neg hs]
    have hn : ∀ record ∈ t.db.records.rows,
        currentShare db.resets t.chargedIn t.net id record = 0 := by
      intro record hr
      refine if_neg ?_
      rintro ⟨rfl, hpe⟩
      have hp := (h.records record hr).2
      have hl := hrs record.userSubscriptionId
      omega
    rw [total_congr hn]
    simp [Table.total]

theorem refreshed_covered (h : Covered t) (hre : Refreshes t.db db) : Covered (t.refreshed db) := by
  have hf := Refreshes.frame hre
  have hrs := Refreshes.resets_le hre
  have hu := Refreshes.usedOf hre
  constructor
  · intro record hr
    change record ∈ db.records.rows at hr
    rw [hf.records] at hr
    obtain ⟨hp, hl⟩ := h.records record hr
    exact ⟨hp, hl.trans (hrs _)⟩
  · intro id
    have ht : currentNet (t.refreshed db) id =
        if db.resets id = t.db.resets id then currentNet t id else 0 := by
      rw [← total_refreshed h hrs id, ← hf.records]
      rfl
    rw [ht]
    change 0 ≤ (usedOf db id).toInt ∧
      _ ≤ (usedOf db id).toInt + if db.resets id = t.db.resets id then t.foreign id else 0
    rw [hu id]
    by_cases hs : db.resets id = t.db.resets id
    · simp only [if_pos hs]
      exact h.used id
    · simp only [if_neg hs]
      exact ⟨le_rfl, le_rfl⟩

end

section

variable {t : Tracked} {db : Database} {env : Env} {requestId : String} {userId : Int}
  {amount : Int64} {result : SubscriptionPreConsumeResult}

theorem charged_fits {candidate sub : UserSubscription} (hr : RefreshedRow candidate sub)
    (ha : 0 < amount) (hc : ¬(0 < sub.amountTotal ∧ sub.amountTotal - sub.amountUsed < amount))
    (hf : ¬0 < candidate.amountTotal → FitsAdd candidate.amountUsed amount) :
    FitsAdd sub.amountUsed amount := by
  obtain ⟨_, _, used, hu, rfl⟩ := hr
  by_cases ht : 0 < candidate.amountTotal
  · -- a total that has room for the amount bounds the sum
    have hs := (toInt_add_of_covered ht ha (Int64.not_lt.mp fun hl => hc ⟨ht, hl⟩)).1
    rw [FitsAdd, ← hs]
    exact ⟨Int64.le_toInt _, Int64.toInt_lt _⟩
  · obtain rfl | rfl := hu
    · exact hf ht
    · exact fits_zero ha

theorem charged_covered (h : Covered t) (hf : t.db.records.find? requestId = none)
    (hch : Charges env requestId userId amount (activeSubscriptions env.now userId t.db) t.db
      result db) (ha : 0 < amount)
    (hfi : ∀ sub ∈ activeSubscriptions env.now userId t.db, ¬0 < sub.amountTotal →
      FitsAdd sub.amountUsed amount) :
    Covered (t.charged db requestId result.userSubscriptionId amount) := by
  obtain ⟨mid, candidate, sub, records, hr, _, hc, hrow, hsub, hco, hi, rfl, rfl⟩ := hch
  -- first the refreshes, then the charge
  have hm := refreshed_covered h hr
  rw [← (Refreshes.frame hr).records] at hf
  have ho : ∀ x ∈ mid.records.rows, x.requestId ≠ requestId := find?_eq_none_iff.mp hf
  have hp := pos_iff.mp ha
  have hu : ∀ id, (usedOf (mid.saveSub { sub with amountUsed := sub.amountUsed + amount }) id).toInt =
      (usedOf mid id).toInt + if id = sub.id then amount.toInt else 0 := by
    intro id
    rw [usedOf_saveSub { sub with amountUsed := sub.amountUsed + amount } hsub rfl id]
    split
    · rename_i hId
      rw [hId, usedOf_of_find? hsub]
      exact toInt_add_of_fits (charged_fits hrow ha hco (hfi candidate hc))
    · exact (add_zero _).symm
  constructor
  · intro x hx
    change 0 < x.preConsumed ∧ Function.update t.chargedIn requestId _ x.requestId ≤ _
    rcases (mem_insert? hi).mp hx with hx | rfl
    · rw [update_of_ne (ho x hx)]
      exact hm.records x hx
    · exact ⟨ha, (update_self _ _ _).le⟩
  · intro id
    -- the old requests keep their shares, and the new one joins the current period
    have ht : records.total (currentShare mid.resets (Function.update t.chargedIn requestId
          (mid.resets sub.id)) (Function.update t.net requestId amount.toInt) id) =
        currentNet (t.refreshed mid) id + if id = sub.id then amount.toInt else 0 := by
      rw [total_insert? hi]
      congr 1
      · apply total_congr
        intro x hx
        unfold currentShare
        rw [update_of_ne (ho x hx), update_of_ne (ho x hx)]
        rfl
      · unfold currentShare consumedRecord
        rw [update_self, update_self]
        by_cases hId : id = sub.id
        · simp [hId]
        · simp [hId, Ne.symm hId]
    have hl : 0 ≤ (usedOf mid id).toInt ∧ _ ≤ (usedOf mid id).toInt + _ := hm.used id
    have hz : 0 ≤ if id = sub.id then amount.toInt else 0 := by split <;> omega
    have hle := hu id
    refine ⟨?_, ht.le.trans ?_⟩
    · change 0 ≤ (usedOf (mid.saveSub _) id).toInt
      omega
    · change _ ≤ (usedOf (mid.saveSub _) id).toInt + (t.refreshed mid).foreign id
      omega

end

section

variable {t : Tracked} {db : Database} {record : SubscriptionPreConsumeRecord}

/-- A settlement keeps the records, or it marks one of them refunded. -/
def SameRequests (before after : Database) : Prop :=
  after.records = before.records ∨
    ∃ env old, before.records.find? old.requestId = some old ∧
      after.records = before.records.save (refundedRecord env old)

theorem SameRequests.total {before after : Database} (h : SameRequests before after)
    (resets : Int → Nat) (chargedIn : String → Nat) (net : String → Int) (id : Int) :
    after.records.total (currentShare resets chargedIn net id) =
      before.records.total (currentShare resets chargedIn net id) := by
  rcases h with hs | ⟨env, old, ho, hsa⟩
  · rw [hs]
  · rw [hsa]
    exact total_save_of_eq (r := refundedRecord env old) ho _ rfl

theorem SameRequests.mem {before after : Database} (h : SameRequests before after)
    {x : SubscriptionPreConsumeRecord} (hx : x ∈ after.records.rows) :
    ∃ y ∈ before.records.rows, x.requestId = y.requestId ∧
      x.userSubscriptionId = y.userSubscriptionId ∧ x.preConsumed = y.preConsumed := by
  rcases h with hs | ⟨env, old, ho, hsa⟩
  · rw [hs] at hx
    exact ⟨x, hx, rfl, rfl, rfl⟩
  rw [hsa] at hx
  rcases mem_save.mp hx with ⟨hm, _⟩ | ⟨rfl, _⟩
  · exact ⟨x, hm, rfl, rfl, rfl⟩
  · exact ⟨old, mem_of_find? ho, rfl, rfl, rfl⟩

theorem currentShare_settled (t : Tracked) (record : SubscriptionPreConsumeRecord) (delta id : Int) :
    currentShare t.db.resets t.chargedIn
        (Function.update t.net record.requestId (t.net record.requestId + delta)) id record =
      currentShare t.db.resets t.chargedIn t.net id record +
        if record.userSubscriptionId = id ∧ t.chargedIn record.requestId = t.db.resets id then
          delta else 0 := by
  unfold currentShare
  rw [update_self]
  split
  · rfl
  · rfl

theorem foreign_settled (t : Tracked) (db : Database) (record : SubscriptionPreConsumeRecord)
    (delta id : Int) :
    (t.settled db record delta).foreign id = t.foreign id +
      if record.userSubscriptionId = id ∧ t.chargedIn record.requestId ≠ t.db.resets id then
        max 0 (-delta) else 0 := by
  unfold Tracked.settled
  by_cases hi : record.userSubscriptionId = id
  · subst hi
    by_cases hp : t.chargedIn record.requestId = t.db.resets record.userSubscriptionId
    · simp [hp]
    · simp [hp]
  · by_cases hp : t.chargedIn record.requestId = t.db.resets record.userSubscriptionId
    · simp [hp, hi]
    · simp [hp, hi, update_of_ne (Ne.symm hi)]

theorem settled_covered (h : Covered t) (hRec : record ∈ t.db.records.rows) {delta : Int}
    (hre : SameRequests t.db db) (hrs : db.resets = t.db.resets) (hu : ∀ id, (usedOf db id).toInt =
      if id = record.userSubscriptionId then max 0 ((usedOf t.db id).toInt + delta)
      else (usedOf t.db id).toInt) :
    Covered (t.settled db record delta) := by
  constructor
  · intro x hx
    obtain ⟨y, hy, hr, hsu, ha⟩ := hre.mem hx
    change 0 < x.preConsumed ∧ t.chargedIn x.requestId ≤ db.resets x.userSubscriptionId
    rw [ha, hr, hsu, hrs]
    exact h.records y hy
  · intro id
    have ht : currentNet (t.settled db record delta) id =
        t.db.records.total (currentShare t.db.resets t.chargedIn
          (Function.update t.net record.requestId (t.net record.requestId + delta)) id) := by
      rw [← hre.total, ← hrs]
      rfl
    -- only the share of this request changes
    have hm := total_of_eq_off hRec (f := currentShare t.db.resets t.chargedIn
        (Function.update t.net record.requestId (t.net record.requestId + delta)) id)
      (g := currentShare t.db.resets t.chargedIn t.net id)
      (fun x _ hn => by
        unfold currentShare
        rw [update_of_ne hn])
    have hs := currentShare_settled t record delta id
    have hc : 0 ≤ (usedOf t.db id).toInt ∧
      t.db.records.total (currentShare t.db.resets t.chargedIn t.net id) ≤ _ := h.used id
    have hf := foreign_settled t db record delta id
    rw [ht, hf]
    change 0 ≤ (usedOf db id).toInt ∧ _ ≤ (usedOf db id).toInt + _
    rw [hu id]
    rw [hs] at hm
    by_cases hi : record.userSubscriptionId = id
    · by_cases hp : t.chargedIn record.requestId = t.db.resets id
      · simp only [hi, hp, and_self, if_true, ne_eq, not_true_eq_false, and_false, if_false] at hm ⊢
        omega
      · simp only [hi, hp, and_false, if_false, ne_eq, not_false_eq_true, and_self, if_true] at hm ⊢
        omega
    · simp only [hi, Ne.symm hi, false_and, if_false] at hm ⊢
      omega

theorem post_usedOf_toInt {fl : PostFaults} {id : Int} {delta : Int64} {before after : Database}
    (h : postConsumeUserSubscriptionDelta fl id delta before = (.ok (), after))
    (hu : 0 ≤ (usedOf before id).toInt) (hf : FitsAdd (usedOf before id) delta) (k : Int) :
    (usedOf after k).toInt =
      if k = id then max 0 ((usedOf before k).toInt + delta.toInt) else (usedOf before k).toInt := by
  obtain ⟨_, ⟨rfl, rfl⟩ | ⟨_, sub, hr, _, rfl⟩⟩ := post_ok h
  · split
    · rename_i hi
      subst hi
      change _ = max 0 (_ + 0)
      omega
    · rfl
  · rw [settleRow_usedOf hr]
    split
    · rename_i hi
      subst hi
      rw [usedOf_of_find? hr] at hf ⊢
      exact settledUsed_toInt hf
    · rfl

theorem refund_covered {env : Env} {find : Fault} {settlement : PostFaults} {requestId : String}
    (h : Covered t) : Covered (periodStep t (.refund env find settlement requestId)) := by
  rw [periodStep]
  cases hc : refundSubscriptionPreConsume env { find, settlement } requestId t.db with
  | mk r db =>
    cases refund_effect hc with
    | failed e => exact h
    | already record hfi hs =>
      rw [hfi]
      dsimp only
      rw [hs]
      exact h
    | empty record hfi _ ha =>
      exact absurd (h.records record (mem_of_find? hfi)).1 (Int64.not_lt.mpr ha)
    | settled record mid hfi hs ha hp =>
      have hfr := post_kept hp
      have hk : record.requestId = requestId := key_of_find? hfi
      rw [hfi]
      dsimp only
      rw [if_pos hs]
      refine settled_covered h (mem_of_find? hfi) (.inr ⟨env, record, ?_, ?_⟩) hfr.2.1 ?_
      · rw [hk]
        exact hfi
      · rw [← hfr.1]
        rfl
      · intro id
        have hn := (h.used record.userSubscriptionId).1
        rw [← toInt_neg_of_pos ha]
        exact post_usedOf_toInt hp hn (fitsAdd_neg (nonneg_iff.mpr hn) ha) id
    | lostMark _ _ _ _ _ _ _ hf => exact absurd ⟨rfl, rfl⟩ hf

theorem settle_covered {fl : PostFaults} {requestId : String} {delta : Int64} (h : Covered t)
    (hfit : UsageFits t (.settle fl requestId delta)) :
    Covered (periodStep t (.settle fl requestId delta)) := by
  rw [periodStep]
  cases hfi : t.db.records.find? requestId with
  | none => exact h
  | some record =>
    have hm := mem_of_find? hfi
    have hf := hfit record hm (key_of_find? hfi)
    dsimp only
    cases hc : postConsumeUserSubscriptionDelta fl record.userSubscriptionId delta t.db with
    | mk r db =>
      cases r with
      | error e =>
        rw [post_error hc]
        exact h
      | ok u =>
        have hfr := post_kept hc
        exact settled_covered h hm (.inl hfr.1) hfr.2.1 (post_usedOf_toInt hc (h.used _).1 hf)

end

theorem periodStep_covered (t : Tracked) (op : PeriodOp) (h : Covered t) (hfit : UsageFits t op) :
    Covered (periodStep t op) := by
  cases op with
  | preConsume env faults requestId userId amount =>
    rw [periodStep]
    cases hc : preConsumeUserSubscription env faults requestId userId amount t.db with
    | mk r db =>
      cases r with
      | error e =>
        rw [preConsume_error hc]
        exact h
      | ok result =>
        obtain ⟨ha, ⟨existing, _, hfi, _, _, _, rfl⟩ | ⟨hf, hch⟩⟩ := preConsume_ok hc
        · rw [hfi]
          exact h
        · rw [hf]
          exact charged_covered h hf hch ha hfit
  | refund env find settlement requestId => exact refund_covered h
  | settle faults requestId delta => exact settle_covered h hfit
  | resetDue env faults limit =>
    exact refreshed_covered h (resetDue_refreshes env faults limit t.db)

def Tracked.start (db : Database) : Tracked := ⟨db, fun _ => 0, fun _ => 0, fun _ => 0⟩

/-- A used amount covers the net consumption of the current period up to what earlier requests were
credited in it. -/
theorem current_period_covered (db : Database) (hRecords : db.records.rows = [])
    (hUsed : ∀ sub ∈ db.subs.rows, 0 ≤ sub.amountUsed) (ops : List PeriodOp)
    (hFits : Along periodStep UsageFits (Tracked.start db) ops) (id : Int) :
    currentNet (run periodStep (Tracked.start db) ops) id ≤
      (usedOf (run periodStep (Tracked.start db) ops).db id).toInt +
        (run periodStep (Tracked.start db) ops).foreign id := by
  have hst : Covered (Tracked.start db) := by
    have hr : (Tracked.start db).db.records.rows = [] := hRecords
    refine ⟨by simp [hr], fun k => ?_⟩
    have hn : 0 ≤ (usedOf db k).toInt := by
      unfold usedOf
      split
      · rename_i sub hs
        exact nonneg_iff.mp (hUsed sub (mem_of_find? hs))
      · exact le_rfl
    refine ⟨hn, ?_⟩
    rw [currentNet, Table.total, hr]
    exact Int.add_nonneg hn le_rfl
  exact ((run_invariant periodStep_covered hst ops hFits).used id).2

def minutePlan : SubscriptionPlan :=
  ⟨1, "minute", .day, 30, 0, 0, "", 100, "custom", 60⟩

def minuteEnv (now : Int) : Env := ⟨now, plainCalendar, fun _ => .ok minutePlan, 10⟩

def minuteStore : Database :=
  storeStep .initial (.create (minuteEnv 1000) {} 1 7 minutePlan "order" none)

theorem current_period_covered_two_requests :
    currentNet (run periodStep (Tracked.start minuteStore)
      [.preConsume (minuteEnv 1010) {} "a" 7 60, .preConsume (minuteEnv 1070) {} "b" 7 50,
        .refund (minuteEnv 1080) none {} "a"]) 1 ≤ 60 := by
  have hc := current_period_covered minuteStore rfl (by decide)
    [.preConsume (minuteEnv 1010) {} "a" 7 60, .preConsume (minuteEnv 1070) {} "b" 7 50,
      .refund (minuteEnv 1080) none {} "a"]
    ⟨by decide, by decide, by decide, trivial⟩ 1
  refine hc.trans ?_
  decide

theorem current_period_uncovered :
    ¬∀ ops : List PeriodOp, Along periodStep UsageFits (Tracked.start minuteStore) ops →
      ∀ id, currentNet (run periodStep (Tracked.start minuteStore) ops) id ≤
        (usedOf (run periodStep (Tracked.start minuteStore) ops).db id).toInt := by
  intro h
  have hl := h [.preConsume (minuteEnv 1010) {} "a" 7 60, .preConsume (minuteEnv 1070) {} "b" 7 50,
      .refund (minuteEnv 1080) none {} "a"] ⟨by decide, by decide, by decide, trivial⟩ 1
  revert hl
  decide

end DeepRouter.Subscription
