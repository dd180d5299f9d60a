import DeepRouter.Subscription.Ledger

/-! # What each ledger call can do -/

namespace DeepRouter.Subscription

open Store GoStrings Atomic KeyedTable List Table

inductive Refresh : Database → Database → Prop where
  | schedule {db : Database} (sub : UserSubscription) (next last : Int)
      (hr : db.subs.find? sub.id = some sub) :
      Refresh db (db.saveSub { sub with nextResetTime := next, lastResetTime := last })
  | reset {db : Database} (sub : UserSubscription) (next last : Int)
      (hr : db.subs.find? sub.id = some sub) :
      Refresh db { db.saveSub { sub with
          amountUsed := 0, nextResetTime := next, lastResetTime := last } with
        resets := Function.update db.resets sub.id (db.resets sub.id + 1) }

abbrev Refreshes := Relation.ReflTransGen Refresh

def RefreshedRow (sub sub' : UserSubscription) : Prop :=
  ∃ next last used, (used = sub.amountUsed ∨ used = 0) ∧
    sub' = { sub with amountUsed := used, nextResetTime := next, lastResetTime := last }

theorem RefreshedRow.refl (sub : UserSubscription) : RefreshedRow sub sub :=
  ⟨sub.nextResetTime, sub.lastResetTime, sub.amountUsed, .inl rfl, rfl⟩

theorem RefreshedRow.trans {a b c : UserSubscription} (hab : RefreshedRow a b)
    (hbc : RefreshedRow b c) : RefreshedRow a c := by
  obtain ⟨next, last, used, hUsed, rfl⟩ := hab
  obtain ⟨next', last', used', hUsed', rfl⟩ := hbc
  refine ⟨next', last', used', ?_, rfl⟩
  rcases hUsed' with rfl | rfl
  · exact hUsed
  · exact .inr rfl

structure RefreshFrame (db db' : Database) : Prop where
  users : db'.users = db.users
  tokens : db'.tokens = db.tokens
  records : db'.records = db.records
  orders : db'.orders = db.orders
  topUps : db'.topUps = db.topUps
  clamps : db'.clamps = db.clamps
  rows : ∀ sub' ∈ db'.subs.rows, ∃ sub ∈ db.subs.rows, RefreshedRow sub sub'
  kept : ∀ sub ∈ db.subs.rows, ∃ sub' ∈ db'.subs.rows, RefreshedRow sub sub'

variable {sub : UserSubscription}

theorem saveSub_rows {db : Database} (sub' : UserSubscription)
    (hr : db.subs.find? sub.id = some sub) (hs : RefreshedRow sub sub') :
    (∀ x ∈ (db.saveSub sub').subs.rows, ∃ y ∈ db.subs.rows, RefreshedRow y x) ∧
      ∀ y ∈ db.subs.rows, ∃ x ∈ (db.saveSub sub').subs.rows, RefreshedRow y x := by
  have hi : sub'.id = sub.id := by
    obtain ⟨_, _, _, _, rfl⟩ := hs
    rfl
  constructor
  · intro x hx
    rcases mem_save.mp hx with ⟨hm, _⟩ | ⟨rfl, _⟩
    · exact ⟨x, hm, .refl x⟩
    · exact ⟨sub, mem_of_find? hr, hs⟩
  · intro y hy
    by_cases h : y.id = sub'.id
    · have he : y = sub := db.subs.eq_of_key_eq hy (mem_of_find? hr) (h.trans hi)
      exact ⟨sub', mem_save.mpr (.inr ⟨rfl, y, hy, h⟩), he ▸ hs⟩
    · exact ⟨y, mem_save.mpr (.inl ⟨hy, h⟩), .refl y⟩

variable {db db' : Database}

theorem Refresh.frame (h : Refresh db db') : RefreshFrame db db' := by
  cases h with
  | schedule sub next last hro =>
    obtain ⟨hr, hk⟩ := saveSub_rows
      { sub with nextResetTime := next, lastResetTime := last } hro
      ⟨next, last, sub.amountUsed, .inl rfl, rfl⟩
    exact ⟨rfl, rfl, rfl, rfl, rfl, rfl, hr, hk⟩
  | reset sub next last hro =>
    obtain ⟨hr, hk⟩ := saveSub_rows
      { sub with amountUsed := 0, nextResetTime := next, lastResetTime := last } hro
      ⟨next, last, 0, .inr rfl, rfl⟩
    exact ⟨rfl, rfl, rfl, rfl, rfl, rfl, hr, hk⟩

theorem Refreshes.frame (h : Refreshes db db') : RefreshFrame db db' := by
  induction h with
  | refl =>
    exact ⟨rfl, rfl, rfl, rfl, rfl, rfl, fun sub hsu => ⟨sub, hsu, .refl sub⟩,
      fun sub hsu => ⟨sub, hsu, .refl sub⟩⟩
  | tail _ hs ih =>
    have hl := hs.frame
    refine ⟨hl.users.trans ih.users, hl.tokens.trans ih.tokens,
      hl.records.trans ih.records, hl.orders.trans ih.orders,
      hl.topUps.trans ih.topUps, hl.clamps.trans ih.clamps, ?_, ?_⟩
    · intro c hc
      obtain ⟨b, hb, hbc⟩ := hl.rows c hc
      obtain ⟨a, ha, hab⟩ := ih.rows b hb
      exact ⟨a, ha, hab.trans hbc⟩
    · intro a ha
      obtain ⟨b, hb, hab⟩ := ih.kept a ha
      obtain ⟨c, hc, hbc⟩ := hl.kept b hb
      exact ⟨c, hc, hab.trans hbc⟩

variable {env : Env}

theorem maybeReset_ok {fault : Fault} {sub sub' : UserSubscription}
    {plan : SubscriptionPlan} (hr : db.subs.find? sub.id = some sub)
    (h : maybeResetUserSubscriptionWithPlanTx env fault sub plan db = .ok (sub', db')) :
    Refreshes db db' ∧ RefreshedRow sub sub' ∧ db'.subs.find? sub'.id = some sub' ∧
      ∀ k, sub.id ≠ k → db'.subs.find? k = db.subs.find? k := by
  unfold maybeResetUserSubscriptionWithPlanTx at h
  split at h
  · cases h
    exact ⟨.refl, .refl sub, hr, fun _ _ => rfl⟩
  · rename_i row ho
    obtain ⟨_, _, hOk⟩ := bind_eq_ok.mp h
    obtain ⟨next, last, rfl⟩ := resetOutcome_scheduled ho
    cases hOk
    exact ⟨.single (.schedule sub next last hr), ⟨next, last, sub.amountUsed, .inl rfl, rfl⟩,
      find?_save_self hr, fun _ hk => find?_save_of_ne hk⟩
  · rename_i row ho
    obtain ⟨_, _, hOk⟩ := bind_eq_ok.mp h
    obtain ⟨next, last, rfl⟩ := resetOutcome_reset ho
    cases hOk
    exact ⟨.single (.reset sub next last hr), ⟨next, last, 0, .inr rfl, rfl⟩,
      find?_save_self hr, fun _ hk => find?_save_of_ne hk⟩
  · cases h

/-- After some refreshes one of the candidates takes the amount, and the record of the request is
new. -/
def Charges (env : Env) (requestId : String) (userId : Int) (amount : Int64)
    (candidates : List UserSubscription) (db : Database) (result : SubscriptionPreConsumeResult)
    (db' : Database) : Prop :=
  ∃ mid candidate sub records, Refreshes db mid ∧
    (∀ k, k ∉ candidates.map UserSubscription.id → mid.subs.find? k = db.subs.find? k) ∧
    candidate ∈ candidates ∧ RefreshedRow candidate sub ∧ mid.subs.find? sub.id = some sub ∧
    ¬(0 < sub.amountTotal ∧ sub.amountTotal - sub.amountUsed < amount) ∧
    mid.records.insert? (consumedRecord env requestId userId amount sub) = some records ∧
    result = ⟨sub.id, amount, sub.amountTotal, sub.amountUsed, sub.amountUsed + amount⟩ ∧
    db' = { mid.saveSub { sub with amountUsed := sub.amountUsed + amount } with records }

theorem createRecord_ok {fault : Fault} {rec : SubscriptionPreConsumeRecord}
    (h : createRecord fault rec db = .ok db') :
    ∃ records, db.records.insert? rec = some records ∧ db' = { db with records } := by
  unfold createRecord at h
  obtain ⟨_, _, h⟩ := bind_eq_ok.mp h
  obtain ⟨records, hi, h⟩ := bind_eq_ok.mp h
  cases h
  exact ⟨records, require_eq_ok.mp hi, rfl⟩

variable {faults : PreConsumeFaults} {requestId : String} {userId : Int} {amount : Int64}
  {result : SubscriptionPreConsumeResult}

theorem chargeCandidate_ok (hf : db.records.find? requestId = none)
    (h : chargeCandidate env faults requestId userId amount sub db = .ok (result, db')) :
    ∃ records, db.records.insert? (consumedRecord env requestId userId amount sub) = some records ∧
      result = ⟨sub.id, amount, sub.amountTotal, sub.amountUsed, sub.amountUsed + amount⟩ ∧
      db' = { db.saveSub { sub with amountUsed := sub.amountUsed + amount } with records } := by
  unfold chargeCandidate at h
  split at h
  · -- the duplicate branch needs a record of the request, and there is none
    rw [hf] at h
    split at h
    · rename_i hd
      cases hd
    · cases h
  · rename_i mid hc
    obtain ⟨records, hi, rfl⟩ := createRecord_ok hc
    obtain ⟨_, _, h⟩ := bind_eq_ok.mp h
    cases h
    exact ⟨records, hi, rfl, rfl⟩

theorem preConsumeCandidates_ok {cs : List UserSubscription}
    (hfre : db.records.find? requestId = none) (hro : ∀ c ∈ cs, db.subs.find? c.id = some c)
    (hn : (cs.map UserSubscription.id).Nodup)
    (h : preConsumeCandidates env faults requestId userId amount cs db = .ok (result, db')) :
    Charges env requestId userId amount cs db result db' := by
  induction cs generalizing db with
  | nil => cases h
  | cons candidate rest ih =>
    rw [preConsumeCandidates] at h
    obtain ⟨plan, _, h⟩ := bind_eq_ok.mp h
    obtain ⟨⟨sub, mid⟩, hrs, h⟩ := bind_eq_ok.mp h
    obtain ⟨href, hRow, hfn, ho⟩ := maybeReset_ok (hro candidate mem_cons_self) hrs
    have hf := Refreshes.frame href
    rw [map_cons, nodup_cons] at hn
    have hfr : mid.records.find? requestId = none := by rw [hf.records, hfre]
    dsimp only at h
    split at h
    · -- not enough quota left here: the rows of the later cs are still as listed
      have hr : ∀ c ∈ rest, mid.subs.find? c.id = some c := by
        intro c hc
        rw [ho c.id (fun he => hn.1 (he ▸ mem_map.mpr ⟨c, hc, rfl⟩))]
        exact hro c (mem_cons_of_mem _ hc)
      obtain ⟨last, chosen, row, records, hl, hke, hch, hChg⟩ := ih hfr hr hn.2 h
      refine ⟨last, chosen, row, records, href.trans hl, ?_, mem_cons_of_mem _ hch, hChg⟩
      intro k hk
      rw [map_cons, mem_cons, not_or] at hk
      rw [hke k hk.2, ho k (Ne.symm hk.1)]
    · rename_i hq
      obtain ⟨records, hi, hre, hd⟩ := chargeCandidate_ok hfr h
      refine ⟨mid, candidate, sub, records, href, ?_, mem_cons_self, hRow, hfn, hq, hi, hre, hd⟩
      intro k hk
      rw [map_cons, mem_cons, not_or] at hk
      exact ho k (Ne.symm hk.1)

theorem mem_activeSubscriptions {now userId : Int} {db : Database} :
    sub ∈ activeSubscriptions now userId db ↔
      sub ∈ db.subs.rows ∧ sub.userId = userId ∧ sub.status = .active ∧ now < sub.endTime := by
  simp [activeSubscriptions, mem_insertionSort]

theorem activeSubscriptions_nodup (now userId : Int) (db : Database) :
    ((activeSubscriptions now userId db).map UserSubscription.id).Nodup := by
  unfold activeSubscriptions
  rw [((perm_insertionSort _ _).map UserSubscription.id).nodup_iff]
  exact (filter_sublist.map _).nodup db.subs.nodup

theorem preConsume_ok
    (h : preConsumeUserSubscription env faults requestId userId amount db = (.ok result, db')) :
    0 < amount ∧
    ((∃ existing sub, db.records.find? requestId = some existing ∧ existing.status = .consumed ∧
        db.subs.find? existing.userSubscriptionId = some sub ∧
        result = replayResult sub existing.preConsumed ∧ db' = db) ∨
      db.records.find? requestId = none ∧ Charges env requestId userId amount
        (activeSubscriptions env.now userId db) db result db') := by
  unfold preConsumeUserSubscription at h
  split at h
  · cases h
  split at h
  · cases h
  split at h
  · cases h
  rename_i ha
  refine ⟨Int64.not_le.mp ha, ?_⟩
  obtain ⟨hb, _⟩ := transaction_ok h
  unfold preConsumeTx at hb
  obtain ⟨_, _, hb⟩ := bind_eq_ok.mp hb
  split at hb
  · rename_i existing he
    split at hb
    · cases hb
    rename_i hSt
    obtain ⟨_, _, hb⟩ := bind_eq_ok.mp hb
    obtain ⟨sub, hs, hb⟩ := bind_eq_ok.mp hb
    cases hb
    have hco : existing.status = .consumed := by
      cases hca : existing.status with
      | consumed => rfl
      | refunded => exact absurd hca hSt
    exact .inl ⟨existing, sub, he, hco, require_eq_ok.mp hs, rfl, rfl⟩
  · rename_i hf
    split at hb
    · cases hb
    · cases hb
    refine .inr ⟨hf, preConsumeCandidates_ok hf ?_
      (activeSubscriptions_nodup env.now userId db) hb⟩
    intro c hc
    exact find?_of_mem (mem_activeSubscriptions.mp hc).1

theorem preConsume_error {e : Err}
    (h : preConsumeUserSubscription env faults requestId userId amount db = (.error e, db')) :
    db' = db := by
  unfold preConsumeUserSubscription at h
  split at h
  · cases h
    rfl
  split at h
  · cases h
    rfl
  split at h
  · cases h
    rfl
  · exact transaction_error h

def settleRow (db : Database) (sub : UserSubscription) (delta : Int64) : Database :=
  { db.saveSub { sub with amountUsed := settledUsed sub.amountUsed delta } with
    clamps := db.clamps + if sub.amountUsed + delta < 0 then 1 else 0 }

theorem post_ok {faults : PostFaults} {id : Int} {delta : Int64}
    (h : postConsumeUserSubscriptionDelta faults id delta db = (.ok (), db')) :
    0 < id ∧ ((delta = 0 ∧ db' = db) ∨
      delta ≠ 0 ∧ ∃ sub, db.subs.find? id = some sub ∧
        ¬(0 < sub.amountTotal ∧ sub.amountTotal < settledUsed sub.amountUsed delta) ∧
        db' = settleRow db sub delta) := by
  unfold postConsumeUserSubscriptionDelta at h
  split at h
  · cases h
  rename_i hi
  refine ⟨by omega, ?_⟩
  split at h
  · rename_i hd
    cases h
    exact .inl ⟨hd, rfl⟩
  rename_i hd
  obtain ⟨hb, _⟩ := transaction_ok h
  unfold postConsumeTx at hb
  obtain ⟨_, _, hb⟩ := bind_eq_ok.mp hb
  obtain ⟨sub, hs, hb⟩ := bind_eq_ok.mp hb
  dsimp only at hb
  split at hb
  · cases hb
  rename_i ht
  obtain ⟨_, _, hb⟩ := bind_eq_ok.mp hb
  cases hb
  exact .inr ⟨hd, sub, require_eq_ok.mp hs, ht, rfl⟩

theorem post_error {faults : PostFaults} {id : Int} {delta : Int64} {e : Err}
    (h : postConsumeUserSubscriptionDelta faults id delta db = (.error e, db')) : db' = db := by
  unfold postConsumeUserSubscriptionDelta at h
  split at h
  · cases h
    rfl
  split at h
  · cases h
  · exact transaction_error h

def refundedRecord (env : Env) (record : SubscriptionPreConsumeRecord) :
    SubscriptionPreConsumeRecord :=
  { record with status := .refunded, updatedAt := env.now }

theorem markRefunded_cases (env : Env) (faults : RefundFaults)
    (rec : SubscriptionPreConsumeRecord) (db : Database) :
    (faults.save = none ∧ faults.commit = none ∧
      markRefunded env faults rec db = (.ok (), db.saveRecord (refundedRecord env rec))) ∨
    (¬(faults.save = none ∧ faults.commit = none) ∧
      ∃ e, markRefunded env faults rec db = (.error e, db)) := by
  unfold markRefunded
  cases hs : faults.save with
  | some e =>
    exact .inr ⟨by simp, e, by cases faults.commit <;> rfl⟩
  | none =>
    cases hc : faults.commit with
    | some e => exact .inr ⟨by simp, e, rfl⟩
    | none => exact .inl ⟨rfl, rfl, rfl⟩

/-- Nothing; or a record that holds nothing is marked; or its amount is settled and the mark made or
lost. -/
inductive RefundEffect (env : Env) (faults : RefundFaults) (requestId : String) (db : Database) :
    Except Err Unit → Database → Prop where
  | failed (e : Err) : RefundEffect env faults requestId db (.error e) db
  | already (record : SubscriptionPreConsumeRecord)
      (hfi : db.records.find? requestId = some record) (hSt : record.status = .refunded) :
      RefundEffect env faults requestId db (.ok ()) db
  | empty (record : SubscriptionPreConsumeRecord)
      (hfi : db.records.find? requestId = some record) (hSt : record.status = .consumed)
      (ha : record.preConsumed ≤ 0) :
      RefundEffect env faults requestId db (.ok ()) (db.saveRecord (refundedRecord env record))
  | settled (record : SubscriptionPreConsumeRecord) (mid : Database)
      (hfi : db.records.find? requestId = some record) (hSt : record.status = .consumed)
      (ha : 0 < record.preConsumed)
      (hp : postConsumeUserSubscriptionDelta faults.settlement record.userSubscriptionId
        (-record.preConsumed) db = (.ok (), mid)) (hs : faults.save = none)
      (hc : faults.commit = none) :
      RefundEffect env faults requestId db (.ok ()) (mid.saveRecord (refundedRecord env record))
  | lostMark (record : SubscriptionPreConsumeRecord) (mid : Database) (e : Err)
      (hfi : db.records.find? requestId = some record) (hSt : record.status = .consumed)
      (ha : 0 < record.preConsumed)
      (hp : postConsumeUserSubscriptionDelta faults.settlement record.userSubscriptionId
        (-record.preConsumed) db = (.ok (), mid))
      (hf : ¬(faults.save = none ∧ faults.commit = none)) :
      RefundEffect env faults requestId db (.error e) mid

theorem refund_effect {faults : RefundFaults}
    {r : Except Err Unit} (h : refundSubscriptionPreConsume env faults requestId db = (r, db')) :
    RefundEffect env faults requestId db r db' := by
  have hp : r = (refundSubscriptionPreConsume env faults requestId db).1 ∧
      db' = (refundSubscriptionPreConsume env faults requestId db).2 := by
    rw [h]
    exact ⟨rfl, rfl⟩
  rw [hp.1, hp.2]
  unfold refundSubscriptionPreConsume
  split
  · exact .failed _
  split
  · exact .failed _
  · exact .failed _
  rename_i record _ hfi
  split
  · rename_i hSt
    exact .already record hfi hSt
  rename_i hSt
  have hcon : record.status = .consumed := by
    cases hc : record.status with
    | consumed => rfl
    | refunded => exact absurd hc hSt
  split
  · rename_i ha
    rcases markRefunded_cases env faults record db with ⟨_, _, hm⟩ | ⟨_, e, hm⟩
    · rw [hm]
      exact .empty record hfi hcon ha
    · rw [hm]
      exact .failed e
  · rename_i ha
    split
    · rename_i e mid hpo
      rw [post_error hpo]
      exact .failed e
    rename_i mid hpo
    rcases markRefunded_cases env faults record mid with
      ⟨hs, hco, hm⟩ | ⟨hf, e, hm⟩
    · rw [hm]
      exact .settled record mid hfi hcon (Int64.not_le.mp ha) hpo hs hco
    · rw [hm]
      exact .lostMark record mid e hfi hcon (Int64.not_le.mp ha) hpo hf

theorem resetLockedTx_ok {faults : ResetFaults} {id : Int} {plan : SubscriptionPlan} {done : Bool}
    (h : resetLockedTx env faults id plan db = .ok (done, db')) : Refreshes db db' := by
  unfold resetLockedTx at h
  split at h
  · rename_i locked _ hl
    split at h
    · obtain ⟨⟨sub, mid⟩, hr, h⟩ := bind_eq_ok.mp h
      cases h
      have hro : db.subs.find? locked.id = some locked := by
        rw [key_of_find? hl]
        exact hl
      exact (maybeReset_ok hro hr).1
    · cases h
      exact .refl
  · cases h
    exact .refl

theorem resetDueRows_refreshes (env : Env) (faults : ResetFaults) (subs : List UserSubscription)
    (count : Nat) (db : Database) : Refreshes db (resetDueRows env faults subs count db).2 := by
  induction subs generalizing count db with
  | nil => exact .refl
  | cons sub rest ih =>
    rw [resetDueRows]
    split
    · exact ih count db
    split
    · exact .refl
    · exact .refl
    · rename_i done mid ht _
      exact (resetLockedTx_ok ht).trans (ih _ mid)

theorem resetDue_refreshes (env : Env) (faults : ResetFaults) (limit : Int) (db : Database) :
    Refreshes db (resetDueSubscriptions env faults limit db).2 := by
  unfold resetDueSubscriptions
  split
  · exact .refl
  · exact resetDueRows_refreshes env faults _ 0 db

theorem cleanup_cases (env : Env) (fault : Fault) (olderThanSeconds : Int) (db : Database) :
    (cleanupSubscriptionPreConsumeRecords env fault olderThanSeconds db).2 = db ∨
      ∃ p, (cleanupSubscriptionPreConsumeRecords env fault olderThanSeconds db).2 =
        { db with records := db.records.keep p } := by
  unfold cleanupSubscriptionPreConsumeRecords
  cases fault with
  | some e => exact .inl rfl
  | none => exact .inr ⟨_, rfl⟩

inductive LedgerOp where
  | preConsume (env : Env) (faults : PreConsumeFaults) (requestId : String) (userId : Int)
      (amount : Int64)
  | post (faults : PostFaults) (userSubscriptionId : Int) (delta : Int64)
  | refund (env : Env) (faults : RefundFaults) (requestId : String)
  | resetDue (env : Env) (faults : ResetFaults) (limit : Int)
  | cleanup (env : Env) (fault : Fault) (olderThanSeconds : Int)

def ledgerStep (db : Database) : LedgerOp → Database
  | .preConsume env faults requestId userId amount =>
    (preConsumeUserSubscription env faults requestId userId amount db).2
  | .post faults userSubscriptionId delta =>
    (postConsumeUserSubscriptionDelta faults userSubscriptionId delta db).2
  | .refund env faults requestId => (refundSubscriptionPreConsume env faults requestId db).2
  | .resetDue env faults limit => (resetDueSubscriptions env faults limit db).2
  | .cleanup env fault olderThanSeconds =>
    (cleanupSubscriptionPreConsumeRecords env fault olderThanSeconds db).2

end DeepRouter.Subscription
