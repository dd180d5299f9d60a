import DeepRouter.Subscription.QuotaBounds

/-! # One record for each request -/

namespace DeepRouter.Subscription

open Store Atomic KeyedTable Runs Table MachineInt

/-- The two transactions of a refund are taken as one. -/
inductive RequestOp where
  | preConsume (env : Env) (faults : PreConsumeFaults) (requestId : String) (userId : Int)
      (amount : Int64)
  | refund (env : Env) (find : Fault) (settlement : PostFaults) (requestId : String)
  | post (faults : PostFaults) (userSubscriptionId : Int) (delta : Int64)

def requestStep (db : Database) : RequestOp → Database
  | .preConsume env faults requestId userId amount =>
    (preConsumeUserSubscription env faults requestId userId amount db).2
  | .refund env find settlement requestId =>
    (refundSubscriptionPreConsume env { find, settlement } requestId db).2
  | .post faults userSubscriptionId delta =>
    (postConsumeUserSubscriptionDelta faults userSubscriptionId delta db).2

def consumedOf (id : Int) (record : SubscriptionPreConsumeRecord) : Int :=
  if record.userSubscriptionId = id ∧ record.status = .consumed then record.preConsumed.toInt else 0

def consumedTotal (db : Database) (id : Int) : Int := db.records.total (consumedOf id)

def successfulDelta (id : Int) (db : Database) : RequestOp → Int
  | .post faults userSubscriptionId delta =>
    match (postConsumeUserSubscriptionDelta faults userSubscriptionId delta db).1 with
    | .ok _ => if id = userSubscriptionId then delta.toInt else 0
    | .error _ => 0
  | _ => 0

def settledDeltas (id : Int) : Database → List RequestOp → Int
  | _, [] => 0
  | db, op :: ops => successfulDelta id db op + settledDeltas id (requestStep db op) ops

def RecordsPositive (db : Database) : Prop := ∀ record ∈ db.records.rows, 0 < record.preConsumed

def unrecorded (db : Database) (id : Int) : Int64 := usedOf db id - toInt64 (consumedTotal db id)

theorem toInt64_if (c : Prop) [Decidable c] (amount : Int64) :
    toInt64 (if c then amount.toInt else 0) = if c then amount else 0 := by
  rw [apply_ite toInt64, toInt64_toInt, map_zero]

theorem consumedOf_refunded (env : Env) (id : Int) (record : SubscriptionPreConsumeRecord) :
    consumedOf id (refundedRecord env record) = 0 := by
  simp [consumedOf, refundedRecord]

variable {requestId : String} {userId : Int} {amount : Int64} {db db' : Database}

theorem Charges.consumedTotal {env : Env}
    {cs : List UserSubscription} {result : SubscriptionPreConsumeResult}
    (h : Charges env requestId userId amount cs db result db') (id : Int) :
    consumedTotal db' id =
      consumedTotal db id + if id = result.userSubscriptionId then amount.toInt else 0 := by
  obtain ⟨record, hi, _, hr, ha, _, hs⟩ := h.records
  unfold Subscription.consumedTotal
  rw [total_insert? hi]
  congr 1
  rw [consumedOf, hs, hr, ha]
  by_cases hId : id = result.userSubscriptionId
  · simp [hId]
  · simp [hId, Ne.symm hId]

/-- What a call can do: nothing, a charge with its record, a record marked after its amount was
given back, or a delta. -/
inductive RequestEffect (db : Database) : RequestOp → Database → Prop where
  | kept {op : RequestOp} (hd : ∀ id, successfulDelta id db op = 0) : RequestEffect db op db
  | charged {env : Env} {faults : PreConsumeFaults} {requestId : String} {userId : Int}
      {amount : Int64} {cs : List UserSubscription} {result : SubscriptionPreConsumeResult}
      {db' : Database} (ha : 0 < amount)
      (hf : db.records.find? requestId = none)
      (hc : Charges env requestId userId amount cs db result db') :
      RequestEffect db (.preConsume env faults requestId userId amount) db'
  | refunded {env : Env} {find : Fault} {settlement : PostFaults} {requestId : String}
      {mid : Database} {record : SubscriptionPreConsumeRecord}
      (hf : db.records.find? requestId = some record)
      (hs : record.status = .consumed)
      (hm : mid.records = db.records ∧ mid.resets = db.resets ∧ db.clamps ≤ mid.clamps)
      (hp : record.preConsumed ≤ 0 ∨ postConsumeUserSubscriptionDelta settlement
        record.userSubscriptionId (-record.preConsumed) db = (.ok (), mid)) :
      RequestEffect db (.refund env find settlement requestId)
        (mid.saveRecord (refundedRecord env record))
  | posted {faults : PostFaults} {id : Int} {delta : Int64} {db' : Database}
      (hp : postConsumeUserSubscriptionDelta faults id delta db = (.ok (), db')) :
      RequestEffect db (.post faults id delta) db'

theorem requestStep_effect (db : Database) (op : RequestOp) :
    RequestEffect db op (requestStep db op) := by
  cases op with
  | preConsume env faults requestId userId amount =>
    rw [requestStep]
    cases h : preConsumeUserSubscription env faults requestId userId amount db with
    | mk r db' =>
      cases r with
      | error e =>
        rw [preConsume_error h]
        exact .kept fun _ => rfl
      | ok result =>
        obtain ⟨ha, ⟨_, _, _, _, _, _, rfl⟩ | ⟨hf, hc⟩⟩ := preConsume_ok h
        · exact .kept fun _ => rfl
        · exact .charged ha hf hc
  | refund env find settlement requestId =>
    rw [requestStep]
    cases h : refundSubscriptionPreConsume env { find, settlement } requestId db with
    | mk r db' =>
      cases refund_effect h with
      | failed e => exact .kept fun _ => rfl
      | already => exact .kept fun _ => rfl
      | empty record hf hs ha => exact .refunded hf hs ⟨rfl, rfl, le_refl _⟩ (.inl ha)
      | settled record mid hf hs _ hp =>
        obtain ⟨hr, hre, hc, -⟩ := post_kept hp
        exact .refunded hf hs ⟨hr, hre, hc⟩ (.inr hp)
      | lostMark _ _ _ _ _ _ _ hfl => exact absurd ⟨rfl, rfl⟩ hfl
  | post faults id delta =>
    rw [requestStep]
    cases h : postConsumeUserSubscriptionDelta faults id delta db with
    | mk r db' =>
      cases r with
      | error e =>
        rw [post_error h]
        refine .kept fun _ => ?_
        rw [successfulDelta, h]
      | ok _ => exact .posted h

theorem RequestEffect.positive {op : RequestOp} (h : RequestEffect db op db')
    (hd : RecordsPositive db) : RecordsPositive db' := by
  cases h with
  | kept _ => exact hd
  | charged ha _ hc =>
    obtain ⟨record, hi, _, _, hp, _, _⟩ := hc.records
    intro x hx
    rcases (mem_insert? hi).mp hx with hx | rfl
    · exact hd x hx
    · rw [hp]
      exact ha
  | @refunded _ _ _ _ _ record hf _ hm _ =>
    intro x hx
    rcases mem_save.mp hx with ⟨hx, _⟩ | ⟨rfl, _⟩
    · rw [hm.1] at hx
      exact hd x hx
    · exact hd record (mem_of_find? hf)
  | posted hp =>
    intro x hx
    rw [(post_kept hp).1] at hx
    exact hd x hx

theorem RequestEffect.ghost {op : RequestOp} (h : RequestEffect db op db') :
    (∀ id, db.resets id ≤ db'.resets id) ∧ db.clamps ≤ db'.clamps := by
  cases h with
  | kept _ => exact ⟨fun _ => le_refl _, le_refl _⟩
  | charged _ _ hc => exact ⟨hc.resets_le, hc.clamps.ge⟩
  | refunded _ _ hm _ => exact ⟨fun id => (congrFun hm.2.1 id).ge, hm.2.2⟩
  | posted hp => exact ⟨fun id => (congrFun (post_kept hp).2.1 id).ge, (post_kept hp).2.2.1⟩

theorem run_ghost (db : Database) (ops : List RequestOp) :
    (∀ id, db.resets id ≤ (run requestStep db ops).resets id) ∧
      db.clamps ≤ (run requestStep db ops).clamps := by
  refine run_preserves (I := fun db' : Database => (∀ id, db.resets id ≤ db'.resets id) ∧
    db.clamps ≤ db'.clamps) ?_ ⟨fun _ => le_refl _, le_refl _⟩ ops
  intro mid op hm
  have hs := (requestStep_effect mid op).ghost
  exact ⟨fun id => (hm.1 id).trans (hs.1 id), hm.2.trans hs.2⟩

theorem consumedTotal_saveRefunded {env : Env} {mid : Database}
    {record : SubscriptionPreConsumeRecord} (hf : db.records.find? requestId = some record)
    (hs : record.status = .consumed) (hr : mid.records = db.records) (id : Int) :
    consumedTotal (mid.saveRecord (refundedRecord env record)) id +
      (if id = record.userSubscriptionId then record.preConsumed.toInt else 0) =
        consumedTotal db id := by
  have hk : record.requestId = requestId := key_of_find? hf
  have hm : mid.records.find? (refundedRecord env record).requestId = some record := by
    change mid.records.find? record.requestId = some record
    rw [hr, hk, hf]
  have ht : consumedTotal (mid.saveRecord (refundedRecord env record)) id + consumedOf id record =
      consumedTotal mid id + consumedOf id (refundedRecord env record) :=
    total_save hm (consumedOf id)
  have ha : consumedTotal mid id = consumedTotal db id := by rw [consumedTotal, hr, consumedTotal]
  rw [consumedOf_refunded, add_zero, ha] at ht
  rw [← ht, consumedOf, hs]
  by_cases hi : id = record.userSubscriptionId
  · simp [hi]
  · simp [hi, Ne.symm hi]

theorem RequestEffect.unrecorded {op : RequestOp} (h : RequestEffect db op db')
    (hd : RecordsPositive db) (hr : db'.resets = db.resets) (hcl : db'.clamps = db.clamps)
    (id : Int) :
    unrecorded db' id = unrecorded db id + toInt64 (successfulDelta id db op) := by
  unfold Subscription.unrecorded
  cases h with
  | kept hk => rw [hk, map_zero, add_zero]
  | charged _ _ hc =>
    change _ = _ + toInt64 0
    have hu := hc.usedOf id
    rw [if_pos (congrFun hr id)] at hu
    rw [hu, hc.consumedTotal id, map_add, toInt64_if, map_zero]
    abel
  | @refunded env _ _ _ mid record hf hs hm hp =>
    obtain hp | hp := hp
    · exact absurd (hd record (mem_of_find? hf)) (Int64.not_lt.mpr hp)
    change usedOf mid id - _ = _ + toInt64 0
    rw [post_usedOf hp hcl id, ← consumedTotal_saveRefunded hf hs hm.1 id, map_add, toInt64_if,
      map_zero]
    split <;> abel
  | posted hp =>
    have ht : consumedTotal db' id = consumedTotal db id := by
      rw [consumedTotal, (post_kept hp).1, consumedTotal]
    rw [post_usedOf hp hcl id, ht, successfulDelta, hp, toInt64_if]
    abel

theorem run_unrecorded {db : Database} (ops : List RequestOp) (hd : RecordsPositive db)
    (hrs : (run requestStep db ops).resets = db.resets)
    (hcl : (run requestStep db ops).clamps = db.clamps) (id : Int) :
    unrecorded (run requestStep db ops) id =
      unrecorded db id + toInt64 (settledDeltas id db ops) := by
  induction ops generalizing db with
  | nil => rw [run_nil, settledDeltas, map_zero, add_zero]
  | cons op ops ih =>
    rw [run_cons] at hrs hcl ⊢
    -- the counters stand still over the whole run, hence over its first call and over the rest
    have hf := (requestStep_effect db op).ghost
    have hre := run_ghost (requestStep db op) ops
    have hr : (requestStep db op).resets = db.resets := by
      funext k
      have hl := hre.1 k
      rw [hrs] at hl
      exact le_antisymm hl (hf.1 k)
    have hc : (requestStep db op).clamps = db.clamps := by
      have hl := hre.2
      rw [hcl] at hl
      exact le_antisymm hl hf.2
    rw [ih ((requestStep_effect db op).positive hd) (hrs.trans hr.symm) (hcl.trans hc.symm),
      (requestStep_effect db op).unrecorded hd hr hc, settledDeltas, map_add, add_assoc]

theorem RequestEffect.keeps_refunded {op : RequestOp} (h : RequestEffect db op db')
    {record : SubscriptionPreConsumeRecord} (hfi : db.records.find? requestId = some record)
    (hre : record.status = .refunded) : db'.records.find? requestId = some record := by
  cases h with
  | kept _ => exact hfi
  | charged _ hf hc =>
    obtain ⟨new, hi, hk, _⟩ := hc.records
    have hn : new.requestId ≠ requestId := by
      intro he
      rw [← hk, he, hfi] at hf
      cases hf
    exact (find?_insert?_of_ne hi hn).trans hfi
  | @refunded env _ _ request mid old hf hs hm _ =>
    -- a refunded record is not the one that is marked
    have hn : (refundedRecord env old).requestId ≠ requestId := by
      intro he
      have hk : old.requestId = request := key_of_find? hf
      rw [← hk, show old.requestId = requestId from he, hfi] at hf
      cases hf
      cases hs.symm.trans hre
    exact (find?_save_of_ne hn).trans (hm.1 ▸ hfi)
  | posted hp =>
    rw [(post_kept hp).1]
    exact hfi

theorem preConsume_returns_record {env : Env} {faults : PreConsumeFaults}
    {result : SubscriptionPreConsumeResult}
    (h : preConsumeUserSubscription env faults requestId userId amount db = (.ok result, db')) :
    ∃ record, db'.records.find? requestId = some record ∧ record.status = .consumed ∧
      result.userSubscriptionId = record.userSubscriptionId ∧
      result.preConsumed = record.preConsumed := by
  obtain ⟨_, ⟨existing, sub, hf, hSt, hs, rfl, rfl⟩ | ⟨_, hc⟩⟩ := preConsume_ok h
  · have hk : sub.id = existing.userSubscriptionId := key_of_find? hs
    exact ⟨existing, hf, hSt, hk, rfl⟩
  · obtain ⟨record, hi, rfl, hr, ha, hre, hSt⟩ := hc.records
    exact ⟨record, find?_insert?_self hi, hSt, hr.symm, hre.trans ha.symm⟩

/-- A used amount is the sum over the records and the deltas just when that sum is in range. -/
theorem request_ledger_identity_iff (db : Database) (hRecords : db.records.rows = [])
    (ops : List RequestOp) (hResets : (run requestStep db ops).resets = db.resets)
    (hClamps : (run requestStep db ops).clamps = db.clamps) :
    (∀ id,
      let moved := consumedTotal (run requestStep db ops) id + settledDeltas id db ops
      (usedOf (run requestStep db ops) id).toInt = (usedOf db id).toInt + moved ↔
        InRange ((usedOf db id).toInt + moved)) ∧
    (∀ record ∈ (run requestStep db ops).records.rows, ∀ record' ∈ (run requestStep db
      ops).records.rows, record.requestId = record'.requestId → record = record') ∧
    (∀ first second requestId record, ops = first ++ second → (run requestStep db
      first).records.find? requestId = some record → record.status = .refunded → (run requestStep db
      ops).records.find? requestId = some record) ∧
    (∀ env faults requestId userId amount result db',
      preConsumeUserSubscription env faults requestId userId amount (run requestStep db ops) =
        (.ok result, db') →
      ∃ record, db'.records.find? requestId = some record ∧ record.status = .consumed ∧
        result.userSubscriptionId = record.userSubscriptionId ∧
        result.preConsumed = record.preConsumed) := by
  refine ⟨?_, ?_, ?_, ?_⟩
  · intro id
    have hp : RecordsPositive db := by
      intro record hRecord
      rw [hRecords] at hRecord
      cases hRecord
    have hs : consumedTotal db id = 0 := by
      rw [consumedTotal, Table.total, hRecords]
      rfl
    have hr := run_unrecorded ops hp hResets hClamps id
    rw [unrecorded, unrecorded, hs, map_zero, sub_zero, sub_eq_iff_eq_add] at hr
    refine toInt_eq_iff_inRange (hr.trans ?_)
    rw [map_add]
    abel
  · intro record hRecord record' hRecord' hk
    exact (run requestStep db ops).records.eq_of_key_eq hRecord hRecord' hk
  · rintro first second requestId record rfl hf hSt
    rw [run_append]
    exact run_preserves (I := fun db : Database => db.records.find? requestId = some record)
      (fun db op hf => (requestStep_effect db op).keeps_refunded hf hSt) hf second
  · intro env faults requestId userId amount result db' hc
    exact preConsume_returns_record hc

theorem request_ledger_replayed :
    (usedOf (run requestStep (storeStep .initial buyUnlimited)
      [.preConsume (unlimitedEnv 2000) {} "a" 7 5, .preConsume (unlimitedEnv 2001) {} "a" 7 9,
        .post {} 1 3]) 1).toInt = 8 :=
  ((request_ledger_identity_iff (storeStep .initial buyUnlimited) rfl
    [.preConsume (unlimitedEnv 2000) {} "a" 7 5, .preConsume (unlimitedEnv 2001) {} "a" 7 9,
      .post {} 1 3] rfl rfl).1 1).mpr (by decide)

theorem request_ledger_wraps :
    let db := storeStep .initial buyUnlimited
    let ops := [.preConsume (unlimitedEnv 2000) {} "a" 7 9223372036854775807,
      .preConsume (unlimitedEnv 2000) {} "b" 7 1]
    (run requestStep db ops).clamps = db.clamps ∧ (run requestStep db ops).resets 1 = db.resets 1 ∧
      (usedOf (run requestStep db ops) 1).toInt = -9223372036854775808 ∧
      (usedOf db 1).toInt + consumedTotal (run requestStep db ops) 1 + settledDeltas 1 db ops =
        9223372036854775808 := by
  decide

end DeepRouter.Subscription
