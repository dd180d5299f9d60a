import DeepRouter.Billing.Funding
import DeepRouter.Subscription.QuotaBounds

/-! # Retried refunds of one request -/

namespace DeepRouter.Billing

open Store Atomic KeyedTable GoStrings MachineInt Subscription Runs Table

inductive AttemptOutcome where
  | nothing
  | lostMark
  | marked
deriving DecidableEq

def attemptOutcome (faults : RefundFaults) : AttemptOutcome :=
  if faults.find.isSome ∨ faults.settlement.find.isSome ∨ faults.settlement.save.isSome ∨
      faults.settlement.commit.isSome then .nothing
  else if faults.save.isSome ∨ faults.commit.isSome then .lostMark
  else .marked

structure Progress where
  settlements : Nat := 0
  refunded : Bool := false

def Progress.step (p : Progress) (outcome : AttemptOutcome) : Progress :=
  if p.refunded then p
  else
    match outcome with
    | .nothing => p
    | .lostMark => ⟨p.settlements + 1, false⟩
    | .marked => ⟨p.settlements + 1, true⟩

def lostMarks : List AttemptOutcome → Nat
  | [] => 0
  | .nothing :: rest => lostMarks rest
  | .lostMark :: rest => lostMarks rest + 1
  | .marked :: _ => 0

theorem progress_refunded (p : Progress) (hd : p.refunded = true)
    (outcomes : List AttemptOutcome) : run Progress.step p outcomes = p := by
  refine run_preserves (I := fun q => q = p) ?_ rfl outcomes
  rintro q outcome rfl
  unfold Progress.step
  rw [if_pos hd]

theorem progress_run (k : Nat) (outcomes : List AttemptOutcome) :
    run Progress.step ⟨k, false⟩ outcomes =
      if .marked ∈ outcomes then ⟨k + lostMarks outcomes + 1, true⟩
      else ⟨k + lostMarks outcomes, false⟩ := by
  induction outcomes generalizing k with
  | nil => rfl
  | cons outcome rest ih =>
    cases outcome with
    | nothing =>
      rw [run_cons, show Progress.step ⟨k, false⟩ .nothing = ⟨k, false⟩ from rfl, ih]
      simp [lostMarks]
    | lostMark =>
      rw [run_cons, show Progress.step ⟨k, false⟩ .lostMark = ⟨k + 1, false⟩ from rfl, ih]
      have hc : k + 1 + lostMarks rest = k + (lostMarks rest + 1) := by omega
      simp [lostMarks, hc]
    | marked =>
      rw [run_cons, progress_refunded _ rfl]
      simp [lostMarks, Progress.step]

def usedAfter (used amount : Int64) (k : Nat) : Int64 := (settledUsed · (-amount))^[k] used

theorem usedAfter_succ (used am : Int64) (k : Nat) :
    usedAfter used am (k + 1) = settledUsed (usedAfter used am k) (-am) :=
  Function.iterate_succ_apply' _ _ _

theorem usedAfter_toInt {used am : Int64} (hu : 0 ≤ used) (ha : 0 < am) (k : Nat) :
    (usedAfter used am k).toInt = max 0 (used.toInt - k * am.toInt) := by
  induction k with
  | zero =>
    have hz := nonneg_iff.mp hu
    rw [show usedAfter used am 0 = used from rfl]
    omega
  | succ k ih =>
    have hn : 0 ≤ usedAfter used am k := by
      rw [nonneg_iff, ih]
      omega
    have hp := pos_iff.mp ha
    rw [usedAfter_succ, settledUsed_neg hn ha, ih, Nat.cast_succ, Int.add_mul, Int.one_mul]
    omega

theorem usedAfter_le {used am : Int64} (hu : 0 ≤ used) (ha : 0 < am) (k : Nat) :
    0 ≤ usedAfter used am k ∧ usedAfter used am k ≤ used := by
  have hz := nonneg_iff.mp hu
  have hp := pos_iff.mp ha
  have hm : 0 ≤ (k : Int) * am.toInt := Int.mul_nonneg (Int.natCast_nonneg k) hp.le
  rw [nonneg_iff, le_iff, usedAfter_toInt hu ha]
  omega

section

variable {requestId : String} {db : Database} {record : SubscriptionPreConsumeRecord}
  {sub : UserSubscription}

theorem settledUsed_within {used total am : Int64} (hu : 0 ≤ used) (ha : 0 < am)
    (ht : 0 < total → used ≤ total) : ¬(0 < total ∧ total < settledUsed used (-am)) := by
  rintro ⟨hp, hab⟩
  have hl := le_iff.mp (ht hp)
  have hto := pos_iff.mp hp
  have ham := pos_iff.mp ha
  rw [lt_iff, settledUsed_neg hu ha] at hab
  omega

theorem post_refund (hs : db.subs.find? record.userSubscriptionId = some sub)
    (hi : 0 < record.userSubscriptionId) (ha : 0 < record.preConsumed)
    (hr : RowBounds sub) (stl : PostFaults) :
    (¬(stl.find.isSome ∨ stl.save.isSome ∨ stl.commit.isSome) ∧
      postConsumeUserSubscriptionDelta stl record.userSubscriptionId
        (-record.preConsumed) db = (.ok (), settleRow db sub (-record.preConsumed))) ∨
    ((stl.find.isSome ∨ stl.save.isSome ∨ stl.commit.isSome) ∧
      ∃ e, postConsumeUserSubscriptionDelta stl record.userSubscriptionId
        (-record.preConsumed) db = (.error e, db)) := by
  have hd : -record.preConsumed ≠ 0 := by
    intro hz
    have hn := toInt_neg_of_pos ha
    have hp := pos_iff.mp ha
    rw [hz] at hn
    change (0 : Int) = _ at hn
    omega
  have hw := settledUsed_within hr.1 ha hr.2
  have hc : postConsumeUserSubscriptionDelta stl record.userSubscriptionId
      (-record.preConsumed) db = transaction db (postConsumeTx stl
        record.userSubscriptionId (-record.preConsumed) db) stl.commit := by
    unfold postConsumeUserSubscriptionDelta
    rw [if_neg (by omega), if_neg hd]
  obtain ⟨find, save, commit⟩ := stl
  rw [hc]
  cases find with
  | some e => exact .inr ⟨by simp, e, by cases commit <;> rfl⟩
  | none =>
    have hb : postConsumeTx ⟨none, save, commit⟩ record.userSubscriptionId
        (-record.preConsumed) db =
        (do attempt save; .ok ((), settleRow db sub (-record.preConsumed))) := by
      unfold postConsumeTx
      rw [hs]
      exact if_neg hw
    rw [hb]
    cases save with
    | some e => exact .inr ⟨by simp, e, by cases commit <;> rfl⟩
    | none =>
      cases commit with
      | some e => exact .inr ⟨by simp, e, rfl⟩
      | none => exact .inl ⟨by simp, rfl⟩

structure Simulates (requestId : String) (record : SubscriptionPreConsumeRecord)
    (sub : UserSubscription) (p : Progress) (db : Database) : Prop where
  mark : if p.refunded then ∃ env, db.records.find? requestId = some (refundedRecord env record)
    else db.records.find? requestId = some record
  row : db.subs.find? record.userSubscriptionId =
    some { sub with amountUsed := usedAfter sub.amountUsed record.preConsumed p.settlements }

def refundStep (requestId : String) (db : Database) (call : Env × RefundFaults) : Database :=
  (refundSubscriptionPreConsume call.1 call.2 requestId db).2

theorem refund_already {env : Env} {fl : RefundFaults}
    (hf : db.records.find? requestId = some record) (hs : record.status = .refunded) :
    (refundSubscriptionPreConsume env fl requestId db).2 = db := by
  have hn {other : SubscriptionPreConsumeRecord} (ho : db.records.find? requestId = some other)
      (hc : other.status = .consumed) : False := by
    cases hf.symm.trans ho
    cases hs.symm.trans hc
  cases h : refundSubscriptionPreConsume env fl requestId db with
  | mk r db' =>
    cases refund_effect h with
    | failed e => rfl
    | already => rfl
    | empty other hot ho => exact (hn hot ho).elim
    | settled other mid hot ho => exact (hn hot ho).elim
    | lostMark other _ _ hot ho => exact (hn hot ho).elim

section

variable (hr : trimSpace requestId ≠ "") (hSt : record.status = .consumed)
  (ha : 0 < record.preConsumed) (hi : 0 < record.userSubscriptionId)

include hr hSt ha hi

theorem refund_attempt (env : Env) (fl : RefundFaults)
    (hfi : db.records.find? requestId = some record)
    (hsu : db.subs.find? record.userSubscriptionId = some sub) (hro : RowBounds sub) :
    (refundSubscriptionPreConsume env fl requestId db).2 =
      match attemptOutcome fl with
      | .nothing => db
      | .lostMark => settleRow db sub (-record.preConsumed)
      | .marked => (settleRow db sub (-record.preConsumed)).saveRecord
          (refundedRecord env record) := by
  unfold refundSubscriptionPreConsume
  rw [if_neg hr]
  cases hf : fl.find with
  | some e => simp [attemptOutcome, hf]
  | none =>
    rw [hfi]
    have ho : ¬record.status = .refunded := by
      rw [hSt]
      intro he
      cases he
    simp only [if_neg ho, if_neg (Int64.not_le.mpr ha)]
    rcases post_refund hsu hi ha hro fl.settlement with ⟨hc, hp⟩ | ⟨hs, e, hp⟩
    · rw [hp]
      have hou : attemptOutcome fl =
          if fl.save.isSome ∨ fl.commit.isSome then .lostMark else .marked := by
        unfold attemptOutcome
        rw [hf, if_neg (by simpa using hc)]
      rcases markRefunded_cases env fl record (settleRow db sub (-record.preConsumed)) with
        ⟨hsa, hco, hm⟩ | ⟨hl, e, hm⟩
      · simp [hou, hsa, hco, hm]
      have hs : fl.save.isSome ∨ fl.commit.isSome := by
        cases hsa : fl.save with
        | some e => exact .inl rfl
        | none =>
          cases hco : fl.commit with
          | some e => exact .inr rfl
          | none => exact absurd ⟨hsa, hco⟩ hl
      rw [hou, if_pos hs]
      exact congrArg Prod.snd hm
    · rw [hp]
      have hou : attemptOutcome fl = .nothing := by
        unfold attemptOutcome
        rw [if_pos (.inr hs)]
      rw [hou]

variable (hk : record.requestId = requestId) (hsub : sub.id = record.userSubscriptionId)
  (hro : RowBounds sub)

include hk hsub hro

theorem refundStep_simulates {p : Progress} (call : Env × RefundFaults)
    (h : Simulates requestId record sub p db) :
    Simulates requestId record sub (p.step (attemptOutcome call.2)) (refundStep requestId db call) := by
  obtain ⟨hm, hsu⟩ := h
  obtain ⟨k, done⟩ := p
  cases done with
  | true =>
    obtain ⟨env, hf⟩ := hm
    have hs : refundStep requestId db call = db := refund_already hf rfl
    rw [hs]
    exact ⟨⟨env, hf⟩, hsu⟩
  | false =>
    have hf : db.records.find? requestId = some record := hm
    have hu := usedAfter_le hro.1 ha k
    have hb : RowBounds { sub with
        amountUsed := usedAfter sub.amountUsed record.preConsumed k } :=
      ⟨hu.1, fun ht => Int64.le_trans hu.2 (hro.2 ht)⟩
    have hc := refund_attempt hr hSt ha hi call.1 call.2 hf hsu hb
    have hse : (settleRow db { sub with
        amountUsed := usedAfter sub.amountUsed record.preConsumed k }
        (-record.preConsumed)).subs.find? record.userSubscriptionId =
        some { sub with amountUsed := usedAfter sub.amountUsed record.preConsumed (k + 1) } := by
      rw [usedAfter_succ, ← hsub]
      rw [← hsub] at hsu
      exact find?_save_self hsu
    unfold refundStep
    rw [hc]
    cases attemptOutcome call.2 with
    | nothing => exact ⟨hf, hsu⟩
    | lostMark => exact ⟨hf, hse⟩
    | marked =>
      refine ⟨⟨call.1, ?_⟩, hse⟩
      subst hk
      exact find?_save_self hf

theorem refundRun_simulates (calls : List (Env × RefundFaults)) {p : Progress}
    (h : Simulates requestId record sub p db) :
    Simulates requestId record sub
      (run Progress.step p (calls.map fun call => attemptOutcome call.2))
      (run (refundStep requestId) db calls) := by
  induction calls generalizing p db with
  | nil => exact h
  | cons call calls ih =>
    rw [List.map_cons, run_cons, run_cons]
    exact ih (refundStep_simulates hr hSt ha hi hk hsub hro call h)

end

theorem refund_ok_refunded {env : Env} {fl : RefundFaults} {db' : Database}
    (h : refundSubscriptionPreConsume env fl requestId db = (.ok (), db')) :
    ∃ record, db'.records.find? requestId = some record ∧ record.status = .refunded := by
  have hm (mid : Database) {old : SubscriptionPreConsumeRecord}
      (ho : db.records.find? requestId = some old) (hr : mid.records = db.records) :
      (mid.saveRecord (refundedRecord env old)).records.find? requestId =
        some (refundedRecord env old) := by
    have hk : old.requestId = requestId := key_of_find? ho
    subst hk
    rw [← hr] at ho
    exact find?_save_self ho
  cases refund_effect h with
  | already record hfi hs => exact ⟨record, hfi, hs⟩
  | empty old ho => exact ⟨_, hm db ho rfl, rfl⟩
  | settled old mid ho _ _ hp => exact ⟨_, hm mid ho (post_kept hp).1, rfl⟩

theorem subscriptionRefund_state (atts : Nat → Env × RefundFaults) (s : SubscriptionFunding)
    (ha : 0 < s.preConsumed) (db : Database) :
    (s.refund atts db).2 = run (refundStep s.requestId) db ((List.range maxAttempts).map atts) := by
  unfold SubscriptionFunding.refund refundWithRetry
  rw [if_neg (Int64.not_le.mpr ha), retry_state, List.range_eq_range', run, run, List.foldl_map]
  · rfl
  · intro i j before after ho
    obtain ⟨record, hf, hs⟩ := refund_ok_refunded ho
    exact refund_already hf hs

end

/-- What is taken from the used amount is nothing or the record's amount, the latter just when the
record ends refunded. -/
def RefundedOnce (requestId : String) (record : SubscriptionPreConsumeRecord)
    (before after : Database) : Prop :=
  let taken := (usedOf before record.userSubscriptionId).toInt -
    (usedOf after record.userSubscriptionId).toInt
  (taken = 0 ∨ taken = record.preConsumed.toInt) ∧
    (taken = record.preConsumed.toInt ↔
      ∃ final, after.records.find? requestId = some final ∧ final.status = .refunded)

def refundThenMore (funding : SubscriptionFunding) (attempts : Nat → Env × RefundFaults)
    (further : List (Env × RefundFaults)) (db : Database) : Database :=
  run (refundStep funding.requestId) (funding.refund attempts db).2 further

def outcomes (attempts : Nat → Env × RefundFaults) (further : List (Env × RefundFaults)) :
    List AttemptOutcome :=
  ((List.range maxAttempts).map attempts ++ further).map fun call => attemptOutcome call.2

theorem simulates_refundedOnce_iff {requestId : String} {record : SubscriptionPreConsumeRecord}
    {sub : UserSubscription} {p : Progress} {before after : Database}
    (hs : record.status = .consumed) (ham : 0 < record.preConsumed)
    (hb : before.subs.find? record.userSubscriptionId = some sub) (hu : 0 ≤ sub.amountUsed)
    (h : Simulates requestId record sub p after) :
    RefundedOnce requestId record before after ↔
      min sub.amountUsed.toInt (p.settlements * record.preConsumed.toInt) =
        if p.refunded then record.preConsumed.toInt else 0 := by
  obtain ⟨hm, hro⟩ := h
  have hp := pos_iff.mp ham
  have hn := nonneg_iff.mp hu
  have ht : (usedOf before record.userSubscriptionId).toInt -
      (usedOf after record.userSubscriptionId).toInt =
      min sub.amountUsed.toInt (p.settlements * record.preConsumed.toInt) := by
    rw [usedOf_of_find? hb, usedOf_of_find? hro]
    have ha := usedAfter_toInt hu ham p.settlements
    dsimp only
    rw [ha]
    omega
  have hfi : (∃ final, after.records.find? requestId = some final ∧ final.status = .refunded) ↔
      p.refunded = true := by
    cases hd : p.refunded with
    | true =>
      rw [hd] at hm
      obtain ⟨env, hf⟩ := hm
      exact iff_of_true ⟨_, hf, rfl⟩ rfl
    | false =>
      rw [hd] at hm
      refine iff_of_false ?_ (by simp)
      rintro ⟨final, hf, hr⟩
      have ho : after.records.find? requestId = some record := hm
      rw [ho] at hf
      cases hf
      rw [hs] at hr
      cases hr
  unfold RefundedOnce
  dsimp only
  rw [ht, hfi]
  cases p.refunded with
  | true =>
    simp only [iff_true, if_true]
    omega
  | false =>
    simp only [Bool.false_eq_true, iff_false, if_false]
    omega

theorem min_settled_once_iff {used amount : Int} (lost : Nat) (ha : 0 < amount) :
    min used (((lost + 1 : Nat) : Int) * amount) = amount ↔
      used = amount ∨ (amount < used ∧ lost = 0) := by
  rw [Nat.cast_succ, Int.add_mul, Int.one_mul]
  cases lost with
  | zero => omega
  | succ k =>
    have hm : amount ≤ ((k + 1 : Nat) : Int) * amount := by
      have hmu : 0 ≤ (k : Int) * amount := Int.mul_nonneg (Int.natCast_nonneg k) ha.le
      rw [Nat.cast_succ, Int.add_mul, Int.one_mul]
      omega
    omega

theorem min_settled_none_iff {used amount : Int} (lost : Nat) (hu : 0 ≤ used) (ha : 0 < amount) :
    min used ((lost : Int) * amount) = 0 ↔ used = 0 ∨ lost = 0 := by
  cases lost with
  | zero => simp [hu]
  | succ k =>
    have hm : 0 ≤ (k : Int) * amount := Int.mul_nonneg (Int.natCast_nonneg k) ha.le
    rw [Nat.cast_succ, Int.add_mul, Int.one_mul]
    omega

/-- A retried refund is applied at most once exactly when no mark is lost and the used amount covers
the record. -/
theorem retried_refund_once_iff (funding : SubscriptionFunding)
    (attempts : Nat → Env × RefundFaults) (further : List (Env × RefundFaults)) (db : Database)
    (record : SubscriptionPreConsumeRecord) (sub : UserSubscription)
    (hRequest : trimSpace funding.requestId ≠ "")
    (hFunding : funding.preConsumed = record.preConsumed)
    (hRecord : db.records.find? funding.requestId = some record)
    (hStatus : record.status = .consumed) (hAmount : 0 < record.preConsumed)
    (hSub : db.subs.find? record.userSubscriptionId = some sub)
    (hId : 0 < record.userSubscriptionId) (hRow : RowBounds sub) :
    RefundedOnce funding.requestId record db (refundThenMore funding attempts further db) ↔
      if .marked ∈ outcomes attempts further then
        sub.amountUsed = record.preConsumed ∨
          (record.preConsumed < sub.amountUsed ∧ lostMarks (outcomes attempts further) = 0)
      else sub.amountUsed = 0 ∨ lostMarks (outcomes attempts further) = 0 := by
  have hst : Simulates funding.requestId record sub {} db := ⟨hRecord, hSub⟩
  have hk : record.requestId = funding.requestId := key_of_find? hRecord
  have hs : sub.id = record.userSubscriptionId := key_of_find? hSub
  have hpo : 0 < funding.preConsumed := by
    rw [hFunding]
    exact hAmount
  have hr : refundThenMore funding attempts further db =
      run (refundStep funding.requestId) db ((List.range maxAttempts).map attempts ++ further) := by
    unfold refundThenMore
    rw [subscriptionRefund_state attempts funding hpo, run_append]
  have hsi := refundRun_simulates hRequest hStatus hAmount hId hk hs hRow
    ((List.range maxAttempts).map attempts ++ further) hst
  rw [← hr] at hsi
  have ho := simulates_refundedOnce_iff hStatus hAmount hSub hRow.1 hsi
  have hpo := pos_iff.mp hAmount
  have hu := nonneg_iff.mp hRow.1
  have hp : run Progress.step {} (((List.range maxAttempts).map attempts ++ further).map
      fun call => attemptOutcome call.2) = _ := progress_run 0 (outcomes attempts further)
  rw [ho, hp, Nat.zero_add]
  split
  · rw [← Int64.toInt_inj, lt_iff]
    exact min_settled_once_iff _ hpo
  · rw [← Int64.toInt_inj]
    exact min_settled_none_iff _ hu hpo

def twoRequests : Database :=
  run storeStep .initial [buyUnlimited, charge "a" 5, charge "b" 7]

def requestA : SubscriptionFunding where
  requestId := "a"
  userId := 7
  amount := 5
  subscriptionId := 1
  preConsumed := 5

def recordA : SubscriptionPreConsumeRecord := ⟨"a", 7, 1, 5, .consumed, 2000⟩

theorem retried_refund_once_after_failed_read :
    RefundedOnce "a" recordA twoRequests
      (refundThenMore requestA
        (fun i => (unlimitedEnv 3000, { find := if i = 0 then some "bad connection" else none })) []
        twoRequests) := by
  refine (retried_refund_once_iff requestA _ [] twoRequests recordA
    ((twoRequests.subs.find? 1).get (by decide)) (by decide) rfl (by decide) rfl (by decide)
    (Option.some_get _).symm (by decide) ⟨by decide, by decide⟩).mpr ?_
  decide

theorem retried_refund_twice :
    ¬RefundedOnce "a" recordA twoRequests
      (refundThenMore requestA
        (fun i => (unlimitedEnv 3000, { commit := if i = 0 then some "commit failed" else none })) []
        twoRequests) := by
  intro ho
  have ht := ho.1
  revert ht
  decide

end DeepRouter.Billing
