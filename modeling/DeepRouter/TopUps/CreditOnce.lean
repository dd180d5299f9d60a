import DeepRouter.Library.Runs
import DeepRouter.TopUps.Recharge

/-! # A top-up order is credited at most once -/

namespace DeepRouter.TopUps

open Store Atomic KeyedTable Runs

inductive TopUpOp where
  | updatePending (faults : TopUpFaults) (tradeNo : String)
      (expectedPaymentProvider : PaymentProvider) (targetStatus : OrderStatus)
  | recharge (cfg : Settings) (faults : TopUpFaults) (referenceId customerId : String)
  | creem (cfg : Settings) (faults : TopUpFaults) (referenceId customerEmail : String)
  | waffo (cfg : Settings) (faults : TopUpFaults) (tradeNo : String)
  | airwallex (cfg : Settings) (faults : TopUpFaults) (tradeNo : String)
      (handles : AirwallexHandles)
  | waffoPancake (cfg : Settings) (faults : TopUpFaults) (tradeNo : String)
  | manual (cfg : Settings) (faults : TopUpFaults) (tradeNo : String)

namespace TopUpOp

def tradeNo : TopUpOp → String
  | .updatePending _ tradeNo _ _ => tradeNo
  | .recharge _ _ referenceId _ => referenceId
  | .creem _ _ referenceId _ => referenceId
  | .waffo _ _ tradeNo => tradeNo
  | .airwallex _ _ tradeNo _ => tradeNo
  | .waffoPancake _ _ tradeNo => tradeNo
  | .manual _ _ tradeNo => tradeNo

def completion : TopUpOp → Option Completion
  | .updatePending _ _ _ _ => none
  | .recharge cfg _ _ customerId => some (stripeCompletion cfg customerId)
  | .creem _ _ _ customerEmail => some (creemCompletion customerEmail)
  | .waffo cfg _ _ => some (waffoCompletion cfg)
  | .airwallex cfg _ _ handles => some (airwallexCompletion cfg handles)
  | .waffoPancake cfg _ _ => some (waffoPancakeCompletion cfg)
  | .manual cfg _ _ => some (manualCompletion cfg)

/-- The target statuses that the callers of `UpdatePendingTopUpStatus` pass. -/
def ClosesOrder : TopUpOp → Prop
  | .updatePending _ _ _ target => target = .failed ∨ target = .expired
  | _ => True

end TopUpOp

def topUpCall (db : Database) : TopUpOp → Except Err Unit × Database
  | .updatePending faults tradeNo expected target =>
    updatePendingTopUpStatus faults tradeNo expected target db
  | .recharge cfg faults referenceId customerId =>
    recharge cfg faults referenceId customerId db
  | .creem cfg faults referenceId customerEmail =>
    rechargeCreem cfg faults referenceId customerEmail db
  | .waffo cfg faults tradeNo => rechargeWaffo cfg faults tradeNo db
  | .airwallex cfg faults tradeNo handles =>
    rechargeAirwallex cfg faults tradeNo handles db
  | .waffoPancake cfg faults tradeNo => rechargeWaffoPancake cfg faults tradeNo db
  | .manual cfg faults tradeNo => manualCompleteTopUp cfg faults tradeNo db

def topUpStep (db : Database) (op : TopUpOp) : Database := (topUpCall db op).2

def topUpStatus (db : Database) (tradeNo : String) : Option OrderStatus :=
  (db.topUps.find? tradeNo).map TopUp.status

def quotaOf (db : Database) (userId : Int) : Int := (db.users userId).quota

def completes (tradeNo : String) (db : Database) (op : TopUpOp) : Bool :=
  topUpStatus db tradeNo = some .pending ∧ topUpStatus (topUpStep db op) tradeNo = some .success

/-- Nothing; or a pending order is closed without a credit; or one of the call's provider is
completed and credited. -/
inductive TopUpEffect (db : Database) (op : TopUpOp) : Database → Prop where
  | kept : TopUpEffect db op db
  | closed (topUp : TopUp) (target : OrderStatus)
      (hf : db.topUps.find? op.tradeNo = some topUp) (hs : topUp.status = .pending)
      (ht : target = .failed ∨ target = .expired) :
      TopUpEffect db op (saveTopUp db { topUp with status := target })
  | credited (completion : Completion) (topUp : TopUp) (now quota : Int)
      (hc : op.completion = some completion)
      (hf : db.topUps.find? op.tradeNo = some topUp) (hs : topUp.status = .pending)
      (hp : ∀ p ∈ completion.provider, topUp.paymentProvider = p)
      (hCr : completion.credit topUp = .ok quota) :
      TopUpEffect db op ((saveTopUp db (completedTopUp now topUp)).updateUser topUp.userId
        (creditUser completion.columns quota))

theorem CompletionEffect.topUpEffect {cp : Completion} {now : Int} {tradeNo : String}
    {db db' : Database} {op : TopUpOp} {r : Except Err Unit}
    (h : CompletionEffect cp now tradeNo db r db') (ht : op.tradeNo = tradeNo)
    (hc : op.completion = some cp) : TopUpEffect db op db' := by
  subst ht
  cases h with
  | failed e => exact .kept
  | replayed => exact .kept
  | credited topUp quota hf hp hs hCr =>
    exact .credited cp topUp now quota hc hf hs hp hCr

theorem topUpStep_effect (db : Database) (op : TopUpOp) (hc : op.ClosesOrder) :
    TopUpEffect db op (topUpStep db op) := by
  unfold topUpStep
  cases h : topUpCall db op with
  | mk r db' =>
    cases op with
    | updatePending faults tradeNo expected target =>
      rcases updatePending_effect h with ⟨e, _, hs⟩ | ⟨topUp, hf, hSt, _, hsa⟩
      · rw [hs]
        exact .kept
      · rw [hsa]
        exact .closed topUp target hf hSt hc
    | recharge cfg faults referenceId customerId =>
      exact (gatewayRecharge_effect h).topUpEffect rfl rfl
    | creem cfg faults referenceId customerEmail =>
      exact (gatewayRecharge_effect h).topUpEffect rfl rfl
    | waffo cfg faults tradeNo => exact (gatewayRecharge_effect h).topUpEffect rfl rfl
    | airwallex cfg faults tradeNo handles =>
      exact (gatewayRecharge_effect h).topUpEffect rfl rfl
    | waffoPancake cfg faults tradeNo => exact (gatewayRecharge_effect h).topUpEffect rfl rfl
    | manual cfg faults tradeNo => exact (manualComplete_effect h).topUpEffect rfl rfl

section

variable {db : Database} {op : TopUpOp} {tradeNo : String} {topUp : TopUp}

theorem find_saveTopUp (topUp' : TopUp) {called : String}
    (hf : db.topUps.find? called = some topUp) (hk : topUp'.tradeNo = topUp.tradeNo)
    (tradeNo : String) :
    (saveTopUp db topUp').topUps.find? tradeNo =
      if tradeNo = called then some topUp' else db.topUps.find? tradeNo :=
  Table.find?_save hf (hk.trans (Table.key_of_find? hf)) tradeNo

theorem quotaOf_credited (db : Database) (uid : Int) (cols : User → User) (quota k : Int) :
    quotaOf (db.updateUser uid (creditUser cols quota)) k =
      quotaOf db k + if k = uid then quota else 0 := by
  unfold quotaOf
  by_cases hu : k = uid
  · subst hu
    simp [creditUser]
  · simp [hu]

def SameOrder (topUp row : TopUp) : Prop :=
  row = { topUp with completeTime := row.completeTime, status := row.status }

/-- A row stays as it is, or it was pending and is closed or completed. -/
theorem topUpStep_find? (hc : op.ClosesOrder) (tradeNo : String) :
    (topUpStep db op).topUps.find? tradeNo = db.topUps.find? tradeNo ∨
      ∃ old row, db.topUps.find? tradeNo = some old ∧ old.status = .pending ∧ SameOrder old row ∧
        (topUpStep db op).topUps.find? tradeNo = some row := by
  have he := topUpStep_effect db op hc
  generalize topUpStep db op = db' at he ⊢
  have hs : db'.topUps = db.topUps ∨ ∃ old row, db.topUps.find? op.tradeNo = some old ∧
      old.status = .pending ∧ SameOrder old row ∧ db'.topUps = (saveTopUp db row).topUps := by
    cases he with
    | kept => exact .inl rfl
    | closed old target ho hSt => exact .inr ⟨old, { old with status := target }, ho, hSt, rfl, rfl⟩
    | credited _ old now _ _ ho hSt => exact .inr ⟨old, completedTopUp now old, ho, hSt, rfl, rfl⟩
  rcases hs with hs | ⟨old, row, ho, hSt, hr, hs⟩
  · exact .inl (by rw [hs])
  rw [hs, find_saveTopUp row ho (by rw [hr])]
  split
  · rename_i ht
    exact .inr ⟨old, row, ht ▸ ho, hSt, hr, rfl⟩
  · exact .inl rfl

theorem topUpStep_row (hc : op.ClosesOrder) (hf : db.topUps.find? tradeNo = some topUp) :
    ∃ topUp', (topUpStep db op).topUps.find? tradeNo = some topUp' ∧ SameOrder topUp topUp' ∧
      (topUp.status ≠ .pending → topUp' = topUp) := by
  rcases topUpStep_find? hc tradeNo with he | ⟨old, row, ho, hSt, hs, hr⟩
  · exact ⟨topUp, he.trans hf, rfl, fun _ => rfl⟩
  · cases hf.symm.trans ho
    exact ⟨row, hr, hs, fun hn => absurd hSt hn⟩

theorem topUpStatus_of_find? (h : db.topUps.find? tradeNo = some topUp) :
    topUpStatus db tradeNo = some topUp.status := by
  rw [topUpStatus, h, Option.map_some]

theorem topUpStep_quota (hc : op.ClosesOrder) (hf : db.topUps.find? op.tradeNo = some topUp) :
    (completes op.tradeNo db op = true ∧ ∃ completion quota, op.completion = some completion ∧ (∀ p
      ∈ completion.provider, topUp.paymentProvider = p) ∧ completion.credit topUp = .ok quota ∧ ∀ k,
      quotaOf (topUpStep db op) k = quotaOf db k + if k = topUp.userId then quota else 0) ∨
    (completes op.tradeNo db op = false ∧ ∀ k, quotaOf (topUpStep db op) k = quotaOf db k) := by
  have he := topUpStep_effect db op hc
  unfold completes
  rw [decide_eq_true_eq, decide_eq_false_iff_not, topUpStatus_of_find? hf]
  generalize topUpStep db op = db' at he ⊢
  cases he with
  | kept =>
    refine .inr ⟨?_, fun _ => rfl⟩
    rw [topUpStatus_of_find? hf]
    rintro ⟨hpe, hs⟩
    rw [hpe] at hs
    cases hs
  | closed old target ho hSt ht =>
    have hr := find_saveTopUp { old with status := target } ho rfl op.tradeNo
    rw [if_pos rfl] at hr
    refine .inr ⟨?_, fun _ => rfl⟩
    rw [topUpStatus_of_find? hr]
    rintro ⟨_, hs⟩
    rcases ht with rfl | rfl
    · cases hs
    · cases hs
  | credited completion old now quota hco ho hSt hp hCr =>
    rw [hf] at ho
    cases ho
    have hr := find_saveTopUp (completedTopUp now topUp) hf rfl op.tradeNo
    rw [if_pos rfl] at hr
    refine .inl ⟨⟨by rw [hSt], ?_⟩, completion, quota, hco, hp, hCr, ?_⟩
    · exact topUpStatus_of_find? hr
    · intro k
      exact quotaOf_credited _ _ _ _ _

theorem completes_iff (hc : op.ClosesOrder) :
    completes tradeNo db op = true ↔ ¬topUpStatus db tradeNo = some .success ∧
      topUpStatus (topUpStep db op) tradeNo = some .success := by
  unfold completes
  rw [decide_eq_true_eq]
  constructor
  · rintro ⟨hp, hs⟩
    rw [hp]
    exact ⟨nofun, hs⟩
  rintro ⟨hn, hs⟩
  refine ⟨?_, hs⟩
  rcases topUpStep_find? hc tradeNo with he | ⟨old, _, ho, hSt, _⟩
  · rw [topUpStatus, he] at hs
    exact absurd hs hn
  · rw [topUpStatus_of_find? ho, hSt]

theorem topUpStep_success (hc : op.ClosesOrder) (h : topUpStatus db tradeNo = some .success) :
    topUpStatus (topUpStep db op) tradeNo = some .success := by
  rcases topUpStep_find? hc tradeNo with he | ⟨old, _, ho, hSt, _⟩
  · rw [topUpStatus, he]
    exact h
  · rw [topUpStatus_of_find? ho, hSt] at h
    cases h

end

theorem completes_tally (tradeNo : String) (db : Database) {ops : List TopUpOp}
    (hc : ∀ op ∈ ops, op.ClosesOrder) :
    tally topUpStep (completes tradeNo) db ops =
      if ¬topUpStatus db tradeNo = some .success ∧
        topUpStatus (run topUpStep db ops) tradeNo = some .success then 1 else 0 := by
  refine tally_entering (P := fun db => topUpStatus db tradeNo = some .success) ?_ ?_ db hc
  · intro mid op ho hs
    exact topUpStep_success ho hs
  · intro mid op ho
    exact completes_iff ho

/-- The two completions that do not check their credit credit this order with a positive amount. -/
def TopUpOp.CreditsPositive (topUp : TopUp) : TopUpOp → Prop
  | .recharge cfg _ _ _ => 0 < cfg.stored (topUp.money * cfg.quotaPerUnit)
  | .creem _ _ _ _ => 0 < topUp.amount
  | _ => True

theorem positiveCredit_pos {quotaToAdd quota : Int} (h : positiveCredit quotaToAdd = .ok quota) :
    0 < quota := by
  obtain ⟨hp, rfl⟩ := positiveCredit_eq_ok h
  exact hp

theorem credit_pos {op : TopUpOp} {cp : Completion} {topUp : TopUp} {quota : Int}
    (hp : op.CreditsPositive topUp) (hc : op.completion = some cp)
    (hCr : cp.credit topUp = .ok quota) : 0 < quota := by
  cases op with
  | updatePending faults tradeNo expected target => cases hc
  | recharge cfg faults referenceId customerId =>
    cases hc
    cases hCr
    exact hp
  | creem cfg faults referenceId customerEmail =>
    cases hc
    cases hCr
    exact MachineInt.pos_iff.mp hp
  | waffo cfg faults tradeNo =>
    cases hc
    exact positiveCredit_pos hCr
  | airwallex cfg faults tradeNo handles =>
    cases hc
    exact positiveCredit_pos hCr
  | waffoPancake cfg faults tradeNo =>
    cases hc
    exact positiveCredit_pos hCr
  | manual cfg faults tradeNo =>
    cases hc
    unfold manualCompletion at hCr
    dsimp only at hCr
    split at hCr
    · exact positiveCredit_pos hCr
    · exact positiveCredit_pos hCr

theorem CreditsPositive.row {op : TopUpOp} {topUp row : TopUp} (h : op.CreditsPositive topUp)
    (hr : SameOrder topUp row) : op.CreditsPositive row := by
  rw [hr]
  cases op <;> exact h

theorem topUpRun_row {db : Database} {tradeNo : String} {topUp : TopUp} {ops : List TopUpOp}
    (hf : db.topUps.find? tradeNo = some topUp) (hc : ∀ op ∈ ops, op.ClosesOrder) :
    ∃ row, (run topUpStep db ops).topUps.find? tradeNo = some row ∧ SameOrder topUp row := by
  refine run_invariant (I := fun db : Database => ∃ row,
    db.topUps.find? tradeNo = some row ∧ SameOrder topUp row) ?_ ⟨topUp, hf, rfl⟩ ops
    (along_of_forall_mem db hc)
  rintro mid op ⟨row, hRow, hs⟩ ho
  obtain ⟨row', hRow', hk, _⟩ := topUpStep_row ho hRow
  refine ⟨row', hRow', ?_⟩
  unfold SameOrder at hs ⊢
  rw [hk, hs]

/-- A top-up order through any run of completions and closings, of this order and of others. -/
theorem topUp_credited_at_most_once (db : Database) (tradeNo : String) (topUp : TopUp)
    (hFind : db.topUps.find? tradeNo = some topUp) (ops : List TopUpOp)
    (hClose : ∀ op ∈ ops, op.ClosesOrder) :
    tally topUpStep (completes tradeNo) db ops ≤ 1 ∧
    (∀ op : TopUpOp, op.ClosesOrder → op.tradeNo = tradeNo →
      (completes tradeNo (run topUpStep db ops) op = true → ∃ completion row quota,
        op.completion = some completion ∧
        (run topUpStep db ops).topUps.find? tradeNo = some row ∧ SameOrder topUp row ∧
        (∀ p ∈ completion.provider, topUp.paymentProvider = p) ∧
        completion.credit row = .ok quota ∧
        ∀ k, quotaOf (topUpStep (run topUpStep db ops) op) k =
          quotaOf (run topUpStep db ops) k + if k = topUp.userId then quota else 0) ∧
      (completes tradeNo (run topUpStep db ops) op = false →
        ∀ k, quotaOf (topUpStep (run topUpStep db ops) op) k = quotaOf (run topUpStep db ops) k) ∧
      (op.CreditsPositive topUp →
        (quotaOf (run topUpStep db ops) topUp.userId <
            quotaOf (topUpStep (run topUpStep db ops) op) topUp.userId ↔
          completes tradeNo (run topUpStep db ops) op = true))) ∧
    (topUpStatus (run topUpStep db ops) tradeNo ≠ some .pending →
      ∀ more : List TopUpOp, (∀ op ∈ more, op.ClosesOrder ∧ op.tradeNo = tradeNo) →
        (run topUpStep (run topUpStep db ops) more).topUps.find? tradeNo =
          (run topUpStep db ops).topUps.find? tradeNo ∧
        ∀ k, quotaOf (run topUpStep (run topUpStep db ops) more) k =
          quotaOf (run topUpStep db ops) k) := by
  obtain ⟨row, hRow, hs⟩ := topUpRun_row hFind hClose
  have hf : row.userId = topUp.userId ∧ row.paymentProvider = topUp.paymentProvider := by
    rw [hs]
    exact ⟨rfl, rfl⟩
  refine ⟨?_, ?_, ?_⟩
  · rw [completes_tally tradeNo db hClose]
    split
    · exact le_refl 1
    · exact Nat.zero_le 1
  · intro op ho ht
    subst ht
    rcases topUpStep_quota ho hRow with
      ⟨hd, completion, quota, hc, hp, hCr, hqu⟩ | ⟨hn, hqu⟩
    · rw [hf.1] at hqu
      rw [hf.2] at hp
      refine ⟨fun _ => ⟨completion, row, quota, hc, hRow, hs, hp, hCr, hqu⟩,
        fun hn => ?_, fun hpo => iff_of_true ?_ hd⟩
      · rw [hd] at hn
        cases hn
      · have hpo := credit_pos (CreditsPositive.row hpo hs) hc hCr
        rw [hqu, if_pos rfl]
        omega
    · refine ⟨fun hd => ?_, fun _ => hqu, fun _ => iff_of_false ?_ ?_⟩
      · rw [hn] at hd
        cases hd
      · rw [hqu]
        exact Int.lt_irrefl _
      · rw [hn]
        exact Bool.false_ne_true
  · intro hSt more hm
    rw [topUpStatus_of_find? hRow] at hSt
    rw [hRow]
    refine run_invariant (I := fun mid : Database => mid.topUps.find? tradeNo = some row ∧
      ∀ k, quotaOf mid k = quotaOf (run topUpStep db ops) k) ?_ ⟨hRow, fun _ => rfl⟩ more
      (along_of_forall_mem _ hm)
    rintro mid op ⟨hmi, hq⟩ ⟨ho, rfl⟩
    obtain ⟨row', hRow', _, hk⟩ := topUpStep_row ho hmi
    refine ⟨?_, ?_⟩
    · rw [hRow', hk (fun he => hSt (congrArg some he))]
    intro k
    rcases topUpStep_quota ho hmi with ⟨hd, _⟩ | ⟨_, hqu⟩
    · unfold completes at hd
      rw [decide_eq_true_eq, topUpStatus_of_find? hmi] at hd
      exact absurd hd.1 hSt
    · rw [hqu, hq]

def creemOrder (amount : Int64) : TopUp := ⟨"T1", 7, amount, 5, "creem", .creem, 900, 0, .pending⟩

def creemStore (amount : Int64) : Database :=
  { Database.initial with topUps := ⟨[creemOrder amount], List.nodup_singleton _⟩ }

def payCreem (now : Int) : TopUpOp := .creem ⟨now, 500000, fun q => q.floor⟩ {} "T1" ""

theorem topUp_credited_once_replayed :
    quotaOf (run topUpStep (creemStore 100) [payCreem 1000]) 7 = 100 ∧
      quotaOf (run topUpStep (creemStore 100) [payCreem 1000, payCreem 1001]) 7 = 100 := by
  have hc : ∀ op ∈ [payCreem 1000], op.ClosesOrder := by
    intro op ho
    rw [List.mem_singleton.mp ho]
    trivial
  have hp := topUp_credited_at_most_once (creemStore 100) "T1" (creemOrder 100) (by decide)
    [payCreem 1000] hc
  have hl := (hp.2.2 (by decide) [payCreem 1001] (by
    intro op ho
    rw [List.mem_singleton.mp ho]
    exact ⟨trivial, rfl⟩)).2 7
  refine ⟨by decide, hl.trans ?_⟩
  decide

theorem topUp_completed_without_increase :
    completes "T1" (creemStore 0) (payCreem 1000) = true ∧
      ¬quotaOf (creemStore 0) 7 < quotaOf (topUpStep (creemStore 0) (payCreem 1000)) 7 := by
  decide

end DeepRouter.TopUps
