import DeepRouter.Referral.Rewards
import DeepRouter.TopUps.Epay

/-! # Completing an Epay order under failing calls -/

namespace DeepRouter.TopUps

open Store Atomic KeyedTable Billing Runs Referral

inductive EpayOp where
  | notify (faults : EpayFaults) (grant : GrantCall) (type : String)
  | adminComplete (now : Int) (faults : TopUpFaults) (grant : GrantCall)

def epayStep (cfg : Settings) (tradeNo : String) (s : PaymentStore) : EpayOp → PaymentStore
  | .notify faults grant type =>
    (epayNotify cfg.quotaPerUnit faults grant (some ⟨tradeNo, type, true⟩) s).2
  | .adminComplete now faults grant =>
    (adminCompleteTopUp { cfg with now } faults grant tradeNo s).2

/-- The quota of the user without the referral rewards on record. -/
def PaymentStore.ownQuota (s : PaymentStore) (id : Int) : Int :=
  quotaOf s.db id - s.referrals.total (ReferralRecord.paidTo id)

/-- The order is successful and its user has its quota, or it is pending and no quota has moved. -/
def AllOrNothing (quotaPerUnit : Rat) (topUp : TopUp) (s s' : PaymentStore) : Prop :=
  (topUpStatus s'.db topUp.tradeNo = some .success ∧ ∀ k, s'.ownQuota k =
    s.ownQuota k + if k = topUp.userId then amountQuota quotaPerUnit topUp else 0) ∨
  (topUpStatus s'.db topUp.tradeNo = some .pending ∧ ∀ k, s'.ownQuota k = s.ownQuota k)

/-- A callback that marks a pending order worth some quota can also credit it. -/
def EpayOp.CreditsWhatItMarks (quotaPerUnit : Rat) (topUp : TopUp) (s : PaymentStore) :
    EpayOp → Prop
  | .notify faults _ _ =>
    topUpStatus s.db topUp.tradeNo = some .pending → faults.find = none → faults.update = none →
      amountQuota quotaPerUnit topUp ≠ 0 →
        faults.increase = none ∧ 0 ≤ amountQuota quotaPerUnit topUp
  | .adminComplete _ _ _ => True

section

variable (grant : GrantCall) (tradeNo : String) (s : PaymentStore)

theorem grant_topUps : (grantReferralForTopUp grant tradeNo s).db.topUps = s.db.topUps := by
  unfold grantReferralForTopUp
  split
  · rfl
  · rfl

theorem grant_status (other : String) :
    topUpStatus (grantReferralForTopUp grant tradeNo s).db other = topUpStatus s.db other := by
  rw [topUpStatus, grant_topUps, topUpStatus]

theorem grant_ownQuota (id : Int) :
    (grantReferralForTopUp grant tradeNo s).ownQuota id = s.ownQuota id := by
  unfold grantReferralForTopUp
  split
  · rename_i topUp _ _
    have hr := @run_callEvents grant.config s.referralStore
      (fun store => store.ownQuota id = some (s.ownQuota id))
      ⟨grant.now, topUp.userId, "topup", tradeNo⟩ rfl
      (fun _ _ _ hi he => (he.ownQuota id).trans hi) grant.answers
    obtain ⟨quota, hq, ho⟩ := Option.map_eq_some_iff.mp hr
    dsimp only
    rw [PaymentStore.ownQuota, quotaOf]
    dsimp only
    rw [hq]
    exact ho
  · rfl

end

section

variable {cfg : Settings} {s : PaymentStore} {topUp : TopUp}

theorem manualCredit_eq {quota : Int} (hp : topUp.paymentProvider ≠ .stripe)
    (h : (manualCompletion cfg).credit topUp = .ok quota) :
    quota = amountQuota cfg.quotaPerUnit topUp := by
  unfold manualCompletion at h
  simp only [if_neg hp] at h
  exact (positiveCredit_eq_ok h).2

theorem adminComplete_cases (cfg : Settings) (fl : TopUpFaults) (grant : GrantCall) (tn : String)
    (s : PaymentStore) :
    (adminCompleteTopUp cfg fl grant tn s).2 = s ∨
      ∃ db, CompletionEffect (manualCompletion cfg) cfg.now tn s.db (.ok ()) db ∧
        (adminCompleteTopUp cfg fl grant tn s).2 = grantReferralForTopUp grant tn { s with db } := by
  unfold adminCompleteTopUp
  split
  · exact .inl rfl
  split
  · rename_i e db h
    cases manualComplete_effect h
    exact .inl rfl
  · rename_i db h
    exact .inr ⟨db, manualComplete_effect h, rfl⟩

theorem status_marked {db : Database} (row : TopUp) (hf : db.topUps.find? topUp.tradeNo = some topUp)
    (hk : row.tradeNo = topUp.tradeNo) (hs : row.status = .success) (uid : Int) (f : User → User) :
    topUpStatus ((saveTopUp db row).updateUser uid f) topUp.tradeNo = some .success := by
  have hr := find_saveTopUp row hf hk topUp.tradeNo
  rw [if_pos rfl] at hr
  rw [← hs]
  exact topUpStatus_of_find? hr

/-- The two stores agree on the status of the order and on every quota but for rewards. -/
def SameStanding (tradeNo : String) (s s' : PaymentStore) : Prop :=
  topUpStatus s'.db tradeNo = topUpStatus s.db tradeNo ∧ ∀ k, s'.ownQuota k = s.ownQuota k

theorem grant_same (grant : GrantCall) (tn : String) (s : PaymentStore) (other : String) :
    SameStanding other s (grantReferralForTopUp grant tn s) :=
  ⟨grant_status grant tn s other, grant_ownQuota grant tn s⟩

theorem SameStanding.allOrNothing_iff {s₁ s₂ : PaymentStore} (h : SameStanding topUp.tradeNo s₁ s₂) :
    AllOrNothing cfg.quotaPerUnit topUp s s₂ ↔ AllOrNothing cfg.quotaPerUnit topUp s s₁ := by
  simp only [AllOrNothing, h.1, h.2]

theorem ownQuota_credited (s : PaymentStore) (row : TopUp) (uid : Int) (cols : User → User)
    (quota k : Int) :
    ((s.mark row).credit uid cols quota).ownQuota k =
      s.ownQuota k + if k = uid then quota else 0 := by
  rw [PaymentStore.ownQuota, PaymentStore.credit, quotaOf_credited]
  exact add_sub_right_comm ..

theorem allOrNothing_credited (cols : User → User) (row : TopUp)
    (hf : s.db.topUps.find? topUp.tradeNo = some topUp) (hk : row.tradeNo = topUp.tradeNo)
    (hs : row.status = .success) :
    AllOrNothing cfg.quotaPerUnit topUp s
      ((s.mark row).credit topUp.userId cols (amountQuota cfg.quotaPerUnit topUp)) := by
  exact .inl ⟨status_marked row hf hk hs _ _, ownQuota_credited _ _ _ _ _⟩

theorem allOrNothing_marked (row : TopUp) (hf : s.db.topUps.find? topUp.tradeNo = some topUp)
    (hk : row.tradeNo = topUp.tradeNo) (hs : row.status = .success) :
    AllOrNothing cfg.quotaPerUnit topUp s (s.mark row) ↔
      amountQuota cfg.quotaPerUnit topUp = 0 := by
  have hSt := status_marked row hf hk hs 0 id
  constructor
  · rintro (⟨_, hq⟩ | ⟨hp, _⟩)
    · have hu := hq topUp.userId
      rw [if_pos rfl] at hu
      exact left_eq_add.mp hu
    · cases hSt.symm.trans hp
  · intro hz
    refine .inl ⟨hSt, ?_⟩
    intro k
    rw [hz, ite_self, Int.add_zero]
    rfl

/-- A call makes a pending order successful or does nothing; its user has the quota just when the
call credits what it marks. -/
def EpayOutcome (quotaPerUnit : Rat) (topUp : TopUp) (s : PaymentStore) (op : EpayOp)
    (s' : PaymentStore) : Prop :=
  (s' = s ∧ op.CreditsWhatItMarks quotaPerUnit topUp s) ∨
  (topUpStatus s'.db topUp.tradeNo = some .success ∧
    (AllOrNothing quotaPerUnit topUp s s' ↔ op.CreditsWhatItMarks quotaPerUnit topUp s))

theorem outcome_credited (cols : User → User) (row : TopUp) (grant : GrantCall) {op : EpayOp}
    (hf : s.db.topUps.find? topUp.tradeNo = some topUp) (hk : row.tradeNo = topUp.tradeNo)
    (hs : row.status = .success) (ho : op.CreditsWhatItMarks cfg.quotaPerUnit topUp s) :
    EpayOutcome cfg.quotaPerUnit topUp s op (grantReferralForTopUp grant topUp.tradeNo
      ((s.mark row).credit topUp.userId cols (amountQuota cfg.quotaPerUnit topUp))) := by
  refine .inr ⟨?_, iff_of_true ?_ ho⟩
  · rw [grant_status]
    exact status_marked row hf hk hs _ _
  · rw [(grant_same grant _ _ topUp.tradeNo).allOrNothing_iff]
    exact allOrNothing_credited cols row hf hk hs

theorem notify_pending (hf : s.db.topUps.find? topUp.tradeNo = some topUp)
    (hp : topUp.paymentProvider = .epay) (hpe : topUp.status = .pending)
    (fl : EpayFaults) (grant : GrantCall) (type : String) :
    EpayOutcome cfg.quotaPerUnit topUp s (.notify fl grant type)
      (epayStep cfg topUp.tradeNo s (.notify fl grant type)) := by
  change EpayOutcome _ _ _ _ (completeEpay _ _ _ _ _).2
  rcases completeEpay_pending cfg.quotaPerUnit fl grant ⟨topUp.tradeNo, type, true⟩ hf
    hp hpe with ⟨hs, e, he⟩ | ⟨hw, hr, e, he⟩ | ⟨_, hi, he⟩
  · rw [he]
    refine .inl ⟨rfl, ?_⟩
    intro _ hl hu
    exact absurd ⟨hl, hu⟩ hs
  · rw [he]
    have hSt := topUpStatus_of_find? hf
    rw [hpe] at hSt
    refine .inr ⟨status_marked (paidTopUp type topUp) hf rfl rfl 0 id, ?_⟩
    refine (allOrNothing_marked (paidTopUp type topUp) hf rfl rfl).trans ⟨?_, ?_⟩
    · intro hz _ _ _ hno
      exact absurd hz hno
    · intro hc
      by_contra hno
      exact hr (hc hSt hw.1 hw.2 hno)
  · rw [he]
    exact outcome_credited id (paidTopUp type topUp) grant hf rfl rfl fun _ _ _ _ => hi

theorem adminComplete_pending (hf : s.db.topUps.find? topUp.tradeNo = some topUp)
    (hp : topUp.paymentProvider = .epay) (hpe : topUp.status = .pending) (now : Int)
    (fl : TopUpFaults) (grant : GrantCall) :
    EpayOutcome cfg.quotaPerUnit topUp s (.adminComplete now fl grant)
      (epayStep cfg topUp.tradeNo s (.adminComplete now fl grant)) := by
  rw [epayStep]
  obtain he | ⟨db, hc, he⟩ := adminComplete_cases { cfg with now } fl grant topUp.tradeNo s
  · exact .inl ⟨he, trivial⟩
  rw [he]
  cases hc with
  | replayed row hr hs =>
    rw [hf] at hr
    cases hr
    rw [hpe] at hs
    cases hs
  | credited row quota hr how hSt hCr =>
    rw [hf] at hr
    cases hr
    have ho : topUp.paymentProvider ≠ .stripe := by
      rw [hp]
      decide
    rw [manualCredit_eq ho hCr]
    exact outcome_credited _ (completedTopUp now topUp) grant hf rfl rfl trivial

theorem epayStep_success (hsu : topUpStatus s.db topUp.tradeNo = some .success) (op : EpayOp) :
    SameStanding topUp.tradeNo s (epayStep cfg topUp.tradeNo s op) := by
  obtain ⟨row, hf, hs⟩ := Option.map_eq_some_iff.mp hsu
  have hcl : row.status ≠ .pending := by
    rw [hs]
    decide
  cases op with
  | notify faults grant type =>
    have hc := completeEpay_closed cfg.quotaPerUnit faults grant ⟨topUp.tradeNo, type, true⟩ hf hcl
    change SameStanding _ _ (completeEpay _ _ _ _ _).2
    rw [hc]
    exact ⟨rfl, fun _ => rfl⟩
  | adminComplete now faults grant =>
    rw [epayStep]
    obtain he | ⟨db, hc, he⟩ := adminComplete_cases { cfg with now } faults grant topUp.tradeNo s
    · rw [he]
      exact ⟨rfl, fun _ => rfl⟩
    rw [he]
    cases hc with
    | replayed other hr hsu => exact grant_same grant _ s _
    | credited other quota hr _ hp _ =>
      rw [hf] at hr
      cases hr
      exact absurd hp hcl

theorem epayRun_success (hs : topUpStatus s.db topUp.tradeNo = some .success) (ops : List EpayOp) :
    SameStanding topUp.tradeNo s (run (epayStep cfg topUp.tradeNo) s ops) := by
  refine run_preserves (I := SameStanding topUp.tradeNo s) ?_ ⟨rfl, fun _ => rfl⟩ ops
  intro mid op hm
  have hp : SameStanding topUp.tradeNo mid (epayStep cfg topUp.tradeNo mid op) :=
    epayStep_success (hm.1.trans hs) op
  exact ⟨hp.1.trans hm.1, fun k => (hp.2 k).trans (hm.2 k)⟩

theorem epayAlong_success {unit : Rat}
    (hs : topUpStatus s.db topUp.tradeNo = some .success) (ops : List EpayOp) :
    Along (epayStep cfg topUp.tradeNo)
      (fun mid op => op.CreditsWhatItMarks unit topUp mid) s ops := by
  induction ops generalizing s with
  | nil => trivial
  | cons op ops ih =>
    refine ⟨?_, ih ((epayStep_success hs op).1.trans hs)⟩
    cases op with
    | notify faults grant type =>
      intro hp
      rw [hs] at hp
      cases hp
    | adminComplete now faults grant => trivial

end

def epayTopUp : TopUp := ⟨"USR7NO1", 7, 10, 70, "alipay", .epay, 900, 0, .pending⟩

/-- User 7 was invited by user 3. -/
def epayStore : PaymentStore where
  db := { Database.initial with topUps := ⟨[epayTopUp], List.nodup_singleton _⟩ }
  referrals := ⟨[{ inviterId := 3, inviteeId := 7 }], List.nodup_singleton _⟩

def epaySettings : Settings := ⟨0, 500000, fun q => q.floor⟩

def fullGrant : GrantCall := ⟨oneReward, 900, none, List.replicate 7 none⟩

end DeepRouter.TopUps
