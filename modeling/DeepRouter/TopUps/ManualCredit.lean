import Mathlib.Data.Rat.Cast.Order
import Mathlib.Tactic.Positivity
import DeepRouter.TopUps.EpayCompletion

/-! # The credit of a manual completion -/

namespace DeepRouter.TopUps

open Store Atomic KeyedTable Billing Referral

theorem intPart_intCast (k : Int) : intPart k = k.bmod (2 ^ 64) := by
  unfold intPart
  rw [Rat.num_intCast, Rat.den_intCast, Nat.cast_one, Int.tdiv_one, Int64.toInt_ofInt]
  rfl

theorem intPart_intCast_eq_iff {k a : Int} (hl : -2 ^ 63 ≤ a) (hh : a < 2 ^ 63) :
    intPart k = a ↔ (2 ^ 64 : Int) ∣ k - a := by
  have hm := Int.bmod_emod (x := k) (m := 2 ^ 64)
  have hwr := Int.le_bmod (x := k) (m := 2 ^ 64) (by decide)
  have hw := Int.bmod_lt (x := k) (m := 2 ^ 64) (by decide)
  rw [intPart_intCast]
  generalize k.bmod (2 ^ 64) = wrapped at hm hwr hw ⊢
  omega

theorem intPart_lt (d : Rat) : intPart d < 2 ^ 63 := Int64.toInt_lt _

inductive GatewayCall where
  | epay (faults : EpayFaults) (grant : GrantCall) (type : String)
  | stripe (faults : TopUpFaults) (customerId : String)
  | creem (faults : TopUpFaults) (customerEmail : String)
  | waffo (faults : TopUpFaults)
  | airwallex (faults : TopUpFaults) (handles : AirwallexHandles)

def GatewayCall.provider : GatewayCall → PaymentProvider
  | .epay _ _ _ => .epay
  | .stripe _ _ => .stripe
  | .creem _ _ => .creem
  | .waffo _ => .waffo
  | .airwallex _ _ => .airwallex

def PaymentStore.after (s : PaymentStore) (reply : Except Err Unit × Database) :
    Except Err Unit × PaymentStore :=
  (reply.1, { s with db := reply.2 })

def gatewayComplete (cfg : Settings) (tradeNo : String) (s : PaymentStore) :
    GatewayCall → Except Err Unit × PaymentStore
  | .epay faults grant type => completeEpay cfg.quotaPerUnit faults grant ⟨tradeNo, type, true⟩ s
  | .stripe faults customerId => s.after (recharge cfg faults tradeNo customerId s.db)
  | .creem faults customerEmail => s.after (rechargeCreem cfg faults tradeNo customerEmail s.db)
  | .waffo faults => s.after (rechargeWaffo cfg faults tradeNo s.db)
  | .airwallex faults handles => s.after (rechargeAirwallex cfg faults tradeNo handles s.db)

def GatewayCall.credit (cfg : Settings) (topUp : TopUp) : GatewayCall → Int
  | .stripe _ _ => cfg.stored (topUp.money * cfg.quotaPerUnit)
  | .creem _ _ => topUp.amount.toInt
  | _ => amountQuota cfg.quotaPerUnit topUp

def manualCredit (cfg : Settings) (topUp : TopUp) : Int :=
  let credit :=
    if topUp.paymentProvider = .stripe then intPart (topUp.money * cfg.quotaPerUnit)
    else amountQuota cfg.quotaPerUnit topUp
  if topUp.tradeNo = "" ∨ credit ≤ 0 then 0 else credit

section

variable {cfg : Settings} {db db' : Database} {topUp : TopUp}

theorem manualCompletion_credit :
    (manualCompletion cfg).credit topUp = positiveCredit
      (if topUp.paymentProvider = .stripe then intPart (topUp.money * cfg.quotaPerUnit)
      else amountQuota cfg.quotaPerUnit topUp) := by
  change (if _ then _ else _) = _
  split
  · rfl
  · rfl

theorem completeTx_manual {tn : String} (hf : db.topUps.find? tn = some topUp)
    (hp : topUp.status = .pending) :
    completeTx (manualCompletion cfg) cfg.now {} tn db =
      ((manualCompletion cfg).credit topUp >>= fun quota =>
        .ok ((), (saveTopUp db (completedTopUp cfg.now topUp)).updateUser topUp.userId
          (creditUser id quota))) := by
  unfold completeTx
  rw [hf]
  simp [hp, manualCompletion, bind, Except.bind]

theorem manualCompleteTopUp_quota (hf : db.topUps.find? topUp.tradeNo = some topUp)
    (hp : topUp.status = .pending) :
    quotaOf (manualCompleteTopUp cfg {} topUp.tradeNo db).2 topUp.userId =
      quotaOf db topUp.userId + manualCredit cfg topUp := by
  unfold manualCompleteTopUp manualCredit
  rw [completeTx_manual hf hp, manualCompletion_credit]
  generalize (if topUp.paymentProvider = .stripe then _ else _) = credit
  by_cases ht : topUp.tradeNo = ""
  · simp [ht]
  rw [if_neg ht, positiveCredit]
  by_cases hc : credit ≤ 0
  · simp [hc, transaction, bind, Except.bind]
  · simp only [ht, hc, transaction, bind, Except.bind, false_or, if_false]
    rw [quotaOf_credited, if_pos rfl]
    rfl

variable {s s' : PaymentStore}

theorem after_ok {reply : Except Err Unit × Database} (h : s.after reply = (.ok (), s')) :
    reply = (.ok (), s'.db) := by
  obtain ⟨hr, rfl⟩ := Prod.mk.inj h
  exact Prod.ext hr rfl

theorem gatewayRecharge_quota {cp : Completion} {now : Int} {fl : TopUpFaults}
    (hf : s.db.topUps.find? topUp.tradeNo = some topUp) (hpe : topUp.status = .pending)
    (h : s.after (gatewayRecharge cp now fl topUp.tradeNo s.db) = (.ok (), s')) :
    topUp.tradeNo ≠ "" ∧ (∀ p ∈ cp.provider, topUp.paymentProvider = p) ∧
      ∃ quota, cp.credit topUp = .ok quota ∧
        quotaOf s'.db topUp.userId = quotaOf s.db topUp.userId + quota := by
  replace h := after_ok h
  generalize s'.db = db' at h ⊢
  have ht : topUp.tradeNo ≠ "" := by
    intro he
    rw [gatewayRecharge, if_pos he] at h
    cases h
  cases gatewayRecharge_effect h with
  | replayed row hr hs =>
    rw [hf] at hr
    cases hr
    rw [hpe] at hs
    cases hs
  | credited row quota hr hp hSt hc =>
    rw [hf] at hr
    cases hr
    refine ⟨ht, hp, quota, hc, ?_⟩
    rw [quotaOf_credited, if_pos rfl]
    rfl

/-- The user has no referral record that is still to be rewarded. -/
def NotDue (s : PaymentStore) (userId : Int) : Prop :=
  ∀ record, s.referrals.find? userId = some record → ¬IsDue userId record

theorem grant_notDue (grant : GrantCall) {tn : String} (hf : s.db.topUps.find? tn = some topUp)
    (hn : NotDue s topUp.userId) : grantReferralForTopUp grant tn s = s := by
  unfold grantReferralForTopUp
  split
  · rename_i found _ hfo
    rw [hf] at hfo
    cases hfo
    have hr := @run_callEvents grant.config s.referralStore (· = s.referralStore)
      ⟨grant.now, topUp.userId, "topup", tn⟩ rfl ?_ grant.answers
    · rw [hr]
      rfl
    rintro _ rows s' rfl he
    have hd : ∀ record, Found record s.referralStore → ¬IsDue topUp.userId record := by
      intro record hf hd
      rw [Found, hd.1] at hf
      exact hn record hf hd
    cases he with
    | looked _ => rfl
    | blocked call record reason hf hdu => exact absurd hdu (hd record hf)
    | rewarded call record counted quotas hf hdu => exact absurd hdu (hd record hf)
  · rfl

theorem gatewayComplete_quota {call : GatewayCall}
    (hf : s.db.topUps.find? topUp.tradeNo = some topUp) (hpe : topUp.status = .pending)
    (hd : call.provider = .epay → NotDue s topUp.userId)
    (h : gatewayComplete cfg topUp.tradeNo s call = (.ok (), s')) :
    topUp.paymentProvider = call.provider ∧
      quotaOf s'.db topUp.userId = quotaOf s.db topUp.userId + call.credit cfg topUp ∧
      (topUp.tradeNo = "" → topUp.paymentProvider = .epay) ∧
      (topUp.paymentProvider ≠ .stripe → topUp.paymentProvider ≠ .creem →
        0 ≤ amountQuota cfg.quotaPerUnit topUp) := by
  cases call with
  | epay faults grant type =>
    obtain ⟨hp, hn, rfl⟩ := completeEpay_ok _ faults grant ⟨topUp.tradeNo, type, true⟩ hf hpe h
    refine ⟨hp, ?_, fun _ => hp, fun _ _ => hn⟩
    have hr : ((s.mark (paidTopUp type topUp)).credit topUp.userId id
        (amountQuota cfg.quotaPerUnit topUp)).db.topUps.find? topUp.tradeNo =
          some (paidTopUp type topUp) :=
      (find_saveTopUp (paidTopUp type topUp) hf rfl topUp.tradeNo).trans (if_pos rfl)
    rw [grant_notDue grant hr (hd rfl), PaymentStore.credit, quotaOf_credited, if_pos rfl]
    rfl
  | stripe faults customerId =>
    obtain ⟨ht, hp, quota, hc, hq⟩ := gatewayRecharge_quota hf hpe h
    cases hc
    exact ⟨hp _ rfl, hq, fun he => absurd he ht, fun hno => absurd (hp _ rfl) hno⟩
  | creem faults customerEmail =>
    obtain ⟨ht, hp, quota, hc, hq⟩ := gatewayRecharge_quota hf hpe h
    cases hc
    exact ⟨hp _ rfl, hq, fun he => absurd he ht, fun _ hno => absurd (hp _ rfl) hno⟩
  | waffo | airwallex =>
    obtain ⟨ht, hp, quota, hc, hq⟩ := gatewayRecharge_quota hf hpe h
    obtain ⟨hpo, rfl⟩ := positiveCredit_eq_ok hc
    exact ⟨hp _ rfl, hq, fun he => absurd he ht, fun _ _ => hpo.le⟩

end

/-- The orders for which the two completions agree. A Creem order has to be worth its own amount. -/
def ManualMatches (quotaPerUnit : Int) (topUp : TopUp) : Prop :=
  (topUp.paymentProvider = .creem → (2 ^ 64 : Int) ∣ topUp.amount.toInt * (quotaPerUnit - 1)) ∧
  (topUp.paymentProvider = .stripe → topUp.money * quotaPerUnit < 2 ^ 63) ∧
  (topUp.tradeNo = "" → (2 ^ 64 : Int) ∣ topUp.amount.toInt * quotaPerUnit)

section

variable {cfg : Settings} {topUp : TopUp} {n : Int}

theorem manualCredit_eq_iff_of_pos (ht : topUp.tradeNo ≠ "") {credit : Int} (hp : 0 < credit) :
    manualCredit cfg topUp = credit ↔
      (if topUp.paymentProvider = .stripe then intPart (topUp.money * cfg.quotaPerUnit)
      else amountQuota cfg.quotaPerUnit topUp) = credit := by
  unfold manualCredit
  dsimp only
  generalize (if topUp.paymentProvider = .stripe then _ else _) = computed
  simp only [ht, false_or]
  split
  · omega
  · exact Iff.rfl

theorem manualCredit_eq_amountQuota_iff (hp : topUp.paymentProvider ≠ .stripe)
    (hn : 0 ≤ amountQuota cfg.quotaPerUnit topUp) :
    manualCredit cfg topUp = amountQuota cfg.quotaPerUnit topUp ↔
      (topUp.tradeNo = "" → amountQuota cfg.quotaPerUnit topUp = 0) := by
  unfold manualCredit
  simp only [hp, if_false]
  by_cases ht : topUp.tradeNo = ""
  · simp [ht, eq_comm]
  simp only [ht, false_or, false_imp_iff, iff_true]
  split
  · omega
  · rfl

theorem amountQuota_eq_iff (hu : cfg.quotaPerUnit = n) (topUp : TopUp) (credit : Int)
    (hl : -2 ^ 63 ≤ credit) (hh : credit < 2 ^ 63) :
    amountQuota cfg.quotaPerUnit topUp = credit ↔
      (2 ^ 64 : Int) ∣ topUp.amount.toInt * n - credit := by
  rw [hu, amountQuota, ← Int.cast_mul]
  exact intPart_intCast_eq_iff hl hh

theorem manualCredit_creem (hu : cfg.quotaPerUnit = n)
    (hp : topUp.paymentProvider = .creem) (ht : topUp.tradeNo ≠ "") (ha : 0 < topUp.amount) :
    manualCredit cfg topUp = topUp.amount.toInt ↔
      (2 ^ 64 : Int) ∣ topUp.amount.toInt * (n - 1) := by
  have hpo := MachineInt.pos_iff.mp ha
  have ho : topUp.paymentProvider ≠ .stripe := by
    rw [hp]
    decide
  rw [manualCredit_eq_iff_of_pos ht hpo, if_neg ho, Int.mul_sub, Int.mul_one]
  exact amountQuota_eq_iff hu topUp _ (by omega) topUp.amount.toInt_lt

theorem manualCredit_stripe {m : Int} (hw : topUp.money * cfg.quotaPerUnit = m)
    (hp : topUp.paymentProvider = .stripe) (ht : topUp.tradeNo ≠ "") (hpo : 0 < m) :
    manualCredit cfg topUp = m ↔ m < 2 ^ 63 := by
  rw [manualCredit_eq_iff_of_pos ht hpo, if_pos hp, hw]
  constructor
  · intro hs
    rw [← hs]
    exact intPart_lt m
  intro hh
  refine (intPart_intCast_eq_iff (by omega) hh).mpr ?_
  rw [Int.sub_self]
  exact Int.dvd_zero _

theorem manualCredit_amount (hu : cfg.quotaPerUnit = n)
    (hs : topUp.paymentProvider ≠ .stripe) (hc : topUp.paymentProvider ≠ .creem)
    (hn : 0 ≤ amountQuota cfg.quotaPerUnit topUp) :
    manualCredit cfg topUp = amountQuota cfg.quotaPerUnit topUp ↔ ManualMatches n topUp := by
  have hz := amountQuota_eq_iff hu topUp 0 (by decide) (by decide)
  rw [Int.sub_zero] at hz
  rw [manualCredit_eq_amountQuota_iff hs hn, hz]
  simp only [ManualMatches, hs, hc, false_imp_iff, true_and]

end

def paidReferral : PaymentStore :=
  { epayStore with
    referrals := ⟨[{ inviterId := 3, inviteeId := 7, rewardGrantedAt := some 800 }],
      List.nodup_singleton _⟩ }

end DeepRouter.TopUps
