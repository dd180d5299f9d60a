import DeepRouter.TopUps.ManualCredit

/-! # Epay orders in tokens mode -/

namespace DeepRouter.TopUps

open Store Atomic KeyedTable Billing

section

variable {a n : Int}

theorem wholeUnits_bounds (a : Int) (hp : 0 < n) :
    (0 ≤ a → 0 ≤ a.tdiv n * n ∧ a.tdiv n * n ≤ a) ∧
      (a ≤ 0 → a ≤ a.tdiv n * n ∧ a.tdiv n * n ≤ 0) := by
  have hs := Int.tdiv_mul_add_tmod a n
  constructor
  · intro hNn
    have hq := Int.mul_nonneg (Int.tdiv_nonneg hNn hp.le) hp.le
    have hr := Int.tmod_nonneg n hNn
    omega
  · intro hn
    have hq := Int.mul_nonneg (Int.tdiv_nonneg (Int.neg_nonneg_of_nonpos hn) hp.le) hp.le
    have hr := Int.tmod_nonneg n (Int.neg_nonneg_of_nonpos hn)
    rw [Int.neg_tdiv, Int.neg_mul] at hq
    rw [Int.neg_tmod] at hr
    omega

theorem wholeUnits_eq_iff (hp : 0 < n) : 0 ≤ a.tdiv n * n ∧ a.tdiv n * n = a ↔ n ∣ a ∧ 0 ≤ a := by
  constructor
  · rintro ⟨hn, hs⟩
    exact ⟨⟨a.tdiv n, by rw [Int.mul_comm, hs]⟩, by omega⟩
  · rintro ⟨hd, hn⟩
    exact ⟨((wholeUnits_bounds a hp).1 hn).1, Int.tdiv_mul_cancel hd⟩

theorem num_tdiv_den (hp : 0 < n) : ((a : Rat) / n).num.tdiv ((a : Rat) / n).den = a.tdiv n := by
  obtain ⟨c, hn, hde⟩ := Rat.num_den_mk hp.ne' (Rat.divInt_eq_div a n).symm
  generalize ((a : Rat) / n).num = num at hn ⊢
  have hd : 0 < (((a : Rat) / n).den : Int) := Int.natCast_pos.mpr (Rat.den_pos _)
  generalize (((a : Rat) / n).den : Int) = den at hde hd ⊢
  have hs : 0 < c := by
    rw [hde] at hp
    exact (mul_pos_iff_of_pos_right hd).mp hp
  rw [hn, hde, Int.mul_tdiv_mul_of_pos _ _ hs]

end

structure PaidRequest (cfg : EpaySettings) where
  ctx : EpayContext
  req : EpayRequest
  before : Database
  tradeNo : String
  after : Database
  accepted : requestEpay cfg ctx (some req) before = (.ok tradeNo, after)
  later : PaymentStore
  untouched : later.db.topUps.find? tradeNo = after.topUps.find? tradeNo
  grant : GrantCall
  type : String

namespace PaidRequest

variable {cfg : EpaySettings}

/-- Apart from a referral reward. -/
def credited (p : PaidRequest cfg) : Int :=
  (epayNotify cfg.quotaPerUnit {} p.grant (some ⟨p.tradeNo, p.type, true⟩) p.later).2.ownQuota
    p.ctx.userId - p.later.ownQuota p.ctx.userId

def price (p : PaidRequest cfg) : Rat := ((p.after.topUps.find? p.tradeNo).map TopUp.money).getD 0

end PaidRequest

theorem requestEpay_ok {cfg : EpaySettings} {ctx : EpayContext} {req : EpayRequest}
    {db db' : Database} {tn : String} (h : requestEpay cfg ctx (some req) db = (.ok tn, db')) :
    ∃ group, ctx.group = .ok group ∧ db'.topUps.find? tn = some (epayOrder cfg ctx req group) := by
  unfold requestEpay at h
  dsimp only at h
  split at h
  · cases h
  split at h
  · cases h
  rename_i group hg
  split at h
  · cases h
  split at h
  · cases h
  split at h
  · cases h
  split at h
  · cases h
  · rename_i topUps _ _ hi
    cases h
    exact ⟨group, hg, Table.find?_insert?_self hi⟩
  · cases h

section

variable {cfg : EpaySettings} {n : Int} (ht : cfg.quotaDisplayType = .tokens)
  (hu : cfg.quotaPerUnit = n) (hp : 0 < n)

include ht hu hp

theorem orderAmount_tokens (am : Int64) : (orderAmount cfg am).toInt = am.toInt.tdiv n := by
  have hl := am.le_toInt
  have hh := am.toInt_lt
  have ha := Int.natAbs_tdiv_le_natAbs am.toInt n
  have hs : am.toInt ≤ 0 → am.toInt.tdiv n ≤ 0 := by
    intro hn
    have hne := Int.tdiv_nonneg (Int.neg_nonneg_of_nonpos hn) hp.le
    rw [Int.neg_tdiv] at hne
    omega
  have hf : (Int64.ofInt (am.toInt.tdiv n)).toInt = am.toInt.tdiv n :=
    MachineInt.toInt_ofInt_iff.mpr ⟨by omega, by omega⟩
  rw [orderAmount, if_pos ht, hu, intPart, num_tdiv_den hp, hf, hf]

theorem amountQuota_epayOrder (ctx : EpayContext) (req : EpayRequest) (group : String) :
    amountQuota cfg.quotaPerUnit (epayOrder cfg ctx req group) = req.amount.toInt.tdiv n * n := by
  have hl := req.amount.le_toInt
  have hh := req.amount.toInt_lt
  obtain ⟨ha, hb⟩ := wholeUnits_bounds req.amount.toInt hp
  rw [amountQuota, hu]
  change intPart ((orderAmount cfg req.amount).toInt * n) = _
  rw [orderAmount_tokens ht hu hp, ← Int.cast_mul]
  generalize req.amount.toInt.tdiv n * n = units at ha hb ⊢
  rw [intPart_intCast_eq_iff (by omega) (by omega), Int.sub_self]
  exact Int.dvd_zero _

theorem PaidRequest.credited_eq (p : PaidRequest cfg) :
    p.credited = if 0 ≤ p.req.amount.toInt.tdiv n * n then p.req.amount.toInt.tdiv n * n else 0 := by
  obtain ⟨group, _, ho⟩ := requestEpay_ok p.accepted
  have hf := p.untouched.trans ho
  have ha := amountQuota_epayOrder ht hu hp p.ctx p.req group
  change (completeEpay _ _ _ _ _).2.ownQuota _ - _ = _
  rcases completeEpay_pending cfg.quotaPerUnit {} p.grant ⟨p.tradeNo, p.type, true⟩ hf rfl
    rfl with ⟨hs, _⟩ | ⟨_, hr, _, he⟩ | ⟨_, hn, he⟩
  · exact absurd ⟨rfl, rfl⟩ hs
  · rw [ha] at hr
    rw [he, if_neg fun hn => hr ⟨rfl, hn⟩]
    exact Int.sub_self _
  · rw [ha] at hn
    rw [he, ha, if_pos hn.2, grant_ownQuota, ownQuota_credited]
    change _ + (if p.ctx.userId = p.ctx.userId then _ else 0) - _ = _
    rw [if_pos rfl, add_sub_cancel_left]

theorem PaidRequest.credited_iff (p : PaidRequest cfg) :
    p.credited = p.req.amount.toInt ↔ n ∣ p.req.amount.toInt ∧ 0 ≤ p.req.amount.toInt := by
  rw [p.credited_eq ht hu hp, ← wholeUnits_eq_iff hp]
  have hb := wholeUnits_bounds p.req.amount.toInt hp
  generalize p.req.amount.toInt.tdiv n * n = units at hb ⊢
  split
  · rename_i hn
    exact (and_iff_right hn).symm
  · omega

end

/-- Two buyers in tokens mode get the tokens they asked for just when both asked for whole units. -/
theorem epay_tokens_credited_iff (cfg : EpaySettings) (n : Int)
    (hTokens : cfg.quotaDisplayType = .tokens) (hUnit : cfg.quotaPerUnit = n)
    (hPos : 0 < n) (p q : PaidRequest cfg) :
    (p.credited = p.req.amount.toInt ∧ q.credited = q.req.amount.toInt ∧
        (p.req.amount ≠ q.req.amount → p.price ≠ q.price → p.credited ≠ q.credited)) ↔
      (n ∣ p.req.amount.toInt ∧ 0 ≤ p.req.amount.toInt) ∧
        (n ∣ q.req.amount.toInt ∧ 0 ≤ q.req.amount.toInt) := by
  rw [← p.credited_iff hTokens hUnit hPos, ← q.credited_iff hTokens hUnit hPos]
  constructor
  · rintro ⟨hf, hsn, _⟩
    exact ⟨hf, hsn⟩
  rintro ⟨hf, hsn⟩
  refine ⟨hf, hsn, ?_⟩
  intro ha _ hs
  rw [hf, hsn] at hs
  exact ha (Int64.toInt_inj.mp hs)

def tokensSettings : EpaySettings where
  quotaPerUnit := 500000
  quotaDisplayType := .tokens
  price := 73 / 10
  minTopUp := 1
  topupGroupRatio _ := 1
  amountDiscount _ := none
  payMethods := ["alipay"]
  client := true

def buyer : EpayContext := { userId := 7, group := .ok "default", random := "AbCdEf", now := 900 }

def paidAtOnce (amount : Int64)
    (h : (requestEpay tokensSettings buyer (some ⟨amount, "alipay"⟩) .initial).1 =
      .ok (tradeNoOf buyer)) : PaidRequest tokensSettings where
  ctx := buyer
  req := ⟨amount, "alipay"⟩
  before := .initial
  tradeNo := tradeNoOf buyer
  after := (requestEpay tokensSettings buyer (some ⟨amount, "alipay"⟩) .initial).2
  accepted := Prod.ext h rfl
  later := ⟨(requestEpay tokensSettings buyer (some ⟨amount, "alipay"⟩) .initial).2, ⟨[], List.nodup_nil⟩⟩
  untouched := rfl
  grant := fullGrant
  type := "alipay"

theorem epay_tokens_whole_units :
    let p := paidAtOnce 500000 (by decide +kernel)
    let q := paidAtOnce 1000000 (by decide +kernel)
    p.credited = 500000 ∧ q.credited = 1000000 ∧
      (p.req.amount ≠ q.req.amount → p.price ≠ q.price → p.credited ≠ q.credited) :=
  (epay_tokens_credited_iff tokensSettings 500000 rfl rfl (by decide) (paidAtOnce 500000 _)
    (paidAtOnce 1000000 _)).mpr ⟨⟨by decide, by decide⟩, by decide, by decide⟩

theorem epay_tokens_truncated :
    let p := paidAtOnce 500000 (by decide +kernel)
    let q := paidAtOnce 999999 (by decide +kernel)
    p.price < q.price ∧ p.credited = 500000 ∧ q.credited = 500000 := by
  decide +kernel

end DeepRouter.TopUps
