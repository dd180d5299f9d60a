import DeepRouter.Billing.Exclusion
import DeepRouter.Billing.Realtime

/-! # What a realtime session is charged -/

namespace DeepRouter.Billing

open Store Atomic Subscription Runs BillingSession

section

variable {cfg : RatioSettings} {formatQuota : Int → String} {quota : Int}
  {db db' : Database}

theorem postConsumeFunding_ok {call : FundingCall} {relayInfo relayInfo' : RelayInfo}
    (hsr : relayInfo.billingSource = .wallet)
    (h : postConsumeFunding call relayInfo quota db = (.ok relayInfo', db')) :
    relayInfo' = relayInfo ∧ Shifted db db' (userDebit relayInfo.userId quota) := by
  unfold postConsumeFunding at h
  rw [if_neg (by simp [hsr])] at h
  split at h
  · cases h
  rename_i hc
  cases h
  refine ⟨rfl, ?_⟩
  split at hc
  · exact decreaseUserQuota_ok hc
  · have hs := increaseUserQuota_ok hc
    rw [Int.neg_neg] at hs
    exact hs

theorem postConsumeQuota_ok {calls : SettleCalls} {relayInfo relayInfo' : RelayInfo}
    (hs : relayInfo.billingSource = .wallet)
    (h : postConsumeQuota calls relayInfo quota db = (.ok (), relayInfo', db')) :
    relayInfo' = relayInfo ∧
      Shifted db db' (userDebit relayInfo.userId quota + requestTokenDebit relayInfo quota) := by
  unfold postConsumeQuota at h
  split at h
  · cases h
  rename_i after mid hf
  obtain ⟨rfl, hu⟩ := postConsumeFunding_ok hs hf
  cases ht : settleToken calls.token quota after mid with
  | mk r next =>
    rw [ht] at h
    cases h
    exact ⟨rfl, hu.trans (settleToken_ok ht)⟩

structure OnWallet (info : RealtimeInfo) : Prop where
  funding : fundingDebit info.session.funding = userDebit info.session.relayInfo.userId
  billingSource : info.session.relayInfo.billingSource = .wallet
  usePrice : info.usePrice = false

@[simp] theorem responseQuota_resolveGroup (cfg : RatioSettings) (info : RealtimeInfo)
    (usage : RealtimeUsage) :
    responseQuota cfg info.resolveGroup usage = responseQuota cfg info usage := by
  unfold responseQuota RealtimeInfo.resolveGroup
  cases info.autoGroup <;> rfl

theorem preWssConsumeQuota_ok {calls : WssCalls} {info info' : RealtimeInfo} {usage : RealtimeUsage}
    (hw : OnWallet info)
    (h : preWssConsumeQuota cfg formatQuota calls info usage db = (.ok (), info', db')) :
    info' = info.resolveGroup ∧
      Shifted db db' (sessionDebit info.session (responseQuota cfg info usage)) := by
  unfold preWssConsumeQuota at h
  rw [if_neg (by simp [hw.usePrice])] at h
  split at h
  · cases h
  · cases h
  dsimp only at h
  split at h
  · cases h
  split at h
  · cases h
  generalize hp : postConsumeQuota _ _ _ _ = post at h
  obtain ⟨r, relayInfo, mid⟩ := post
  cases h
  obtain ⟨rfl, hs⟩ := postConsumeQuota_ok hw.billingSource hp
  rw [responseQuota_resolveGroup] at hs
  refine ⟨rfl, ?_⟩
  rw [sessionDebit, hw.funding]
  exact hs

def meterStep (cfg : RatioSettings) (formatQuota : Int → String) (m : Metered)
    (response : WssCalls × RealtimeUsage) : Metered :=
  (preConsumeUsage cfg formatQuota response.1 response.2 m).2

def MeterSucceeds (cfg : RatioSettings) (formatQuota : Int → String) (m : Metered)
    (response : WssCalls × RealtimeUsage) : Prop :=
  (preConsumeUsage cfg formatQuota response.1 response.2 m).1 = .ok ()

def meteredQuota (cfg : RatioSettings) (info : RealtimeInfo)
    (responses : List (WssCalls × RealtimeUsage)) : Int :=
  (responses.map fun response => responseQuota cfg info response.2).sum

structure MeteredFrom (cfg : RatioSettings) (start m : Metered) (quota : Int) : Prop where
  session : m.info.session = start.info.session
  wallet : OnWallet m.info
  quotas : ∀ usage, responseQuota cfg m.info usage = responseQuota cfg start.info usage
  debits : Shifted start.db m.db (sessionDebit start.info.session quota)

theorem MeteredFrom.refl {start : Metered} (h : OnWallet start.info) :
    MeteredFrom cfg start start 0 := by
  refine ⟨rfl, h, fun _ => rfl, ?_⟩
  rw [map_zero]
  exact .refl _

theorem MeteredFrom.step {start m : Metered} {rsp : WssCalls × RealtimeUsage}
    (h : MeteredFrom cfg start m quota) (ho : MeterSucceeds cfg formatQuota m rsp) :
    MeteredFrom cfg start (meterStep cfg formatQuota m rsp)
      (quota + responseQuota cfg start.info rsp.2) := by
  unfold MeterSucceeds at ho
  unfold meterStep
  unfold preConsumeUsage at ho ⊢
  generalize hp : preWssConsumeQuota _ _ _ _ _ _ = pre at ho ⊢
  obtain ⟨r, info, mid⟩ := pre
  cases ho
  obtain ⟨rfl, hs⟩ := preWssConsumeQuota_ok h.wallet hp
  refine ⟨h.session, ⟨h.wallet.funding, h.wallet.billingSource, h.wallet.usePrice⟩, ?_, ?_⟩
  · intro usage
    exact (responseQuota_resolveGroup cfg m.info usage).trans (h.quotas usage)
  · rw [map_add]
    rw [h.session, h.quotas] at hs
    exact h.debits.trans hs

theorem meter_run (start : Metered) (hw : OnWallet start.info)
    (rsps : List (WssCalls × RealtimeUsage))
    (h : Along (meterStep cfg formatQuota) (MeterSucceeds cfg formatQuota) start
      rsps) :
    MeteredFrom cfg start (run (meterStep cfg formatQuota) start rsps)
      (meteredQuota cfg start.info rsps) := by
  suffices hal : ∀ m quota, MeteredFrom cfg start m quota →
      Along (meterStep cfg formatQuota) (MeterSucceeds cfg formatQuota) m rsps →
      MeteredFrom cfg start (run (meterStep cfg formatQuota) m rsps)
        (quota + meteredQuota cfg start.info rsps) by
    have hr := hal start 0 (.refl hw) h
    rw [zero_add] at hr
    exact hr
  clear h
  induction rsps with
  | nil =>
    intro m quota hm _
    rw [meteredQuota, List.map_nil, List.sum_nil, add_zero]
    exact hm
  | cons response rest ih =>
    intro m quota hm ha
    rw [meteredQuota, List.map_cons, List.sum_cons, ← add_assoc, run_cons]
    exact ih _ _ (hm.step ha.1) ha.2

end

theorem walletDebit_apply {s : BillingSession}
    (hf : fundingDebit s.funding = userDebit s.relayInfo.userId)
    (hp : s.relayInfo.isPlayground = false) (quota : Int) :
    (sessionDebit s quota).1 s.relayInfo.userId = quota ∧
      (sessionDebit s quota).2.1 s.relayInfo.tokenId = quota := by
  rw [sessionDebit, hf, requestTokenDebit, if_neg (by simp [hp])]
  constructor
  · simp [userDebit, tokenDebit]
  · simp [userDebit, tokenDebit]

theorem Opened.onWallet {db db' : Database} {info : RealtimeInfo} (h : Opened db info.session db')
    (hs : info.session.funding.source = .wallet) (hp : info.usePrice = false) : OnWallet info := by
  refine ⟨?_, h.billingSource.trans hs, hp⟩
  have ho := h.owned
  cases hf : info.session.funding with
  | wallet w =>
    rw [Owned, hf] at ho
    rw [← ho]
    rfl
  | subscription f =>
    rw [hf] at hs
    cases hs

theorem realtime_debits {ctx : Context} {calls : NewSessionCalls} {ri : Option RelayInfo}
    {preConsumedQuota : Int} {db : Database} {cfg : RatioSettings} {formatQuota : Int → String}
    {info : RealtimeInfo} {rsps : List (WssCalls × RealtimeUsage)} {settleCalls : SettleCalls}
    {actual : Int} {opened closed : Database} {m : Metered} (hq : 0 ≤ preConsumedQuota)
    (hn : newBillingSession ctx calls ri preConsumedQuota db = ⟨.ok info.session, opened, []⟩)
    (hsr : info.session.funding.source = .wallet) (hp : info.usePrice = false)
    (hm : Along (meterStep cfg formatQuota) (MeterSucceeds cfg formatQuota)
      ⟨info, {}, opened⟩ rsps) (hr : run (meterStep cfg formatQuota) ⟨info, {}, opened⟩ rsps = m)
    (hOk : (settle settleCalls actual m.info.session m.db).result = .ok ())
    (hcl : (settle settleCalls actual m.info.session m.db).db = closed) :
    debits closed = carried db opened +
      sessionDebit info.session (meteredQuota cfg info rsps + actual) := by
  have hc := newBillingSession_creates ctx calls hq db ri
  rw [hn] at hc
  have ho := hc.opened info.session rfl rfl (by rw [hsr]; intro h; cases h)
  have hme := meter_run ⟨info, {}, opened⟩ (ho.onWallet hsr hp) rsps hm
  rw [hr] at hme
  obtain ⟨w, hw⟩ : ∃ w, info.session.funding = .wallet w := by
    cases hf : info.session.funding with
    | wallet w => exact ⟨w, rfl⟩
    | subscription f =>
      rw [hf] at hsr
      cases hsr
  rw [hme.session] at hOk hcl
  have hs := settle_ok_shifted (reply_ok hOk) hw ho.settled ho.fundingSettled
  rw [hcl] at hs
  rw [(hme.debits.trans hs).debits, ho.debits, ← map_add, add_assoc, ← map_add]
  congr 2
  dsimp only
  omega

/-- User and token are debited by the logged quota just when the responses metered on the way were
debited nothing. -/
theorem realtime_charged_once_iff (ctx : Context) (calls : NewSessionCalls)
    (relayInfo : Option RelayInfo) (preConsumedQuota : Int) (db opened : Database)
    (cfg : RatioSettings) (formatQuota : Int → String) (info : RealtimeInfo)
    (responses : List (WssCalls × RealtimeUsage)) (settleCalls : SettleCalls) (m : Metered)
    (hQuota : 0 ≤ preConsumedQuota)
    (hNew : newBillingSession ctx calls relayInfo preConsumedQuota db = ⟨.ok info.session, opened, []⟩)
    (hSource : info.session.funding.source = .wallet) (hPrice : info.usePrice = false)
    (hPlayground : info.session.relayInfo.isPlayground = false)
    (hMetered : Along (meterStep cfg formatQuota) (MeterSucceeds cfg formatQuota)
      ⟨info, {}, opened⟩ responses)
    (hRun : run (meterStep cfg formatQuota) ⟨info, {}, opened⟩ responses = m)
    (hOk : (postWssConsumeQuota cfg none settleCalls m.info.upstreamModelName m).2.result =
      .ok ()) :
    let (log, reply) := postWssConsumeQuota cfg none settleCalls m.info.upstreamModelName m
    ((db.users info.session.relayInfo.userId).quota -
        (reply.db.users info.session.relayInfo.userId).quota = log.quota ∧
      (db.tokens info.session.relayInfo.tokenId).remainQuota -
        (reply.db.tokens info.session.relayInfo.tokenId).remainQuota = log.quota) ↔
    meteredQuota cfg info responses = 0 := by
  generalize hp : postWssConsumeQuota cfg none settleCalls m.info.upstreamModelName m = post
    at hOk
  obtain ⟨log, reply⟩ := post
  have hr : settle settleCalls log.quota m.info.session m.db = reply := by
    unfold postWssConsumeQuota at hp
    cases hp
    rfl
  have hd := realtime_debits hQuota hNew hSource hPrice hMetered hRun (by rw [hr]; exact hOk) rfl
  rw [hr] at hd
  have hc := newBillingSession_creates ctx calls hQuota db relayInfo
  rw [hNew] at hc
  have ho := hc.opened info.session rfl rfl (by rw [hSource]; intro h; cases h)
  obtain ⟨hus, hto⟩ := walletDebit_apply (ho.onWallet hSource hPrice).funding hPlayground
    (meteredQuota cfg info responses + log.quota)
  have hu := congrFun (congrArg Prod.fst hd) info.session.relayInfo.userId
  have ht := congrFun (congrArg (fun d : Debits => d.2.1) hd) info.session.relayInfo.tokenId
  rw [Prod.fst_add, Pi.add_apply, hus] at hu
  rw [Prod.snd_add, Prod.fst_add, Pi.add_apply, hto] at ht
  change -(reply.db.users info.session.relayInfo.userId).quota =
    -(db.users info.session.relayInfo.userId).quota + _ at hu
  change -(reply.db.tokens info.session.relayInfo.tokenId).remainQuota =
    -(db.tokens info.session.relayInfo.tokenId).remainQuota + _ at ht
  constructor
  · rintro ⟨hne, _⟩
    omega
  intro hn
  constructor
  · omega
  · omega

def flatRatios (modelRatio : Rat) : RatioSettings where
  completionRatio _ := 1
  audioRatio _ := 1
  audioCompletionRatio _ := 1
  modelRatio _ := modelRatio
  groupRatio _ := 1
  groupGroupRatio _ _ := none
  quotaPerUnit := 500000

def realtimeInfo (modelRatio : Rat) : RealtimeInfo where
  session := walletSession
  originModelName := "gpt-realtime"
  upstreamModelName := "gpt-realtime"
  usingGroup := "default"
  userGroup := "default"
  autoGroup := none
  usePrice := false
  priceData := { modelPrice := 0, modelRatio := modelRatio, groupRatio := 1, usePrice := false }

def textResponse : WssCalls × RealtimeUsage :=
  ({ userQuota := .ok 400, token := .ok (0, true) },
    { totalTokens := 15, inputTokens := 10, outputTokens := 5,
      inputTokenDetails := { textTokens := 10 }, outputTokenDetails := { textTokens := 5 } })

theorem realtime_charged_once_free_model :
    let reply := newBillingSession plainContext plainCalls (some walletInfo) 100 walletUser
    let m := run (meterStep (flatRatios 0) toString) ⟨realtimeInfo 0, {}, reply.db⟩ [textResponse]
    let (log, closed) := postWssConsumeQuota (flatRatios 0) none {} m.info.upstreamModelName m
    (walletUser.users 7).quota - (closed.db.users 7).quota = log.quota ∧
      (walletUser.tokens 3).remainQuota - (closed.db.tokens 3).remainQuota = log.quota := by
  intro reply m
  have hn : reply = ⟨.ok walletSession, reply.db, []⟩ := by
    have hr : reply.result = .ok walletSession := by decide
    have hl : reply.logs = [] := by decide
    rw [← hr, ← hl]
  have hm : Along (meterStep (flatRatios 0) toString) (MeterSucceeds (flatRatios 0) toString)
      ⟨realtimeInfo 0, {}, reply.db⟩ [textResponse] := by
    refine ⟨?_, trivial⟩
    unfold MeterSucceeds
    decide +kernel
  have ho : (postWssConsumeQuota (flatRatios 0) none {} m.info.upstreamModelName m).2.result =
      .ok () := by decide +kernel
  exact (realtime_charged_once_iff plainContext plainCalls (some walletInfo) 100 walletUser reply.db
    (flatRatios 0) toString (realtimeInfo 0) [textResponse] {} m (by decide) hn rfl rfl rfl hm
    rfl ho).mpr (by decide +kernel)

theorem realtime_response_charged_twice :
    let reply := newBillingSession plainContext plainCalls (some walletInfo) 100 walletUser
    let metered := preConsumeUsage (flatRatios 2) toString textResponse.1 textResponse.2
      ⟨realtimeInfo 2, {}, reply.db⟩
    let (log, closed) := postWssConsumeQuota (flatRatios 2) none {} "gpt-realtime" metered.2
    reply.result = .ok walletSession ∧ metered.1 = .ok () ∧ closed.result = .ok () ∧
      log.quota = 30 ∧ (walletUser.users 7).quota - (closed.db.users 7).quota = 60 ∧
      (walletUser.tokens 3).remainQuota - (closed.db.tokens 3).remainQuota = 60 := by
  decide +kernel

end DeepRouter.Billing
