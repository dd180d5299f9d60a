import DeepRouter.Billing.FundingSpec
import DeepRouter.Relay.TextQuota

/-! # What is charged and what is accounted -/

namespace DeepRouter.Relay

open Store Atomic Subscription Billing BillingSession

structure Stats where
  (userUsedQuota userRequestCount channelUsedQuota : Int → Int)

structure StatsFaults where
  (user channel : Fault := none)

def updateUserUsedQuotaAndRequestCount (fault : Fault) (id quota : Int) (stats : Stats) : Stats :=
  match fault with
  | some _ => stats
  | none => { stats with
      userUsedQuota := Function.update stats.userUsedQuota id (stats.userUsedQuota id + quota)
      userRequestCount := Function.update stats.userRequestCount id (stats.userRequestCount id + 1) }

def updateChannelUsedQuota (fault : Fault) (id quota : Int) (stats : Stats) : Stats :=
  match fault with
  | some _ => stats
  | none => { stats with
      channelUsedQuota :=
        Function.update stats.channelUsedQuota id (stats.channelUsedQuota id + quota) }

def RequestBilling.preConsumed : RequestBilling → Int
  | .opened session => session.preConsumedQuota
  | .unbilled relayInfo => relayInfo.finalPreConsumedQuota

def settleBilling (calls : SettleCalls) (billing : RequestBilling) (actualQuota : Int)
    (db : Database) : Except Err Unit × RequestBilling × Database :=
  match billing with
  | .opened session =>
    let reply := settle calls actualQuota session db
    (reply.result, .opened reply.session, reply.db)
  | .unbilled relayInfo =>
    let quotaDelta := actualQuota - relayInfo.finalPreConsumedQuota
    if quotaDelta ≠ 0 then
      let (result, relayInfo, db) := postConsumeQuota calls relayInfo quotaDelta db
      (result, .unbilled relayInfo, db)
    else (.ok (), .unbilled relayInfo, db)

structure Accounts where
  db : Database
  stats : Stats

def TextRelayInfo.channelId (info : TextRelayInfo) : Int :=
  match info.channelMeta with
  | some channel => channel.channelId
  | none => 0

def settleRequest (calls : SettleCalls) (faults : StatsFaults) (info : TextRelayInfo)
    (totalTokens quota : Int) (accounts : Accounts) : Except Err Unit × RequestBilling × Accounts :=
  let stats := if totalTokens = 0 then accounts.stats
    else updateChannelUsedQuota faults.channel info.channelId quota
      (updateUserUsedQuotaAndRequestCount faults.user info.billing.relayInfo.userId quota
        accounts.stats)
  let (result, billing, db) := settleBilling calls info.billing quota accounts.db
  (result, billing, ⟨db, stats⟩)

def postTextConsumeQuota (cfg : TextSettings) (tools : ToolCalls) (calls : SettleCalls)
    (faults : StatsFaults) (info : TextRelayInfo) (usage : Option Usage) (accounts : Accounts) :
    Except Err Unit × RequestBilling × Accounts :=
  let summary := textQuotaSummary cfg tools info usage
  settleRequest calls faults info summary.totalTokens summary.quota accounts

/-- The price of a priced model is not handed on, so its quota is zero. -/
def audioQuota (cfg : TextSettings) (ratios : RatioSettings) (info : TextRelayInfo)
    (usage : Usage) : Int :=
  let tiered := tryTieredSettle cfg.engine info
    (buildTieredTokenParams usage false (info.usedVars cfg.engine))
  let quota := calculateAudioQuota ratios
    { inputDetails := ⟨usage.promptTokensDetails.textTokens, usage.promptTokensDetails.audioTokens⟩
      outputDetails :=
        ⟨usage.completionTokenDetails.textTokens, usage.completionTokenDetails.audioTokens⟩
      modelName := info.originModelName
      usePrice := info.priceData.usePrice
      modelRatio := info.priceData.modelRatio
      groupRatio := info.priceData.groupRatioInfo.groupRatio }
  if usage.totalTokens = 0 then 0
  else
    match tiered with
    | some (tieredQuota, _) => tieredQuota
    | none => quota

def postAudioConsumeQuota (cfg : TextSettings) (ratios : RatioSettings) (calls : SettleCalls)
    (faults : StatsFaults) (info : TextRelayInfo) (usage : Usage) (accounts : Accounts) :
    Except Err Unit × RequestBilling × Accounts :=
  settleRequest calls faults info usage.totalTokens (audioQuota cfg ratios info usage) accounts

inductive Ledger where
  | wallet (userId : Int)
  | subscription (id : Int)

def Ledger.debited (db : Database) : Ledger → Int
  | .wallet userId => -(db.users userId).quota
  | .subscription id => (usedOf db id).toInt

namespace RequestBilling

def ledger : RequestBilling → Ledger
  | .opened session =>
    match session.funding with
    | .wallet w => .wallet w.userId
    | .subscription s => .subscription s.subscriptionId
  | .unbilled relayInfo =>
    if relayInfo.billingSource = .subscription then .subscription relayInfo.subscriptionId
    else .wallet relayInfo.userId

def isOpen : RequestBilling → Bool
  | .opened session => !session.settled && !session.fundingSettled
  | .unbilled _ => true

end RequestBilling

def LedgerFollows (ledger : Ledger) (delta : Int) (db : Database) (called : Except Err Unit × Database) :
    Prop :=
  called.1 = .ok () ∧ ledger.debited called.2 = ledger.debited db + delta

section

variable {db : Database} {calls : SettleCalls} {delta : Int}

theorem debited_token (id : Int) (f : Token → Token) (ledger : Ledger) :
    ledger.debited (db.updateToken id f) = ledger.debited db := by
  cases ledger <;> rfl

theorem settleToken_debited (fault : Fault) (delta : Int) (ri : RelayInfo) (db : Database)
    (ledger : Ledger) : ledger.debited (settleToken fault delta ri db).2 = ledger.debited db := by
  simp only [settleToken]
  split
  · rfl
  split
  · exact updateQuota_elim (P := (ledger.debited · = _)) rfl (debited_token _ _ ledger)
  · exact updateQuota_elim (P := (ledger.debited · = _)) rfl (debited_token _ _ ledger)

theorem wallet_follows (id delta : Int) (db : Database) :
    LedgerFollows (.wallet id) delta db (if 0 < delta then decreaseUserQuota none id delta db
      else increaseUserQuota none id (-delta) db) := by
  -- either call takes the difference from the quota
  have hm (quota : Int) (hq : 0 ≤ quota) (f : User → User)
      (hf : ∀ user, (f user).quota = user.quota - delta) :
      LedgerFollows (.wallet id) delta db (updateQuota none quota (·.updateUser id f) db) := by
    obtain ⟨-, -, he⟩ | ⟨hn, -⟩ := updateQuota_cases none quota (·.updateUser id f) db
    · rw [he]
      refine ⟨rfl, ?_⟩
      simp only [Ledger.debited, Database.updateUser_users, Function.update_self, hf]
      omega
    · exact absurd ⟨rfl, hq⟩ hn
  split
  · exact hm _ (by omega) _ fun _ => rfl
  · exact hm _ (by omega) _ fun _ => Int.sub_eq_add_neg.symm

theorem settleRest_debited (fault : Fault) (delta : Int) (ses : BillingSession) (db : Database)
    (ledger : Ledger) : ledger.debited (settleRest fault delta ses db).db = ledger.debited db := by
  have ht := settleToken_debited fault delta ses.relayInfo db ledger
  simp only [settleRest]
  generalize settleToken fault delta ses.relayInfo db = called at ht ⊢
  obtain ⟨result, db'⟩ := called
  cases result with
  | error e => exact ht
  | ok _ => exact ht

variable {userId : Int} (hf : calls.funding.wallet = none)

include hf

theorem settle_debited {ses : BillingSession} {quota : Int}
    (ho : (RequestBilling.opened ses).isOpen = true)
    (hl : (RequestBilling.opened ses).ledger = .wallet userId) :
    (Ledger.wallet userId).debited (settle calls quota ses db).db =
      (Ledger.wallet userId).debited db + (quota - ses.preConsumedQuota) := by
  generalize hd : quota - ses.preConsumedQuota = delta
  simp only [RequestBilling.isOpen, Bool.and_eq_true, Bool.not_eq_true'] at ho
  simp only [settle, hd, ho.1, ho.2, Bool.false_eq_true, if_false]
  by_cases hz : delta = 0
  · simp [hz]
  rw [if_neg hz]
  cases hw : ses.funding with
  | subscription _ =>
    rw [RequestBilling.ledger, hw] at hl
    cases hl
  | wallet w =>
    rw [RequestBilling.ledger, hw] at hl
    cases hl
    simp only [FundingSource.settle, WalletFunding.settle, if_neg hz, hf]
    obtain ⟨hr, hc⟩ := wallet_follows w.userId delta db
    generalize (if 0 < delta then decreaseUserQuota none w.userId delta db
      else increaseUserQuota none w.userId (-delta) db) = called at hr hc ⊢
    obtain ⟨result, db'⟩ := called
    obtain rfl : result = .ok () := hr
    dsimp only
    rw [settleRest_debited]
    exact hc

theorem postConsumeQuota_debited {ri : RelayInfo}
    (hl : (RequestBilling.unbilled ri).ledger = .wallet userId) :
    (Ledger.wallet userId).debited (postConsumeQuota calls ri delta db).2.2 =
      (Ledger.wallet userId).debited db + delta := by
  rw [RequestBilling.ledger] at hl
  split at hl
  · cases hl
  rename_i hs
  cases hl
  obtain ⟨hr, hc⟩ := wallet_follows ri.userId delta db
  simp only [postConsumeQuota, postConsumeFunding, if_neg hs, hf]
  generalize (if 0 < delta then decreaseUserQuota none ri.userId delta db
    else increaseUserQuota none ri.userId (-delta) db) = called at hr hc ⊢
  obtain ⟨result, db'⟩ := called
  obtain rfl : result = .ok () := hr
  dsimp only
  rw [settleToken_debited]
  exact hc

theorem settleBilling_debited {bil : RequestBilling} {quota : Int} (ho : bil.isOpen = true)
    (hl : bil.ledger = .wallet userId) :
    (Ledger.wallet userId).debited (settleBilling calls bil quota db).2.2 =
      (Ledger.wallet userId).debited db + (quota - bil.preConsumed) := by
  cases bil with
  | opened session => exact settle_debited hf ho hl
  | unbilled relayInfo =>
    simp only [settleBilling, RequestBilling.preConsumed]
    split
    · exact postConsumeQuota_debited hf hl
    · rename_i hs
      simp [not_not.mp hs]

end

inductive FinishedRequest where
  | text (tools : ToolCalls) (usage : Option Usage)
  | audio (ratios : RatioSettings) (usage : Usage)

namespace FinishedRequest

def totalTokens (cfg : TextSettings) (info : TextRelayInfo) : FinishedRequest → Int
  | .text tools usage => (textQuotaSummary cfg tools info usage).totalTokens
  | .audio _ usage => usage.totalTokens

def quota (cfg : TextSettings) (info : TextRelayInfo) : FinishedRequest → Int
  | .text tools usage => (textQuotaSummary cfg tools info usage).quota
  | .audio ratios usage => audioQuota cfg ratios info usage

def settle (cfg : TextSettings) (calls : SettleCalls) (faults : StatsFaults)
    (info : TextRelayInfo) (accounts : Accounts) :
    FinishedRequest → Except Err Unit × RequestBilling × Accounts
  | .text tools usage => postTextConsumeQuota cfg tools calls faults info usage accounts
  | .audio ratios usage => postAudioConsumeQuota cfg ratios calls faults info usage accounts

theorem settle_eq (cfg : TextSettings) (calls : SettleCalls) (faults : StatsFaults)
    (info : TextRelayInfo) (accounts : Accounts) (req : FinishedRequest) :
    req.settle cfg calls faults info accounts =
      settleRequest calls faults info (req.totalTokens cfg info) (req.quota cfg info) accounts := by
  cases req <;> rfl

end FinishedRequest

def charged (info : TextRelayInfo) (before after : Accounts) : Int :=
  info.billing.preConsumed +
    (info.billing.ledger.debited after.db - info.billing.ledger.debited before.db)

def userAccounted (info : TextRelayInfo) (before after : Accounts) : Int :=
  after.stats.userUsedQuota info.billing.relayInfo.userId -
    before.stats.userUsedQuota info.billing.relayInfo.userId

def channelAccounted (info : TextRelayInfo) (before after : Accounts) : Int :=
  after.stats.channelUsedQuota info.channelId - before.stats.channelUsedQuota info.channelId

section

variable {calls : SettleCalls} (faults : StatsFaults) {info : TextRelayInfo} (totalTokens : Int)
  {quota : Int} {accounts : Accounts}

theorem charged_settleRequest {userId : Int} (ho : info.billing.isOpen = true)
    (hl : info.billing.ledger = .wallet userId) (hf : calls.funding.wallet = none) :
    charged info accounts (settleRequest calls faults info totalTokens quota accounts).2.2 =
      quota := by
  simp only [charged, settleRequest, hl, settleBilling_debited hf ho hl]
  omega

theorem accounted_settleRequest (hs : totalTokens ≠ 0 → faults.user = none ∧ faults.channel = none) :
    let after := (settleRequest calls faults info totalTokens quota accounts).2.2
    userAccounted info accounts after = (if totalTokens = 0 then 0 else quota) ∧
      channelAccounted info accounts after = if totalTokens = 0 then 0 else quota := by
  by_cases ht : totalTokens = 0
  · simp [userAccounted, channelAccounted, settleRequest, ht]
  · simp [userAccounted, channelAccounted, settleRequest, ht, updateChannelUsedQuota,
      updateUserUsedQuotaAndRequestCount, hs ht]

end

end DeepRouter.Relay
