import DeepRouter.Billing.SessionSpec
import DeepRouter.Subscription.QuotaBounds

/-! # Session creation -/

namespace DeepRouter.Billing

open Store Atomic KeyedTable Subscription Runs MachineInt BillingSession

section

variable {ctx : Context} {calls : PreConsumeCalls} {quota : Int} {s s' : BillingSession}
  {db mid db' : Database} {logs : List String}

theorem preConsumeFunding_error {e : NewAPIError}
    (ht : (s.relayInfo.isPlayground = true ∧ mid = db) ∨ (s.tokenConsumed = 0 ∧ mid = db) ∨ ∃
      take, s.relayInfo.isPlayground = false ∧ 0 < s.tokenConsumed ∧ decreaseTokenQuota take
      s.relayInfo.tokenId s.tokenConsumed db = (.ok (), mid))
    (h : preConsumeFunding ctx calls quota s mid = ⟨.error e, db', []⟩) : db' = db := by
  unfold preConsumeFunding at h
  split at h
  · rename_i err after hf
    rw [fundingPreConsume_error hf] at h
    unfold rollbackToken at h
    rcases ht with ⟨hp, rfl⟩ | ⟨hn, rfl⟩ | ⟨take, hp, hs, hta⟩
    · rw [if_neg (by simp [hp])] at h
      cases h
      rfl
    · rw [if_neg (by omega)] at h
      cases h
      rfl
    rw [if_pos ⟨hs, by simp [hp]⟩] at h
    cases hb : increaseTokenQuota calls.rollback s.relayInfo.tokenId s.tokenConsumed mid with
    | mk r restored =>
      rw [hb] at h
      cases r with
      | error fault => cases h
      | ok u =>
        cases h
        exact token_restored hta hb
  · cases h

theorem sessionPreConsume_error {e : NewAPIError} (hn : s.tokenConsumed = 0)
    (h : preConsume ctx calls quota s db = ⟨.error e, db', []⟩) : db' = db := by
  unfold preConsume at h
  dsimp only at h
  revert h
  generalize (if shouldTrust ctx s = true then 0 else quota) = effectiveQuota
  intro h
  split at h
  · rename_i hs
    split at h
    · rename_i hto
      cases h
      exact preConsumeTokenQuota_error hto
    rename_i hto
    refine preConsumeFunding_error ?_ h
    rcases preConsumeTokenQuota_cases hto with hf | ⟨hp, ht⟩
    · exact .inl hf
    · exact .inr (.inr ⟨_, hp, hs, ht⟩)
  · refine preConsumeFunding_error ?_ h
    exact .inr (.inl ⟨hn, rfl⟩)

theorem preConsumeFunding_ok (h : preConsumeFunding ctx calls quota s mid = ⟨.ok s', db', logs⟩) :
    ∃ funding, s.funding.preConsume ctx.env calls.wallet calls.subscription quota mid =
        (.ok funding, db') ∧ s' = syncRelayInfo { s with funding, preConsumedQuota := quota } := by
  unfold preConsumeFunding at h
  split at h
  · cases h
  · rename_i funding after hc
    cases h
    exact ⟨funding, hc, rfl⟩

theorem sessionPreConsume_ok (hne : s.tokenConsumed = 0) (hQuota : 0 ≤ quota)
    (h : preConsume ctx calls quota s db = ⟨.ok s', db', logs⟩) :
    ∃ eff mid funding, 0 ≤ eff ∧
      (s.funding.source = .subscription → eff = quota) ∧
      Shifted db mid (requestTokenDebit s.relayInfo eff) ∧
      s.funding.preConsume ctx.env calls.wallet calls.subscription eff mid =
        (.ok funding, db') ∧
      s' = syncRelayInfo { s with
        trusted := s.trusted || s.shouldTrust ctx, tokenConsumed := eff, funding,
        preConsumedQuota := eff } := by
  have hsr : s.funding.source = .subscription →
      (if shouldTrust ctx s = true then 0 else quota) = quota := by
    intro hs
    have hn : shouldTrust ctx s = false := by
      unfold shouldTrust
      rw [hs]
      simp
    rw [hn]
    rfl
  have hNn : 0 ≤ if shouldTrust ctx s = true then 0 else quota := by
    split <;> omega
  unfold preConsume at h
  dsimp only at h
  revert h hsr hNn
  generalize (if shouldTrust ctx s = true then 0 else quota) = eff
  intro h hsr hNn
  split at h
  · split at h
    · cases h
    · rename_i mid ht
      obtain ⟨funding, hc, rfl⟩ := preConsumeFunding_ok h
      exact ⟨eff, mid, funding, hNn, hsr, preConsumeTokenQuota_ok ht, hc, rfl⟩
  · have hz : eff = 0 := by omega
    subst hz
    obtain ⟨funding, hc, rfl⟩ := preConsumeFunding_ok h
    refine ⟨0, db, funding, hNn, hsr, ?_, hc, ?_⟩
    · rw [map_zero]
      exact .refl db
    · rw [hne]

end

def carried (db db' : Database) : Debits :=
  ((debits db).1, (debits db).2.1,
    fun id => if db'.resets id = db.resets id then usedOf db id else 0)

variable {db db' : Database}

theorem carried_of_resets (h : db'.resets = db.resets) : carried db db' = debits db := by
  simp [carried, debits, h]

variable {requestId : String} {amount : Int64} {result : SubscriptionPreConsumeResult}

theorem charges_debits {env : Env} {uid : Int} {cs : List UserSubscription}
    (h : Charges env requestId uid amount cs db result db') :
    debits db' = carried db db' + usedDebit result.userSubscriptionId amount := by
  obtain ⟨hu, ht⟩ := Charges.accounts h
  refine Prod.ext ?_ (Prod.ext ?_ ?_)
  · simp [debits, carried, usedDebit, hu]
  · simp [debits, carried, usedDebit, ht]
  funext k
  refine (Charges.usedOf h k).trans ?_
  change _ = _ + (Pi.single _ amount : Int → Int64) k
  rw [Pi.single_apply]
  rfl

theorem carried_shifted {db mid db' : Database} {d : Debits} (h : Shifted db mid d) :
    carried mid db' = carried db db' + d := by
  have hu : usedOf mid = usedOf db := by
    funext k
    rw [usedOf, usedOf, h.subs]
  have hn : d.2.2 = 0 := by
    have ht := congrArg (fun e : Debits => e.2.2) h.debits
    change usedOf mid = usedOf db + d.2.2 at ht
    rw [hu] at ht
    exact (left_eq_add.mp ht)
  refine Prod.ext ?_ (Prod.ext ?_ ?_)
  · have hf := congrArg (fun e : Debits => e.1) h.debits
    exact hf
  · have hs := congrArg (fun e : Debits => e.2.1) h.debits
    exact hs
  · change _ = _ + d.2.2
    rw [hn, add_zero]
    simp [carried, h.resets, hu]

def Backed (s : BillingSession) (db : Database) : Prop :=
  match s.funding with
  | .wallet w => w.consumed = s.preConsumedQuota
  | .subscription f =>
    0 < f.preConsumed ∧ 0 ≤ s.extraReserved ∧
    s.preConsumedQuota = f.preConsumed.toInt + s.extraReserved ∧
    s.relayInfo.subscriptionId = f.subscriptionId ∧
    ∃ record, db.records.find? f.requestId = some record ∧ record.status = .consumed ∧
      record.preConsumed = f.preConsumed ∧ record.userSubscriptionId = f.subscriptionId

def Owned (s : BillingSession) (db : Database) : Prop :=
  match s.funding with
  | .wallet w => w.userId = s.relayInfo.userId
  | .subscription f => ∃ sub ∈ db.subs.rows, sub.id = f.subscriptionId ∧
      sub.userId = s.relayInfo.userId

structure Opened (db : Database) (s : BillingSession) (db' : Database) : Prop where
  settled : s.settled = false
  refunded : s.refunded = false
  fundingSettled : s.fundingSettled = false
  nonneg : 0 ≤ s.preConsumedQuota
  token : s.tokenConsumed = s.preConsumedQuota
  backed : Backed s db'
  owned : Owned s db
  clamps : db'.clamps = db.clamps
  debits : debits db' = carried db db' + sessionDebit s s.preConsumedQuota
  billingSource : s.relayInfo.billingSource = s.funding.source
  finalPreConsumedQuota : s.relayInfo.finalPreConsumedQuota = s.preConsumedQuota

variable {relayInfo : RelayInfo} {s : BillingSession} {logs : List String}

theorem wallet_opened {ctx : Context} {calls : PreConsumeCalls} {quota : Int} (hQuota : 0 ≤ quota)
    (h : preConsume ctx calls quota
      { relayInfo, funding := .wallet { userId := relayInfo.userId } } db = ⟨.ok s, db', logs⟩) :
    Opened db s db' := by
  obtain ⟨amount, mid, funding, hn, _, ht, hf, rfl⟩ := sessionPreConsume_ok rfl hQuota h
  rw [FundingSource.preConsume] at hf
  split at hf
  · cases hf
  rename_i w after hc
  cases hf
  obtain ⟨rfl, hu⟩ := walletPreConsume_ok rfl hn hc
  have hs := ht.trans hu
  refine ⟨by simp, by simp, by simp, by simpa using hn, by simp, ?_, ?_, hs.clamps, ?_, ?_, ?_⟩
  · simp [Backed]
  · rfl
  · rw [carried_of_resets hs.resets, hs.debits, add_comm (requestTokenDebit _ _)]
    simp [sessionDebit, fundingDebit]
  · exact (syncRelayInfo_billed _).1
  · exact (syncRelayInfo_billed _).2

theorem subConsume_pos (quota : Int) : 0 < subConsume quota := by
  unfold subConsume
  split
  · decide
  · rename_i h
    exact Int64.not_le.mp h

theorem charges_record {env : Env} {uid : Int} {cs : List UserSubscription}
    (h : Charges env requestId uid amount cs db result db') :
    result.preConsumed = amount ∧ ∃ record, db'.records.find? requestId = some record ∧
      record.status = .consumed ∧ record.preConsumed = amount ∧
      record.userSubscriptionId = result.userSubscriptionId := by
  obtain ⟨record, hi, hk, hs, ha, hr, hSt⟩ := Charges.records h
  refine ⟨hr, record, ?_, hSt, ha, hs⟩
  rw [← hk]
  exact Table.find?_insert?_self hi

theorem charges_owner {env : Env} {userId now : Int}
    (h : Charges env requestId userId amount (activeSubscriptions now userId db) db result db') :
    ∃ sub ∈ db.subs.rows, sub.id = result.userSubscriptionId ∧ sub.userId = userId := by
  obtain ⟨mid, candidate, sub, records, _, _, hc, hr, _, _, _, rfl, _⟩ := h
  obtain ⟨hm, hu, _⟩ := mem_activeSubscriptions.mp hc
  obtain ⟨_, _, _, _, rfl⟩ := hr
  exact ⟨candidate, hm, rfl, hu⟩

theorem subscription_opened {ctx : Context} {calls : NewSessionCalls} {quota : Int}
    (hfr : s.funding.source = .subscription → db.records.find? s.relayInfo.requestId = none)
    (h : trySubscription ctx calls quota relayInfo db = ⟨.ok s, db', logs⟩) : Opened db s db' := by
  have hpo := subConsume_pos quota
  have ht := MachineInt.pos_iff.mp hpo
  unfold trySubscription at h
  obtain ⟨amount, mid, funding, hn, ha, hto, hfu, rfl⟩ := sessionPreConsume_ok rfl ht.le h
  obtain rfl := ha rfl
  rw [FundingSource.preConsume] at hfu
  split at hfu
  · cases hfu
  rename_i f after hca
  cases hfu
  obtain ⟨result, hca, hr, hsu, hp⟩ := subscriptionPreConsume_ok hca
  obtain ⟨_, ⟨existing, _, hfn, _⟩ | ⟨_, hc⟩⟩ := preConsume_ok hca
  · rw [hto.records] at hfn
    cases hfn.symm.trans (hfr rfl)
  obtain ⟨hre, record, hf, hs, hta, hi⟩ := charges_record hc
  rw [hre] at hp
  refine ⟨by simp, by simp, by simp, by simpa using hn, by simp, ?_, ?_, ?_, ?_, ?_, ?_⟩
  · simp only [Backed, syncRelayInfo_funding]
    refine ⟨hp ▸ hpo, by simp, by simp [hp], rfl, record, ?_, hs, ?_, ?_⟩
    · rw [hr]
      exact hf
    · rw [hp, hta]
    · rw [hsu, hi]
  · simp only [Owned, syncRelayInfo_funding]
    rw [hsu, ← hto.subs]
    exact charges_owner hc
  · exact (Charges.clamps hc).trans hto.clamps
  · rw [charges_debits hc, carried_shifted hto]
    simp only [sessionDebit, syncRelayInfo_funding, fundingDebit, hsu, requestTokenDebit_sync,
      syncRelayInfo_preConsumedQuota, AddMonoidHom.add_apply, AddMonoidHom.comp_apply,
      toInt64_toInt]
    abel
  · exact (syncRelayInfo_billed _).1
  · exact (syncRelayInfo_billed _).2

structure Creates (db : Database) (reply : NewReply) : Prop where
  failed : ∀ e, reply.result = .error e → reply.logs = [] → reply.db = db
  opened : ∀ s, reply.result = .ok s → reply.logs = [] →
    (s.funding.source = .subscription → db.records.find? s.relayInfo.requestId = none) →
    Opened db s reply.db

theorem creates_error (e : NewAPIError) (db : Database) : Creates db ⟨.error e, db, []⟩ :=
  ⟨fun _ _ _ => rfl, fun _ h => nomatch h⟩

section

variable (ctx : Context) (calls : NewSessionCalls) {quota : Int} (hQuota : 0 ≤ quota)
  (relayInfo : RelayInfo) (db : Database)

include hQuota in
theorem tryWallet_creates : Creates db (tryWallet ctx calls quota relayInfo db).1 := by
  unfold tryWallet
  split
  · exact creates_error _ db
  split
  · exact creates_error _ db
  split
  · exact creates_error _ db
  rename_i userQuota _ _ _
  dsimp only
  cases hc : preConsume ctx calls.wallet quota
      { relayInfo := { relayInfo with userQuota },
        funding := .wallet { userId := relayInfo.userId } } db with
  | mk r db' logs =>
    refine ⟨?_, ?_⟩
    · rintro e rfl rfl
      exact sessionPreConsume_error rfl hc
    · rintro s rfl rfl _
      exact wallet_opened hQuota hc

theorem trySubscription_creates : Creates db (trySubscription ctx calls quota relayInfo db) := by
  cases hc : trySubscription ctx calls quota relayInfo db with
  | mk r db' logs =>
    refine ⟨?_, ?_⟩
    · rintro e rfl rfl
      exact sessionPreConsume_error rfl hc
    · rintro s rfl rfl hf
      exact subscription_opened hf hc

theorem orElse_creates {first : NewReply} {second : Database → NewReply} (hfs : Creates db first)
    (hs : Creates db (second db)) : Creates db (orElse first second) := by
  obtain ⟨r, db', logs⟩ := first
  unfold orElse
  cases r with
  | ok s => exact hfs
  | error e =>
    dsimp only
    split
    · have hu (hl : logs ++ (second db').logs = []) : db' = db :=
        hfs.failed e rfl (List.append_eq_nil_iff.mp hl).1
      refine ⟨?_, ?_⟩
      · intro e' hr hl
        obtain rfl := hu hl
        exact hs.failed e' hr (List.append_eq_nil_iff.mp hl).2
      · intro s hr hl hf
        obtain rfl := hu hl
        exact hs.opened s hr (List.append_eq_nil_iff.mp hl).2 hf
    · exact hfs

include hQuota in
theorem newBillingSession_creates (relayInfo : Option RelayInfo) :
    Creates db (newBillingSession ctx calls relayInfo quota db) := by
  cases relayInfo with
  | none => exact creates_error _ db
  | some relayInfo =>
    have hw := tryWallet_creates ctx calls hQuota relayInfo db
    have hs (relayInfo : RelayInfo) : Creates db (trySubscription ctx calls quota relayInfo db) :=
      trySubscription_creates ctx calls relayInfo db
    rw [newBillingSession]
    cases normalizeBillingPreference relayInfo.billingPreference with
    | subscriptionOnly => exact hs relayInfo
    | walletOnly => exact hw
    | walletFirst => exact orElse_creates db hw (hs _)
    | subscriptionFirst =>
      dsimp only
      split
      · exact creates_error _ db
      · exact hw
      · exact orElse_creates db (hs relayInfo) hw

end

/-- A failed creation leaves the store as it was; a session has debited its two ledgers by its
amount and nothing else. -/
theorem session_creation_all_or_nothing (ctx : Context) (calls : NewSessionCalls)
    (relayInfo : Option RelayInfo) (quota : Int) (db : Database) (hQuota : 0 ≤ quota)
    (hLogs : (newBillingSession ctx calls relayInfo quota db).logs = []) :
    (∀ e, (newBillingSession ctx calls relayInfo quota db).result = .error e →
      (newBillingSession ctx calls relayInfo quota db).db = db) ∧
    ∀ s, (newBillingSession ctx calls relayInfo quota db).result = .ok s →
      (s.funding.source = .subscription → db.records.find? s.relayInfo.requestId = none) →
      Owned s db ∧
        Charged (carried db (newBillingSession ctx calls relayInfo quota db).db)
          (newBillingSession ctx calls relayInfo quota db).db s s.preConsumedQuota ∧
        s.relayInfo.billingSource = s.funding.source ∧
        s.relayInfo.finalPreConsumedQuota = s.preConsumedQuota := by
  have hc := newBillingSession_creates ctx calls hQuota db relayInfo
  refine ⟨fun e he => hc.failed e he hLogs, ?_⟩
  intro s hr hf
  have ho := hc.opened s hr hLogs hf
  exact ⟨ho.owned, charged_of_debits ho.debits, ho.billingSource, ho.finalPreConsumedQuota⟩

def plainContext : Context := ⟨unlimitedEnv 2000, 0, 0, toString⟩

def requestInfo (requestId : String) : RelayInfo where
  userId := 7
  tokenId := 3
  isPlayground := false
  tokenUnlimited := true
  forcePreConsume := false
  requestId := requestId
  billingPreference := "subscription_first"

def plainCalls : NewSessionCalls where
  userQuota := .ok 500
  wallet := { token := { read := .ok 0 } }
  subscription := { token := { read := .ok 0 } }

def freshSession : BillingSession where
  relayInfo := { requestInfo "a" with
    finalPreConsumedQuota := 100
    billingSource := .subscription
    subscriptionId := 1
    subscriptionPreConsumed := 100
    subscriptionAmountUsedAfterPreConsume := 100
    subscriptionPlanId := 1
    subscriptionPlanTitle := "unlimited" }
  funding := .subscription
    { requestId := "a", userId := 7, amount := 100, subscriptionId := 1, preConsumed := 100
      amountUsedAfter := 100, planId := 1, planTitle := "unlimited" }
  preConsumedQuota := 100
  tokenConsumed := 100

theorem session_creation_fresh_request :
    let db := run storeStep .initial [buyUnlimited]
    let reply := newBillingSession plainContext plainCalls (some (requestInfo "a")) 100 db
    reply.result = .ok freshSession ∧
      (usedOf reply.db 1).toInt = (usedOf db 1).toInt + 100 := by
  have hr : (newBillingSession plainContext plainCalls (some (requestInfo "a")) 100
      (run storeStep .initial [buyUnlimited])).result = .ok freshSession := by decide
  have ha := session_creation_all_or_nothing plainContext plainCalls (some (requestInfo "a")) 100
    (run storeStep .initial [buyUnlimited]) (by decide) (by decide)
  exact ⟨hr, (ha.2 freshSession hr (fun _ => by decide)).2.1.used 1 (by decide)⟩

theorem session_creation_replayed_request :
    let db := run storeStep .initial [buyUnlimited, charge "a" 100]
    let reply := newBillingSession plainContext plainCalls (some (requestInfo "a")) 100 db
    reply.logs = [] ∧
      reply.result.map (fun s => (s.relayInfo.billingSource, s.preConsumedQuota)) =
        .ok (.subscription, 100) ∧
      (reply.db.users 7).quota = (db.users 7).quota ∧ reply.db.subs.rows = db.subs.rows := by
  decide

end DeepRouter.Billing
