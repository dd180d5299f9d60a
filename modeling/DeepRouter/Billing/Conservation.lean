import DeepRouter.Billing.Creation

/-! # Conservation of a billing session -/

namespace DeepRouter.Billing

open Store Atomic KeyedTable Subscription Runs MachineInt BillingSession

/-- Neither a reset nor a settlement cut off at zero happened since `start`. -/
def Quiet (start db : Database) : Prop := db.resets = start.resets ∧ db.clamps = start.clamps

structure Debited (start db : Database) (d : Debits) : Prop where
  clamps_le : start.clamps ≤ db.clamps
  exact : Quiet start db → debits db = debits start + d

section

variable {start db db' : Database} {d e : Debits}

theorem Debited.moved (h : Debited start db d) (hm : Moved db db' e) :
    Debited start db' (d + e) := by
  refine ⟨h.clamps_le.trans hm.clamps_le, ?_⟩
  rintro ⟨hr, hc⟩
  have hf : db.clamps = start.clamps := le_antisymm (hm.clamps_le.trans hc.le) h.clamps_le
  rw [hm.exact (hc.trans hf.symm), h.exact ⟨hm.resets.symm.trans hr, hf⟩, add_assoc]

theorem Debited.saveRecord (h : Debited start db d) (rec : SubscriptionPreConsumeRecord) :
    Debited start (db.saveRecord rec) d := ⟨h.clamps_le, h.exact⟩

end

structure Holding (start : Database) (s : BillingSession) (db : Database) : Prop where
  settled : s.settled = false
  refunded : s.refunded = false
  fundingSettled : s.fundingSettled = false
  nonneg : 0 ≤ s.preConsumedQuota
  token : s.tokenConsumed = s.preConsumedQuota
  backed : Backed s db
  debited : Debited start db (sessionDebit s s.preConsumedQuota)

theorem Opened.holding {start db : Database} {s : BillingSession} (h : Opened start s db) :
    Holding start s db := by
  refine ⟨h.settled, h.refunded, h.fundingSettled, h.nonneg, h.token, h.backed, h.clamps.ge, ?_⟩
  rintro ⟨hr, _⟩
  rw [h.debits, carried_of_resets hr]

theorem Backed.of_records {s : BillingSession} {db db' : Database}
    (hr : db'.records = db.records) (h : Backed s db) : Backed s db' := by
  unfold Backed at h ⊢
  rw [hr]
  exact h

theorem Backed.reserved {s : BillingSession} {db : Database} {delta : Int} (hd : 0 ≤ delta)
    (h : Backed s db) : Backed (reserved delta s) db := by
  obtain ⟨relayInfo, funding, _⟩ := s
  cases funding with
  | wallet w =>
    change w.consumed = _ at h
    change w.consumed + delta = _ + delta
    rw [h]
  | subscription f =>
    obtain ⟨hp, he, hq, _, hr⟩ := h
    refine ⟨hp, ?_, ?_, rfl, hr⟩
    · change 0 ≤ _ + delta
      dsimp only at he ⊢
      omega
    · change _ + delta = _ + (_ + delta)
      dsimp only at hq ⊢
      omega

section

variable {start db db' : Database} {s s' : BillingSession}

theorem Holding.reserve {ctx : Context} {calls : ReserveCalls} {target : Int}
    {r : Except NewAPIError Unit} (h : Holding start s db)
    (hc : BillingSession.reserve ctx calls target s db = ⟨r, s', db', []⟩) :
    Holding start s' db' ∧ sessionDebit s' = sessionDebit s := by
  rcases reserve_spec hc with ⟨rfl, hm⟩ | ⟨_, ht, rfl, hm⟩
  · have hd := h.debited.moved hm
    rw [add_zero] at hd
    exact ⟨{ h with backed := h.backed.of_records hm.records, debited := hd }, rfl⟩
  have hd := h.debited.moved hm
  rw [← map_add] at hd
  have hto := h.token
  have hn := h.nonneg
  refine ⟨⟨?_, ?_, ?_, ?_, ?_, ?_, ?_⟩, sessionDebit_reserved _ s⟩
  · simpa [reserved] using h.settled
  · simpa [reserved] using h.refunded
  · simpa [reserved] using h.fundingSettled
  · simp only [reserved, syncRelayInfo_preConsumedQuota]
    omega
  · simp only [reserved, syncRelayInfo_preConsumedQuota, syncRelayInfo_tokenConsumed]
    omega
  · exact (h.backed.of_records hm.records).reserved (by omega)
  · rw [sessionDebit_reserved]
    simpa only [reserved, syncRelayInfo_preConsumedQuota] using hd

theorem Holding.settle {calls : SettleCalls} {actual : Int} {logs : List String}
    (h : Holding start s db)
    (hc : BillingSession.settle calls actual s db = ⟨.ok (), s', db', logs⟩) :
    Debited start db' (sessionDebit s actual) := by
  have hd := h.debited.moved (settle_ok_moved hc h.settled h.fundingSettled)
  rw [← map_add] at hd
  rw [show actual = s.preConsumedQuota + (actual - s.preConsumedQuota) by omega]
  exact hd

end

section

variable {calls : RefundCalls} {start db db' : Database} {s s' : BillingSession} {d : Debits}

theorem wallet_returned {w : WalletFunding} {fault : Fault} {rf : Database} {quota : Int}
    (hq : 0 ≤ quota) (hc : w.consumed = quota)
    (hd : Debited start db (userDebit w.userId quota + d))
    (hf : w.refund fault db = (.ok (), rf)) : Debited start rf d := by
  have hr := hd.moved (walletRefund_ok (by omega) hf)
  rw [hc, map_neg, add_neg_cancel_comm] at hr
  exact hr

theorem subscription_returned {f : SubscriptionFunding} {atts : Nat → Env × RefundFaults}
    {rec : SubscriptionPreConsumeRecord} {extra : PostFaults} {reserved : Int}
    {rf rel : Database} (hc : ∀ i, (atts i).2 = {}) (hp : 0 < f.preConsumed)
    (hres : 0 ≤ reserved) (hf : db.records.find? f.requestId = some rec)
    (hs : rec.status = .consumed) (ha : rec.preConsumed = f.preConsumed)
    (hro : rec.userSubscriptionId = f.subscriptionId)
    (hd : Debited start db (usedDebit f.subscriptionId (f.preConsumed + toInt64 reserved) + d))
    (hfu : f.refund atts db = (.ok (), rf)) (he : if 0 < reserved ∧ 0 < f.subscriptionId
      then postConsumeUserSubscriptionDelta extra f.subscriptionId (-.ofInt reserved) rf =
        (.ok (), rel)
      else rel = rf) : Debited start rel d := by
  obtain ⟨mid, env, hpo, rfl⟩ := subscriptionRefund_ok hc hp hf hs ha hfu
  rw [hro] at hpo
  have hi := (post_ok hpo).1
  have hre : Moved (mid.saveRecord (refundedRecord env rec)) rel
      (usedDebit f.subscriptionId (-toInt64 reserved)) := by
    split at he
    · exact post_moved he
    rename_i hn
    have hz : reserved = 0 := by omega
    subst he
    rw [hz, map_zero, neg_zero, map_zero]
    exact .refl _
  have hr := ((hd.moved (post_moved hpo)).saveRecord (refundedRecord env rec)).moved hre
  rw [map_add, map_neg, map_neg] at hr
  convert hr using 1
  abel

theorem Holding.fundingRefund {rf rel : Database} (h : Holding start s db)
    (hc : ∀ i, (calls.attempts i).2 = {})
    (hfu : s.funding.refund calls.wallet calls.attempts db = (.ok (), rf))
    (he : if 0 < s.extraReserved ∧ s.funding.source = .subscription ∧
        0 < s.relayInfo.subscriptionId
      then postConsumeUserSubscriptionDelta calls.extra s.relayInfo.subscriptionId
        (-.ofInt s.extraReserved) rf = (.ok (), rel)
      else rel = rf) :
    Debited start rel (requestTokenDebit s.relayInfo s.preConsumedQuota) := by
  obtain ⟨_, _, _, hn, _, hb, hd⟩ := h
  unfold Backed at hb
  rw [sessionDebit, AddMonoidHom.add_apply] at hd
  cases hs : s.funding with
  | wallet w =>
    simp only [hs] at hb hfu he hd
    rw [if_neg (by simp [FundingSource.source])] at he
    subst he
    exact wallet_returned hn hb hd hfu
  | subscription f =>
    simp only [hs] at hb hfu he hd
    obtain ⟨hp, hr, hq, hsu, record, hf, hSt, ha, hro⟩ := hb
    have hsh : toInt64 s.preConsumedQuota = f.preConsumed + toInt64 s.extraReserved := by
      rw [hq, map_add, toInt64_toInt]
    rw [fundingDebit, AddMonoidHom.comp_apply, hsh] at hd
    simp only [FundingSource.source, true_and, hsu] at he
    exact subscription_returned hc hp hr hf hSt ha hro hd hfu he

theorem Holding.refund {r : Except Err Unit} (h : Holding start s db)
    (hcl : ∀ i, (calls.attempts i).2 = {})
    (hc : BillingSession.refund calls s db = ⟨r, s', db', []⟩) : Debited start db' 0 := by
  have ht := h.token
  have hNn := h.nonneg
  unfold BillingSession.refund at hc
  split at hc
  · rename_i hn
    cases hc
    have hz : s.preConsumedQuota = 0 := by
      simp only [h.settled, h.refunded, needsRefundLocked, h.fundingSettled] at hn
      by_contra hNe
      have hp : 0 < s.tokenConsumed := by omega
      simp [hp] at hn
    have hd := h.debited
    rw [hz, map_zero] at hd
    exact hd
  · cases ha : refundAll calls s db with
    | mk after logs =>
      rw [ha] at hc
      cases hc
      obtain ⟨refunded, released, hf, he, hb⟩ := refundAll_ok ha
      have hre := h.fundingRefund hcl hf he
      have hm : Moved released db' (requestTokenDebit s.relayInfo (-s.preConsumedQuota)) := by
        rw [← ht]
        exact tokenRefund_moved (by omega) hb
      have hr := hre.moved hm
      rw [map_neg, add_neg_cancel] at hr
      exact hr

end

def reserveStep (ctx : Context) (state : BillingSession × Database) (op : ReserveCalls × Int) :
    BillingSession × Database :=
  ((reserve ctx op.1 op.2 state.1 state.2).session, (reserve ctx op.1 op.2 state.1 state.2).db)

def ReserveUndone (ctx : Context) (state : BillingSession × Database) (op : ReserveCalls × Int) :
    Prop :=
  (reserve ctx op.1 op.2 state.1 state.2).logs = []

theorem reserveStep_holding {ctx : Context} {start : Database} {debit : Int →+ Debits}
    (state : BillingSession × Database) (op : ReserveCalls × Int)
    (h : Holding start state.1 state.2 ∧ sessionDebit state.1 = debit)
    (hu : ReserveUndone ctx state op) :
    Holding start (reserveStep ctx state op).1 (reserveStep ctx state op).2 ∧
      sessionDebit (reserveStep ctx state op).1 = debit := by
  obtain ⟨hh, hd⟩ := h.1.reserve (reply_silent hu)
  exact ⟨hh, hd.trans h.2⟩

/-- An open session has debited its two ledgers by the amount that it holds; a settlement makes that
the actual amount, a refund nothing. -/
theorem session_conservation (ctx : Context) (calls : NewSessionCalls)
    (relayInfo : Option RelayInfo) (quota : Int) (db : Database) (s : BillingSession)
    (hQuota : 0 ≤ quota) (hNew : (newBillingSession ctx calls relayInfo quota db).result = .ok s)
    (hLogs : (newBillingSession ctx calls relayInfo quota db).logs = [])
    (hFresh : s.funding.source = .subscription → db.records.find? s.relayInfo.requestId = none)
    (reserves : List (ReserveCalls × Int)) (hReserves : Along (reserveStep ctx) (ReserveUndone ctx)
      (s, (newBillingSession ctx calls relayInfo quota db).db) reserves)
    (s' : BillingSession) (db' : Database)
    (hRun : run (reserveStep ctx) (s, (newBillingSession ctx calls relayInfo quota db).db) reserves =
      (s', db')) :
    (Quiet db db' → Charged (debits db) db' s s'.preConsumedQuota) ∧
    (∀ settleCalls actual, (settle settleCalls actual s' db').result = .ok () →
      Quiet db (settle settleCalls actual s' db').db →
      Charged (debits db) (settle settleCalls actual s' db').db s actual) ∧
    ∀ refundCalls : RefundCalls, (∀ i, (refundCalls.attempts i).2 = {}) →
      (refund refundCalls s' db').logs = [] → Quiet db (refund refundCalls s' db').db →
      debits (refund refundCalls s' db').db = debits db := by
  have ho := (newBillingSession_creates ctx calls hQuota db relayInfo).opened s hNew hLogs hFresh
  have he := run_invariant (I := fun state => Holding db state.1 state.2 ∧
    sessionDebit state.1 = sessionDebit s) reserveStep_holding ⟨ho.holding, rfl⟩ reserves hReserves
  rw [hRun] at he
  obtain ⟨hh, hd⟩ := he
  refine ⟨?_, ?_, ?_⟩
  · intro hq
    apply charged_of_debits
    rw [← hd]
    exact hh.debited.exact hq
  · intro settleCalls actual hOk hq
    apply charged_of_debits
    rw [← hd]
    exact (hh.settle (reply_ok hOk)).exact hq
  · intro refundCalls hc hn hq
    rw [(hh.refund hc (reply_silent hn)).exact hq, add_zero]

def plainRefund : RefundCalls where
  attempts _ := (unlimitedEnv 3000, {})

def reserveMore : ReserveCalls × Int := ({ token := { read := .ok 0 } }, 150)

theorem session_conservation_reserved_then_settled :
    let db := run storeStep .initial [buyUnlimited]
    let reply := newBillingSession plainContext plainCalls (some (requestInfo "a")) 100 db
    let state := run (reserveStep plainContext) (freshSession, reply.db) [reserveMore]
    state.1.preConsumedQuota = 150 ∧
      (usedOf (settle {} 120 state.1 state.2).db 1).toInt = (usedOf db 1).toInt + 120 := by
  intro db reply state
  have hn : reply.result = .ok freshSession := by decide
  have hl : reply.logs = [] := by decide
  have hr : ReserveUndone plainContext (freshSession, reply.db) reserveMore := by
    change (reserve plainContext reserveMore.1 150 freshSession reply.db).logs = []
    decide
  have hs : (settle {} 120 state.1 state.2).result = .ok () := by decide
  have hc : (settle {} 120 state.1 state.2).db.clamps = db.clamps := by decide
  have ha := session_conservation plainContext plainCalls (some (requestInfo "a")) 100 db
    freshSession (by decide) hn hl (fun _ => by decide) [reserveMore] ⟨hr, trivial⟩
    state.1 state.2 rfl
  exact ⟨by decide, (ha.2.1 {} 120 hs ⟨rfl, hc⟩).used 1 (by decide)⟩

theorem session_conservation_replayed_request :
    let db := run storeStep .initial [buyUnlimited, charge "a" 100]
    let reply := newBillingSession plainContext plainCalls (some (requestInfo "a")) 100 db
    let final := fun s => (refund plainRefund s reply.db).db
    reply.logs = [] ∧
      reply.result.map (fun s => (s.preConsumedQuota, usedOf reply.db 1)) =
        .ok (100, usedOf db 1) ∧
      reply.result.map (fun s => (refund plainRefund s reply.db).logs) = .ok [] ∧
      reply.result.map (fun s => ((final s).resets 1, (final s).clamps)) =
        .ok (db.resets 1, db.clamps) ∧
      reply.result.map (fun s => usedOf (final s) 1) = .ok (usedOf db 1 - 100) := by
  decide

end DeepRouter.Billing
