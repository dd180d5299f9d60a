import DeepRouter.Billing.FundingSpec

/-! # What each call of a session does -/

namespace DeepRouter.Billing

open Store Atomic KeyedTable Subscription Runs BillingSession

theorem reply_ok {ε : Type} {reply : Reply ε} (h : reply.result = .ok ()) :
    reply = ⟨.ok (), reply.session, reply.db, reply.logs⟩ := by
  rw [← h]

theorem reply_silent {ε : Type} {reply : Reply ε} (h : reply.logs = []) :
    reply = ⟨reply.result, reply.session, reply.db, []⟩ := by
  rw [← h]

section

variable (s : BillingSession)

@[simp] theorem requestTokenDebit_sync :
    requestTokenDebit s.syncRelayInfo.relayInfo = requestTokenDebit s.relayInfo := by
  unfold syncRelayInfo
  cases s.funding <;> rfl

@[simp] theorem syncRelayInfo_funding : s.syncRelayInfo.funding = s.funding := by
  unfold syncRelayInfo
  cases s.funding <;> rfl

@[simp] theorem syncRelayInfo_preConsumedQuota :
    s.syncRelayInfo.preConsumedQuota = s.preConsumedQuota := by
  unfold syncRelayInfo
  cases s.funding <;> rfl

@[simp] theorem syncRelayInfo_tokenConsumed : s.syncRelayInfo.tokenConsumed = s.tokenConsumed := by
  unfold syncRelayInfo
  cases s.funding <;> rfl

@[simp] theorem syncRelayInfo_extraReserved : s.syncRelayInfo.extraReserved = s.extraReserved := by
  unfold syncRelayInfo
  cases s.funding <;> rfl

@[simp] theorem syncRelayInfo_flags :
    s.syncRelayInfo.trusted = s.trusted ∧ s.syncRelayInfo.fundingSettled = s.fundingSettled ∧
      s.syncRelayInfo.settled = s.settled ∧ s.syncRelayInfo.refunded = s.refunded := by
  unfold syncRelayInfo
  cases s.funding <;> exact ⟨rfl, rfl, rfl, rfl⟩

theorem syncRelayInfo_billed :
    s.syncRelayInfo.relayInfo.billingSource = s.funding.source ∧
      s.syncRelayInfo.relayInfo.finalPreConsumedQuota = s.preConsumedQuota := by
  unfold syncRelayInfo
  cases s.funding <;> exact ⟨rfl, rfl⟩

end

section

variable {s s' : BillingSession} {delta : Int} {db db' : Database} {call : FundingCall}

theorem reserveFunding_ok (h : reserveFunding call delta s db = (.ok s', db')) :
    s' = { s with funding := s.funding.addConsumed delta } ∧
      Moved db db' (fundingDebit s.funding delta) := by
  unfold reserveFunding at h
  split at h
  · rename_i w hf
    split at h
    · cases h
    rename_i hc
    cases h
    rw [hf]
    exact ⟨rfl, (decreaseUserQuota_ok hc).moved⟩
  · rename_i sub hf
    split at h
    · cases h
    rename_i hc
    cases h
    refine ⟨?_, ?_⟩
    · rw [hf, FundingSource.addConsumed, ← hf]
    · rw [hf]
      exact post_moved hc

theorem reserveFunding_error {e : NewAPIError}
    (h : reserveFunding call delta s db = (.error e, db')) : db' = db := by
  unfold reserveFunding at h
  split at h
  · split at h
    · rename_i hc
      cases h
      exact updateQuota_error hc
    · cases h
  · split at h
    · rename_i hc
      cases h
      exact post_error hc
    · cases h

theorem rollbackFundingReserve_ok (h : rollbackFundingReserve call delta s db = (s', db', [])) :
    s' = { s with funding := s.funding.addConsumed (-delta) } ∧
      Moved db db' (fundingDebit s.funding (-delta)) := by
  unfold rollbackFundingReserve at h
  split at h
  · rename_i w hf
    split at h
    · cases h
    rename_i hc
    cases h
    rw [hf]
    exact ⟨rfl, (increaseUserQuota_ok hc).moved⟩
  · rename_i sub hf
    split at h
    · cases h
    rename_i hc
    cases h
    refine ⟨?_, ?_⟩
    · rw [hf, FundingSource.addConsumed, ← hf]
    rw [hf, map_neg]
    have hm := post_moved hc
    rw [map_neg] at hm
    exact hm

theorem reserveToken_ok {ctx : Context} {call : TokenCall} (hd : 0 < delta)
    (h : reserveToken ctx call delta s db = (.ok (), db')) :
    Moved db db' (requestTokenDebit s.relayInfo delta) := by
  unfold reserveToken at h
  split at h
  · rename_i hs
    cases h
    rcases hs with hn | hp
    · omega
    · rw [requestTokenDebit, if_pos hp]
      exact .refl db
  · split at h
    · cases h
    · rename_i hc
      cases h
      exact (preConsumeTokenQuota_ok hc).moved

theorem reserveToken_error {ctx : Context} {call : TokenCall} {e : NewAPIError}
    (h : reserveToken ctx call delta s db = (.error e, db')) : db' = db := by
  unfold reserveToken at h
  split at h
  · cases h
  split at h
  · rename_i hc
    cases h
    exact preConsumeTokenQuota_error hc
  · cases h

def reserved (delta : Int) (s : BillingSession) : BillingSession :=
  syncRelayInfo { s with
    funding := s.funding.addConsumed delta
    preConsumedQuota := s.preConsumedQuota + delta
    tokenConsumed := s.tokenConsumed + delta
    extraReserved := s.extraReserved + delta }

@[simp] theorem sessionDebit_reserved (delta : Int) (s : BillingSession) :
    sessionDebit (reserved delta s) = sessionDebit s := by
  simp [sessionDebit, reserved]

theorem reserve_spec {ctx : Context} {calls : ReserveCalls} {target : Int}
    {r : Except NewAPIError Unit} (h : reserve ctx calls target s db = ⟨r, s', db', []⟩) :
    (s' = s ∧ Moved db db' 0) ∨
    (s.trusted = false ∧ s.preConsumedQuota < target ∧
      s' = reserved (target - s.preConsumedQuota) s ∧
      Moved db db' (sessionDebit s (target - s.preConsumedQuota))) := by
  unfold reserve at h
  split at h
  · cases h
    exact .inl ⟨rfl, .refl db⟩
  rename_i ho
  simp only [not_or, Bool.not_eq_true, Int.not_le] at ho
  obtain ⟨_, _, htr, hta⟩ := ho
  have hd : 0 < target - s.preConsumedQuota := by omega
  revert h hd
  generalize target - s.preConsumedQuota = delta
  intro h hd
  dsimp only at h
  split at h
  · rename_i hf
    cases h
    rw [reserveFunding_error hf]
    exact .inl ⟨rfl, .refl db⟩
  · rename_i s₁ db₁ hf
    obtain ⟨rfl, hm⟩ := reserveFunding_ok hf
    split at h
    · rename_i db₂ ht
      rw [reserveToken_error ht] at h
      cases hb : rollbackFundingReserve calls.rollback delta
          { s with funding := s.funding.addConsumed delta } db₁ with
      | mk s₂ rest =>
        obtain ⟨db₃, logs⟩ := rest
        rw [hb] at h
        cases h
        obtain ⟨rfl, hu⟩ := rollbackFundingReserve_ok hb
        have hbo := hm.trans hu
        simp only [fundingDebit_addConsumed, map_neg, add_neg_cancel] at hbo
        refine .inl ⟨?_, hbo⟩
        simp only [addConsumed_neg]
    · rename_i db₂ ht
      cases h
      exact .inr ⟨htr, hta, rfl, hm.trans (reserveToken_ok hd ht)⟩

theorem reserve_closed (ctx : Context) (calls : ReserveCalls) (target : Int) (db : Database)
    (h : s.settled = true ∨ s.refunded = true) :
    reserve ctx calls target s db = ⟨.ok (), s, db, []⟩ := by
  unfold reserve
  rw [if_pos]
  rcases h with h | h
  · exact .inl h
  · exact .inr (.inl h)

end

section

variable {calls : SettleCalls} {actual : Int} {s s' : BillingSession} {db db' : Database}
  {logs : List String}

theorem settleToken_ok {fault : Fault} {ri : RelayInfo} {delta : Int}
    (h : settleToken fault delta ri db = (.ok (), db')) :
    Shifted db db' (requestTokenDebit ri delta) := by
  unfold settleToken at h
  unfold requestTokenDebit
  split at h
  · rename_i hp
    cases h
    rw [if_pos hp]
    exact .refl db
  · rename_i hp
    rw [if_neg hp]
    split at h
    · exact decreaseTokenQuota_ok h
    · have hs := increaseTokenQuota_ok h
      rw [Int.neg_neg] at hs
      exact hs

theorem settle_settled (calls : SettleCalls) (actual : Int) (db : Database)
    (h : s.settled = true) : settle calls actual s db = ⟨.ok (), s, db, []⟩ := by
  unfold settle
  rw [if_pos h]

theorem addPostDelta_keeps (delta : Int) (s : BillingSession) :
    (addPostDelta delta s).funding = s.funding ∧ (addPostDelta delta s).refunded = s.refunded ∧
      requestTokenDebit (addPostDelta delta s).relayInfo = requestTokenDebit s.relayInfo := by
  unfold addPostDelta
  split <;> exact ⟨rfl, rfl, rfl⟩

structure SettledFrom (s s' : BillingSession) : Prop where
  settled : s'.settled = true
  refunded : s'.refunded = s.refunded
  debit : sessionDebit s' = sessionDebit s

theorem settleRest_settled {fault : Fault} {delta : Int}
    (h : settleRest fault delta s db = ⟨.ok (), s', db', logs⟩) : SettledFrom s s' := by
  obtain rfl : (settleRest fault delta s db).session = s' := by rw [h]
  obtain ⟨hf, hr, ht⟩ := addPostDelta_keeps delta s
  refine ⟨rfl, hr, ?_⟩
  change fundingDebit (addPostDelta delta s).funding +
    requestTokenDebit (addPostDelta delta s).relayInfo = _
  rw [hf, ht]
  rfl

theorem settleRest_ok {fault : Fault} {delta : Int}
    (h : settleRest fault delta s db = ⟨.ok (), s', db', logs⟩) :
    Shifted db db' (requestTokenDebit s.relayInfo delta) := by
  unfold settleRest at h
  cases ht : settleToken fault delta s.relayInfo db with
  | mk r mid =>
    rw [ht] at h
    cases r with
    | error e => cases h
    | ok u =>
      cases h
      exact settleToken_ok ht

variable (h : settle calls actual s db = ⟨.ok (), s', db', logs⟩)

include h

theorem settle_ok_settled : SettledFrom s s' := by
  unfold settle at h
  split at h
  · rename_i hs
    cases h
    exact ⟨hs, rfl, rfl⟩
  dsimp only at h
  split at h
  · cases h
    exact ⟨rfl, rfl, rfl⟩
  split at h
  · exact settleRest_settled h
  · split at h
    · cases h
    · exact settleRest_settled h

theorem settle_ok_cases (ho : s.settled = false) (hf : s.fundingSettled = false) :
    (actual - s.preConsumedQuota = 0 ∧ db' = db) ∨
      ∃ mid, s.funding.settle calls.funding (actual - s.preConsumedQuota) db = (.ok (), mid) ∧
        settleRest calls.token (actual - s.preConsumedQuota) s mid = ⟨.ok (), s', db', logs⟩ := by
  unfold settle at h
  rw [if_neg (by simp [ho])] at h
  dsimp only at h
  split at h
  · rename_i hs
    cases h
    exact .inl ⟨hs, rfl⟩
  rw [if_neg (by simp [hf])] at h
  split at h
  · cases h
  · rename_i mid hc
    exact .inr ⟨mid, hc, h⟩

theorem settle_ok_moved (ho : s.settled = false) (hf : s.fundingSettled = false) :
    Moved db db' (sessionDebit s (actual - s.preConsumedQuota)) := by
  rcases settle_ok_cases h ho hf with ⟨hs, rfl⟩ | ⟨mid, hc, hr⟩
  · rw [hs, map_zero]
    exact .refl db'
  · exact (fundingSettle_ok hc).trans (settleRest_ok hr).moved

theorem settle_ok_shifted {w : WalletFunding} (hw : s.funding = .wallet w) (ho : s.settled = false)
    (hf : s.fundingSettled = false) :
    Shifted db db' (sessionDebit s (actual - s.preConsumedQuota)) := by
  rcases settle_ok_cases h ho hf with ⟨hs, rfl⟩ | ⟨mid, hc, hr⟩
  · rw [hs, map_zero]
    exact .refl db'
  · rw [hw] at hc
    rw [sessionDebit, hw]
    exact (walletSettle_ok hc).trans (settleRest_ok hr)

theorem settle_same (hs : actual = s.preConsumedQuota) : db' = db := by
  unfold settle at h
  split at h
  · cases h
    rfl
  dsimp only at h
  rw [if_pos (by omega)] at h
  cases h
  rfl

end

section

variable {calls : RefundCalls} {s : BillingSession} {db db' : Database}

theorem logged_nil {m : String} {call : Except Err Unit × Database}
    (h : logged m call = (db', [])) : call = (.ok (), db') := by
  obtain ⟨r, after⟩ := call
  cases r with
  | error e => cases h
  | ok u =>
    cases h
    rfl

theorem ite_logged_nil {c : Prop} [Decidable c] {m : String} {call : Except Err Unit × Database}
    (h : (if c then logged m call else (db, [])) = (db', [])) :
    if c then call = (.ok (), db') else db' = db := by
  split at h
  · rename_i hc
    rw [if_pos hc]
    exact logged_nil h
  rename_i hc
  rw [if_neg hc]
  cases h
  rfl

theorem refundAll_ok (h : refundAll calls s db = (db', [])) :
    ∃ refunded rel, s.funding.refund calls.wallet calls.attempts db = (.ok (), refunded) ∧
      (if 0 < s.extraReserved ∧ s.funding.source = .subscription ∧ 0 < s.relayInfo.subscriptionId
        then postConsumeUserSubscriptionDelta calls.extra s.relayInfo.subscriptionId
          (-.ofInt s.extraReserved) refunded = (.ok (), rel)
        else rel = refunded) ∧
      (if 0 < s.tokenConsumed ∧ !s.relayInfo.isPlayground
        then increaseTokenQuota calls.token s.relayInfo.tokenId s.tokenConsumed rel =
          (.ok (), db')
        else db' = rel) := by
  unfold refundAll at h
  generalize hfu : logged "error refunding billing source: " _ = funding at h
  obtain ⟨refunded, fundingLogs⟩ := funding
  dsimp only at h
  generalize he : (if 0 < s.extraReserved ∧ s.funding.source = .subscription ∧
    0 < s.relayInfo.subscriptionId then logged _ _ else (refunded, [])) = extra at h
  obtain ⟨rel, extraLogs⟩ := extra
  dsimp only at h
  generalize ht : (if 0 < s.tokenConsumed ∧ !s.relayInfo.isPlayground then logged _ _
    else (rel, [])) = token at h
  obtain ⟨after, tokenLogs⟩ := token
  dsimp only at h
  obtain ⟨rfl, hl⟩ := Prod.mk.inj h
  obtain ⟨hf, rfl⟩ := List.append_eq_nil_iff.mp hl
  obtain ⟨rfl, rfl⟩ := List.append_eq_nil_iff.mp hf
  exact ⟨refunded, rel, logged_nil hfu, ite_logged_nil he, ite_logged_nil ht⟩

theorem tokenRefund_moved {fault : Fault} {ri : RelayInfo} {consumed : Int} (hc : 0 ≤ consumed)
    (h : if 0 < consumed ∧ !ri.isPlayground
      then increaseTokenQuota fault ri.tokenId consumed db = (.ok (), db')
      else db' = db) :
    Moved db db' (requestTokenDebit ri (-consumed)) := by
  unfold requestTokenDebit
  split at h
  · rename_i hs
    rw [if_neg (by simpa using hs.2)]
    exact (increaseTokenQuota_ok h).moved
  rename_i hn
  subst h
  split
  · exact .refl _
  rename_i hp
  have hz : consumed = 0 := by
    simp only [hp, Bool.not_false, and_true, Int.not_lt] at hn
    omega
  rw [hz, neg_zero, map_zero]
  exact .refl _

end

end DeepRouter.Billing
