import DeepRouter.Billing.Debits

/-! # What a call on a funding source or a token does -/

namespace DeepRouter.Billing

open Store Atomic KeyedTable Subscription Runs MachineInt

variable {fault : Fault} {w : WalletFunding}

section

variable {quota : Int} {db db' : Database}

theorem walletPreConsume_ok {w w' : WalletFunding} (hn : w.consumed = 0)
    (hq : 0 ≤ quota) (h : w.preConsume fault quota db = (.ok w', db')) :
    w' = { w with consumed := quota } ∧ Shifted db db' (userDebit w.userId quota) := by
  unfold WalletFunding.preConsume at h
  split at h
  · rename_i hno
    have hz : quota = 0 := by omega
    cases h
    rw [hz, map_zero, ← hn]
    exact ⟨rfl, .refl db⟩
  · split at h
    · cases h
    · rename_i hc
      cases h
      exact ⟨rfl, decreaseUserQuota_ok hc⟩

variable {faults : SubscriptionFaults}

theorem subscriptionPreConsume_ok {env : Env}
    {f f' : SubscriptionFunding} (h : f.preConsume env faults db = (.ok f', db')) :
    ∃ result, preConsumeUserSubscription env faults.preConsume f.requestId f.userId f.amount db =
        (.ok result, db') ∧ f'.requestId = f.requestId ∧
      f'.subscriptionId = result.userSubscriptionId ∧ f'.preConsumed = result.preConsumed := by
  unfold SubscriptionFunding.preConsume at h
  split at h
  · cases h
  rename_i result after hc
  dsimp only at h
  split at h
  · cases h
    exact ⟨result, hc, rfl, rfl, rfl⟩
  · cases h
    exact ⟨result, hc, rfl, rfl, rfl⟩

theorem walletPreConsume_error {e : Err}
    (h : w.preConsume fault quota db = (.error e, db')) : db' = db := by
  unfold WalletFunding.preConsume at h
  split at h
  · cases h
  split at h
  · rename_i hc
    cases h
    exact updateQuota_error hc
  · cases h

theorem subscriptionPreConsume_error {env : Env}
    {f : SubscriptionFunding} {e : Err} (h : f.preConsume env faults db = (.error e, db')) :
    db' = db := by
  unfold SubscriptionFunding.preConsume at h
  split at h
  · rename_i hc
    cases h
    exact preConsume_error hc
  dsimp only at h
  split at h
  · cases h
  · cases h

theorem fundingPreConsume_error {env : Env} {wallet : Fault} {funding : FundingSource} {e : Err}
    (h : funding.preConsume env wallet faults quota db = (.error e, db')) : db' = db := by
  cases funding with
  | wallet w =>
    rw [FundingSource.preConsume] at h
    split at h
    · rename_i hc
      cases h
      exact walletPreConsume_error hc
    · cases h
  | subscription f =>
    rw [FundingSource.preConsume] at h
    split at h
    · rename_i hc
      cases h
      exact subscriptionPreConsume_error hc
    · cases h

end

section

variable {call : FundingCall} {delta : Int} {db db' : Database}

theorem walletSettle_ok
    (h : w.settle fault delta db = (.ok (), db')) : Shifted db db' (userDebit w.userId delta) := by
  unfold WalletFunding.settle at h
  split at h
  · rename_i hz
    cases h
    rw [hz, map_zero]
    exact .refl db
  · split at h
    · exact decreaseUserQuota_ok h
    · have hs := increaseUserQuota_ok h
      rw [Int.neg_neg] at hs
      exact hs

theorem subscriptionSettle_ok {faults : PostFaults} {s : SubscriptionFunding}
    (h : s.settle faults delta db = (.ok (), db')) :
    Moved db db' (usedDebit s.subscriptionId (toInt64 delta)) := by
  unfold SubscriptionFunding.settle at h
  split at h
  · rename_i hz
    cases h
    rw [hz, map_zero, map_zero]
    exact .refl db
  · exact post_moved h

theorem fundingSettle_ok {funding : FundingSource}
    (h : funding.settle call delta db = (.ok (), db')) :
    Moved db db' (fundingDebit funding delta) := by
  cases funding with
  | wallet w => exact (walletSettle_ok h).moved
  | subscription s => exact subscriptionSettle_ok h

def FundingSource.addConsumed (delta : Int) : FundingSource → FundingSource
  | .wallet w => .wallet { w with consumed := w.consumed + delta }
  | .subscription s => .subscription s

@[simp] theorem fundingDebit_addConsumed (delta : Int) (funding : FundingSource) :
    fundingDebit (funding.addConsumed delta) = fundingDebit funding := by
  cases funding <;> rfl

theorem addConsumed_neg (delta : Int) (funding : FundingSource) :
    (funding.addConsumed delta).addConsumed (-delta) = funding := by
  cases funding with
  | wallet w => simp [FundingSource.addConsumed]
  | subscription s => rfl

end

section

variable {db db' : Database}

theorem walletRefund_ok (hc : 0 ≤ w.consumed)
    (h : w.refund fault db = (.ok (), db')) : Moved db db' (userDebit w.userId (-w.consumed)) := by
  unfold WalletFunding.refund at h
  split at h
  · have hz : w.consumed = 0 := by omega
    cases h
    rw [hz, neg_zero, map_zero]
    exact .refl db
  · exact (increaseUserQuota_ok h).moved

theorem subscriptionRefund_ok {atts : Nat → Env × RefundFaults} {f : SubscriptionFunding}
    {rec : SubscriptionPreConsumeRecord} (hc : ∀ i, (atts i).2 = {})
    (hpo : 0 < f.preConsumed) (hfi : db.records.find? f.requestId = some rec)
    (hs : rec.status = .consumed) (ham : rec.preConsumed = f.preConsumed)
    (h : f.refund atts db = (.ok (), db')) :
    ∃ mid env, postConsumeUserSubscriptionDelta {} rec.userSubscriptionId (-f.preConsumed) db =
      (.ok (), mid) ∧ db' = mid.saveRecord (refundedRecord env rec) := by
  unfold SubscriptionFunding.refund refundWithRetry at h
  rw [if_neg (Int64.not_le.mpr hpo)] at h
  have hfa : ∀ i (before : Database) e after, refundSubscriptionPreConsume (atts i).1
      (atts i).2 f.requestId before = (.error e, after) → after = before := by
    intro i before e after hfa
    rw [hc i] at hfa
    cases refund_effect hfa with
    | failed => rfl
    | lostMark _ _ _ _ _ _ _ hf => exact absurd ⟨rfl, rfl⟩ hf
  obtain ⟨i, ha⟩ := retry_ok hfa h
  rw [hc i] at ha
  cases refund_effect ha with
  | already other ho hr =>
    rw [hfi] at ho
    cases ho
    rw [hs] at hr
    cases hr
  | empty other ho _ he =>
    rw [hfi] at ho
    cases ho
    rw [ham] at he
    exact absurd hpo (Int64.not_lt.mpr he)
  | settled other mid ho _ _ hp =>
    rw [hfi] at ho
    cases ho
    rw [ham] at hp
    exact ⟨mid, _, hp, rfl⟩

end

section

variable {ctx : Context} {relayInfo : RelayInfo} {quota : Int} {db db' : Database}
  {call : TokenCall}

theorem preConsumeTokenQuota_cases
    (h : preConsumeTokenQuota ctx call relayInfo quota db = (.ok (), db')) :
    (relayInfo.isPlayground = true ∧ db' = db) ∨
      (relayInfo.isPlayground = false ∧
        decreaseTokenQuota call.write relayInfo.tokenId quota db = (.ok (), db')) := by
  unfold preConsumeTokenQuota at h
  split at h
  · cases h
  split at h
  · rename_i hp
    cases h
    exact .inl ⟨hp, rfl⟩
  rename_i hp
  split at h
  · cases h
  · split at h
    · cases h
    · exact .inr ⟨Bool.not_eq_true _ ▸ hp, h⟩

theorem preConsumeTokenQuota_ok
    (h : preConsumeTokenQuota ctx call relayInfo quota db = (.ok (), db')) :
    Shifted db db' (requestTokenDebit relayInfo quota) := by
  unfold requestTokenDebit
  rcases preConsumeTokenQuota_cases h with ⟨hp, rfl⟩ | ⟨hp, hc⟩
  · rw [if_pos hp]
    exact .refl db'
  · rw [if_neg (by simp [hp])]
    exact decreaseTokenQuota_ok hc

theorem preConsumeTokenQuota_error {e : Err}
    (h : preConsumeTokenQuota ctx call relayInfo quota db = (.error e, db')) : db' = db := by
  unfold preConsumeTokenQuota at h
  split at h
  · cases h
    rfl
  split at h
  · cases h
  split at h
  · cases h
    rfl
  split at h
  · cases h
    rfl
  · exact updateQuota_error h

theorem token_restored {take back : Fault} {id : Int}
    (ht : decreaseTokenQuota take id quota db = (.ok (), mid))
    (hb : increaseTokenQuota back id quota mid = (.ok (), db')) : db' = db := by
  obtain ⟨_, rfl⟩ := updateQuota_ok ht
  obtain ⟨_, rfl⟩ := updateQuota_ok hb
  simp [Database.updateToken]

end

end DeepRouter.Billing
