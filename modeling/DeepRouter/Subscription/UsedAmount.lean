import DeepRouter.Subscription.LedgerSpec

/-! # What each call does to the used amount of a subscription -/

namespace DeepRouter.Subscription

open Store KeyedTable MachineInt

def usedOf (db : Database) (id : Int) : Int64 :=
  match db.subs.find? id with
  | some sub => sub.amountUsed
  | none => 0

theorem usedOf_of_find? {db : Database} {id : Int} {sub : UserSubscription}
    (h : db.subs.find? id = some sub) : usedOf db id = sub.amountUsed := by
  rw [usedOf, h]

theorem usedOf_saveSub {db : Database} {k : Int} {old : UserSubscription} (sub : UserSubscription)
    (hr : db.subs.find? k = some old) (hk : sub.id = k) (id : Int) :
    usedOf (db.saveSub sub) id = if id = k then sub.amountUsed else usedOf db id := by
  subst hk
  by_cases hi : id = sub.id
  · rw [if_pos hi, hi]
    exact usedOf_of_find? (Table.find?_save_self hr)
  rw [if_neg hi]
  unfold usedOf
  have hf : (db.saveSub sub).subs.find? id = db.subs.find? id :=
    Table.find?_save_of_ne (Ne.symm hi)
  rw [hf]

theorem Refresh.resets_le {db db' : Database} (h : Refresh db db') (id : Int) :
    db.resets id ≤ db'.resets id := by
  cases h with
  | schedule sub next last hr => exact le_refl _
  | reset sub next last hr =>
    by_cases hi : id = sub.id
    · simp [hi]
    · simp [Function.update_of_ne hi]

theorem Refresh.usedOf {db db' : Database} (h : Refresh db db') (id : Int) :
    usedOf db' id = if db'.resets id = db.resets id then usedOf db id else 0 := by
  cases h with
  | schedule sub next last hr =>
    have hs := usedOf_saveSub { sub with nextResetTime := next, lastResetTime := last } hr rfl id
    refine hs.trans ?_
    rw [if_pos (show (db.saveSub _).resets id = db.resets id from rfl)]
    by_cases hi : id = sub.id
    · rw [if_pos hi, hi, usedOf_of_find? hr]
    · rw [if_neg hi]
  | reset sub next last hr =>
    have hs := usedOf_saveSub
      { sub with amountUsed := 0, nextResetTime := next, lastResetTime := last } hr rfl id
    refine hs.trans ?_
    by_cases hi : id = sub.id
    · simp [hi]
    · simp [hi]

theorem Refreshes.resets_le {db db' : Database} (h : Refreshes db db') (id : Int) :
    db.resets id ≤ db'.resets id := by
  induction h with
  | refl => exact le_refl _
  | tail _ hs ih => exact ih.trans (hs.resets_le id)

theorem Refreshes.usedOf {db db' : Database} (h : Refreshes db db') (id : Int) :
    usedOf db' id = if db'.resets id = db.resets id then usedOf db id else 0 := by
  induction h with
  | refl => rw [if_pos rfl]
  | @tail mid db' hf hs ih =>
    have hLeFst := Refreshes.resets_le hf id
    have hle := hs.resets_le id
    rw [hs.usedOf id, ih]
    by_cases hsa : db'.resets id = db.resets id
    · rw [if_pos hsa, if_pos (by omega), if_pos (by omega)]
    rw [if_neg hsa]
    by_cases hl : db'.resets id = mid.resets id
    · rw [if_pos hl, if_neg (by omega)]
    · rw [if_neg hl]

section

variable {env : Env} {requestId : String} {userId : Int} {amount : Int64}
  {candidates : List UserSubscription} {db db' : Database} {result : SubscriptionPreConsumeResult}
  (h : Charges env requestId userId amount candidates db result db')

include h

theorem Charges.resets_le (id : Int) : db.resets id ≤ db'.resets id := by
  obtain ⟨mid, candidate, sub, records, hr, _, _, _, _, _, _, _, rfl⟩ := h
  exact Refreshes.resets_le hr id

theorem Charges.usedOf (id : Int) :
    usedOf db' id = (if db'.resets id = db.resets id then usedOf db id else 0) +
      if id = result.userSubscriptionId then amount else 0 := by
  obtain ⟨mid, candidate, sub, records, hr, _, _, _, hf, _, _, rfl, rfl⟩ := h
  have hm := Refreshes.usedOf hr id
  refine (usedOf_saveSub { sub with amountUsed := sub.amountUsed + amount } hf rfl id).trans ?_
  by_cases hi : id = sub.id
  · rw [if_pos hi, if_pos hi]
    rw [hi, usedOf_of_find? hf] at hm
    rw [hi]
    exact congrArg (· + amount) hm
  · rw [if_neg hi, if_neg hi, hm]
    exact (add_zero _).symm

theorem Charges.clamps : db'.clamps = db.clamps := by
  obtain ⟨mid, candidate, sub, records, hr, _, _, _, _, _, _, _, rfl⟩ := h
  exact (Refreshes.frame hr).clamps

theorem Charges.accounts : db'.users = db.users ∧ db'.tokens = db.tokens := by
  obtain ⟨mid, candidate, sub, records, hr, _, _, _, _, _, _, _, rfl⟩ := h
  exact ⟨(Refreshes.frame hr).users, (Refreshes.frame hr).tokens⟩

theorem Charges.records :
    ∃ record, db.records.insert? record = some db'.records ∧ record.requestId = requestId ∧
      record.userSubscriptionId = result.userSubscriptionId ∧ record.preConsumed = amount ∧
      result.preConsumed = amount ∧ record.status = .consumed := by
  obtain ⟨mid, candidate, sub, records, hr, _, _, _, _, _, hi, rfl, rfl⟩ := h
  rw [(Refreshes.frame hr).records] at hi
  exact ⟨_, hi, rfl, rfl, rfl, rfl, rfl⟩

end

section

variable {faults : PostFaults} {id : Int} {delta : Int64} {db db' : Database}

theorem settleRow_usedOf {sub : UserSubscription} (hr : db.subs.find? id = some sub) (k : Int) :
    usedOf (settleRow db sub delta) k =
      if k = id then settledUsed sub.amountUsed delta else usedOf db k := by
  have hi : sub.id = id := Table.key_of_find? hr
  exact usedOf_saveSub { sub with amountUsed := settledUsed sub.amountUsed delta } hr hi k

theorem settledUsed_nonneg (used delta : Int64) : 0 ≤ settledUsed used delta := by
  unfold settledUsed
  split
  · exact Int64.le_refl 0
  · rename_i h
    exact Int64.not_lt.mp h

theorem settledUsed_toInt {used delta : Int64} (hf : FitsAdd used delta) :
    (settledUsed used delta).toInt = max 0 (used.toInt + delta.toInt) := by
  have hs := toInt_add_of_fits hf
  unfold settledUsed
  split
  · rename_i hn
    rw [lt_iff, hs] at hn
    change (0 : Int) = _
    change _ < (0 : Int) at hn
    omega
  · rename_i hNn
    rw [lt_iff, hs] at hNn
    change ¬_ < (0 : Int) at hNn
    omega

theorem fitsAdd_neg {used amount : Int64} (hu : 0 ≤ used) (ha : 0 < amount) :
    FitsAdd used (-amount) := by
  have hNn := nonneg_iff.mp hu
  have hp := pos_iff.mp ha
  have hn := toInt_neg_of_pos ha
  have hh := used.toInt_lt
  have ham := amount.toInt_lt
  constructor
  · omega
  · omega

theorem settledUsed_neg {used amount : Int64} (hu : 0 ≤ used) (ha : 0 < amount) :
    (settledUsed used (-amount)).toInt = max 0 (used.toInt - amount.toInt) := by
  rw [settledUsed_toInt (fitsAdd_neg hu ha), toInt_neg_of_pos ha, sub_eq_add_neg]

theorem post_usedOf (h : postConsumeUserSubscriptionDelta faults id delta db = (.ok (), db'))
    (hc : db'.clamps = db.clamps) (k : Int) :
    usedOf db' k = usedOf db k + if k = id then delta else 0 := by
  obtain ⟨_, ⟨rfl, rfl⟩ | ⟨_, sub, hr, _, rfl⟩⟩ := post_ok h
  · rw [ite_self]
    exact (add_zero _).symm
  have hn : ¬sub.amountUsed + delta < 0 := by
    intro hne
    simp [settleRow, hne] at hc
  rw [settleRow_usedOf hr, settledUsed, if_neg hn]
  by_cases hk : k = id
  · rw [if_pos hk, if_pos hk, hk, usedOf_of_find? hr]
  · rw [if_neg hk, if_neg hk]
    exact (add_zero _).symm

theorem post_kept (h : postConsumeUserSubscriptionDelta faults id delta db = (.ok (), db')) :
    db'.records = db.records ∧ db'.resets = db.resets ∧ db.clamps ≤ db'.clamps ∧
      db'.users = db.users ∧ db'.tokens = db.tokens := by
  obtain ⟨_, ⟨_, rfl⟩ | ⟨_, sub, _, _, rfl⟩⟩ := post_ok h
  · exact ⟨rfl, rfl, le_refl _, rfl, rfl⟩
  · exact ⟨rfl, rfl, Nat.le_add_right _ _, rfl, rfl⟩

end

end DeepRouter.Subscription
