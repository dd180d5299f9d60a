import DeepRouter.Quota.UserRow

/-! # No change of a user row is lost -/

namespace DeepRouter.Quota

open Store Atomic Billing Runs

def RowOp.CopyCurrent (id : Int) (s : RowState) : RowOp → Prop
  | .saveInviter call fault => fault = none → ∀ copy, s.copies call = some copy →
    copy.user.quota = (s.db.users id).quota ∧ copy.aff.affQuota = (s.aff id).affQuota
  | _ => True

section

variable {cfg : InviteSettings} {id : Int} {s : RowState}

@[simp] theorem save_quota (row : UserRow) : ((s.save id row).db.users id).quota = row.user.quota := by
  simp [RowState.save]

@[simp] theorem save_affQuota (row : UserRow) : ((s.save id row).aff id).affQuota = row.aff.affQuota := by
  simp [RowState.save]

theorem transfer_cases (cfg : InviteSettings) (fl : TransferFaults) (id quota : Int)
    (s : RowState) :
    (∃ e, transferAffQuotaToQuota cfg fl id quota s = (.error e, s)) ∨
      (quota ≤ (s.aff id).affQuota ∧
        transferAffQuotaToQuota cfg fl id quota s = (.ok (), s.save id
          { user := { s.db.users id with quota := (s.db.users id).quota + quota }
            aff := { s.aff id with affQuota := (s.aff id).affQuota - quota } })) := by
  unfold transferAffQuotaToQuota
  split
  · exact .inl ⟨_, rfl⟩
  rcases transaction_cases s (transferTx fl id quota s) fl.commit with
    ⟨_, s', hb, _, hEq⟩ | ⟨e, hEq⟩
  · unfold transferTx at hb
    obtain ⟨_, _, hb⟩ := bind_eq_ok.mp hb
    obtain ⟨_, _, hb⟩ := bind_eq_ok.mp hb
    dsimp only at hb
    split at hb
    · cases hb
    rename_i he
    obtain ⟨_, _, hb⟩ := bind_eq_ok.mp hb
    cases hb
    exact .inr ⟨Int.not_lt.mp he, hEq⟩
  · exact .inl ⟨e, hEq⟩

theorem readInviter_kept (cfg : InviteSettings) (fault : Fault) (id : Int) (call : Nat)
    (s : RowState) :
    (readInviter cfg fault id call s).2.db = s.db ∧
      (readInviter cfg fault id call s).2.aff = s.aff := by
  unfold readInviter
  split
  · exact ⟨rfl, rfl⟩
  split
  · exact ⟨rfl, rfl⟩
  · cases fault with
    | none => exact ⟨rfl, rfl⟩
    | some e => exact ⟨rfl, rfl⟩

theorem saveInviter_cases (cfg : InviteSettings) (fault : Fault) (id : Int) (call : Nat)
    (s : RowState) :
    (∃ e s', saveInviter cfg fault id call s = (.error e, s') ∧ s'.db = s.db ∧
      s'.aff = s.aff) ∨
    (fault = none ∧ ∃ (copy : UserRow) (s' : RowState), s.copies call = some copy ∧
      saveInviter cfg fault id call s = (.ok (), s'.save id (rewarded cfg copy))) := by
  unfold saveInviter
  split
  · exact .inl ⟨_, s, rfl, rfl, rfl⟩
  rename_i copy hc
  cases fault with
  | some e => exact .inl ⟨e, _, rfl, rfl, rfl⟩
  | none => exact .inr ⟨rfl, copy, _, hc, rfl⟩

theorem rowStep_quotas (cfg : InviteSettings) (id : Int) (s : RowState) (op : RowOp)
    (h : op.CopyCurrent id s) :
    ((rowStep cfg id s op).db.users id).quota = (s.db.users id).quota +
        (changed cfg id .increase s op + changed cfg id .transfer s op +
          -changed cfg id .decrease s op) ∧
      ((rowStep cfg id s op).aff id).affQuota = (s.aff id).affQuota +
        (changed cfg id .invite s op + -changed cfg id .transfer s op) := by
  unfold rowStep changed
  cases op with
  | readInviter call fault =>
    obtain ⟨hd, ha⟩ := readInviter_kept cfg fault id call s
    simp [rowCall, RowOp.change, hd, ha]
  | saveInviter call fault =>
    rcases saveInviter_cases cfg fault id call s with
      ⟨e, s', he, hd, ha⟩ | ⟨hf, copy, s', hc, he⟩
    · simp [rowCall, he, hd, ha]
    · obtain ⟨hq, ha⟩ := h hf copy hc
      simp [rowCall, RowOp.change, he, rewarded, hq, ha]
  | transfer quota faults =>
    rcases transfer_cases cfg faults id quota s with ⟨e, he⟩ | ⟨_, he⟩
    · simp [rowCall, he]
    · simp [rowCall, RowOp.change, he]
      omega
  | increase quota fault =>
    rcases updateQuota_cases fault quota
      (·.updateUser id fun user => { user with quota := user.quota + quota }) s.db with
      ⟨_, _, he⟩ | ⟨_, e, he⟩
    · simp [rowCall, RowOp.change, onDatabase, Billing.increaseUserQuota, he]
    · simp [rowCall, onDatabase, Billing.increaseUserQuota, he]
  | decrease quota fault =>
    rcases updateQuota_cases fault quota
      (·.updateUser id fun user => { user with quota := user.quota - quota }) s.db with
      ⟨_, _, he⟩ | ⟨_, e, he⟩
    · simp [rowCall, RowOp.change, onDatabase, Billing.decreaseUserQuota, he]
      omega
    · simp [rowCall, onDatabase, Billing.decreaseUserQuota, he]

structure RowState.Sound (cfg : InviteSettings) (id : Int) (s : RowState) : Prop where
  affQuota : 0 ≤ (s.aff id).affQuota
  copies : ∀ call copy, s.copies call = some copy → 0 < cfg.quotaForInviter

theorem saveInviter_copies {fault : Fault} {call c : Nat} {copy : UserRow}
    (h : (saveInviter cfg fault id call s).2.copies c = some copy) : s.copies c = some copy := by
  have hr : Function.update s.copies call none c = some copy → s.copies c = some copy := by
    rw [Function.update_apply]
    split
    · intro hn
      cases hn
    · exact fun hs => hs
  unfold saveInviter at h
  split at h
  · exact h
  · cases fault with
    | none => exact hr h
    | some e => exact hr h

theorem rowStep_copies {op : RowOp} {c : Nat} {copy : UserRow}
    (h : (rowStep cfg id s op).copies c = some copy) :
    s.copies c = some copy ∨ 0 < cfg.quotaForInviter := by
  cases op with
  | readInviter call fault =>
    by_cases hg : 0 < cfg.quotaForInviter
    · exact .inr hg
    rw [rowStep, rowCall] at h
    unfold readInviter at h
    rw [if_pos (Int.not_lt.mp hg)] at h
    exact .inl h
  | saveInviter call fault => exact .inl (saveInviter_copies h)
  | transfer quota faults =>
    rw [rowStep, rowCall] at h
    rcases transfer_cases cfg faults id quota s with ⟨e, he⟩ | ⟨_, he⟩
    · rw [he] at h
      exact .inl h
    · rw [he] at h
      exact .inl h
  | increase quota fault => exact .inl h
  | decrease quota fault => exact .inl h

theorem rowStep_sound (s : RowState) (op : RowOp) (hs : s.Sound cfg id) (h : op.CopyCurrent id s) :
    (rowStep cfg id s op).Sound cfg id := by
  refine ⟨?_, ?_⟩
  · have ha := hs.affQuota
    cases op with
    | readInviter call fault =>
      rw [rowStep, rowCall, (readInviter_kept cfg fault id call s).2]
      exact ha
    | saveInviter call fault =>
      rw [rowStep, rowCall]
      rcases saveInviter_cases cfg fault id call s with
        ⟨e, s', hEq, _, hk⟩ | ⟨hf, copy, s', hco, hEq⟩
      · rw [hEq, hk]
        exact ha
      have hr := hs.copies call copy hco
      have hc := (h hf copy hco).2
      rw [hEq, save_affQuota]
      change 0 ≤ copy.aff.affQuota + cfg.quotaForInviter
      omega
    | transfer quota faults =>
      rw [rowStep, rowCall]
      rcases transfer_cases cfg faults id quota s with ⟨e, hEq⟩ | ⟨he, hEq⟩
      · rw [hEq]
        exact ha
      · rw [hEq, save_affQuota]
        change 0 ≤ (s.aff id).affQuota - quota
        omega
    | increase quota fault => exact ha
    | decrease quota fault => exact ha
  · intro c copy hco
    rcases rowStep_copies hco with ho | hr
    · exact hs.copies c copy ho
    · exact hr

end

/-- As long as each saved copy still shows the quotas of the row, every change is kept. -/
theorem userRow_changes_kept (cfg : InviteSettings) (id : Int) (s : RowState)
    (hAff : 0 ≤ (s.aff id).affQuota) (hFresh : ∀ call, s.copies call = none) (ops : List RowOp)
    (h : Along (rowStep cfg id) (fun s op => op.CopyCurrent id s) s ops) :
    ((run (rowStep cfg id) s ops).db.users id).quota = (s.db.users id).quota +
        sumAlong (rowStep cfg id) (changed cfg id .increase) s ops +
        sumAlong (rowStep cfg id) (changed cfg id .transfer) s ops -
        sumAlong (rowStep cfg id) (changed cfg id .decrease) s ops ∧
      ((run (rowStep cfg id) s ops).aff id).affQuota = (s.aff id).affQuota +
        sumAlong (rowStep cfg id) (changed cfg id .invite) s ops -
        sumAlong (rowStep cfg id) (changed cfg id .transfer) s ops ∧
      0 ≤ ((run (rowStep cfg id) s ops).aff id).affQuota := by
  have hq : ((run (rowStep cfg id) s ops).db.users id).quota = (s.db.users id).quota +
      sumAlong (rowStep cfg id) (fun s op => changed cfg id .increase s op +
        changed cfg id .transfer s op + -changed cfg id .decrease s op) s ops :=
    run_measure (m := fun s => (s.db.users id).quota)
      (fun s op ho => (rowStep_quotas cfg id s op ho).1) h
  have ha : ((run (rowStep cfg id) s ops).aff id).affQuota = (s.aff id).affQuota +
      sumAlong (rowStep cfg id) (fun s op => changed cfg id .invite s op +
        -changed cfg id .transfer s op) s ops :=
    run_measure (m := fun s => (s.aff id).affQuota)
      (fun s op ho => (rowStep_quotas cfg id s op ho).2) h
  have hs : s.Sound cfg id := by
    refine ⟨hAff, ?_⟩
    intro call copy hc
    rw [hFresh] at hc
    cases hc
  rw [sumAlong_add, sumAlong_add, sumAlong_neg] at hq
  rw [sumAlong_add, sumAlong_neg] at ha
  refine ⟨?_, ?_, ?_⟩
  · omega
  · omega
  · exact (run_invariant rowStep_sound hs ops h).affQuota

def inviteSettings : InviteSettings := ⟨100, 50, fun _ => "$0.0001"⟩

def newInviter : RowState := ⟨.initial, fun _ => ⟨0, 0, 0⟩, fun _ => none⟩

theorem userRow_invited_then_transferred :
    let ops := [.increase 5 none, .readInviter 0 none, .saveInviter 0 none, .transfer 60 {}]
    let final := run (rowStep inviteSettings 7) newInviter ops
    (final.db.users 7).quota = 65 ∧ (final.aff 7).affQuota = 40 ∧ 0 ≤ (final.aff 7).affQuota := by
  intro ops final
  have hcu : Along (rowStep inviteSettings 7) (fun s op => op.CopyCurrent 7 s) newInviter ops := by
    refine ⟨trivial, trivial, ?_, trivial, trivial⟩
    intro _ copy hc
    cases hc
    decide
  obtain ⟨hq, ha, hn⟩ :=
    userRow_changes_kept inviteSettings 7 newInviter (by decide) (fun _ => rfl) ops hcu
  refine ⟨hq.trans ?_, ha.trans ?_, hn⟩
  · decide +kernel
  · decide +kernel

theorem userRow_increase_overwritten :
    let ops := [.readInviter 0 none, .increase 5 none, .saveInviter 0 none]
    ((run (rowStep inviteSettings 7) newInviter ops).db.users 7).quota = 0 ∧
      sumAlong (rowStep inviteSettings 7) (changed inviteSettings 7 .increase) newInviter ops = 5 := by
  decide +kernel

end DeepRouter.Quota
