import DeepRouter.Quota.BatchUpdate

/-! # Batched updates and the database -/

namespace DeepRouter.Quota

open Store KeyedTable Runs Table BatchState

def amountFor (id : Int) (row : Pending) : Int := if row.id = id then row.value else 0

namespace BatchState

def stored (s : BatchState) : BatchUpdateType → Int → Int
  | .userQuota, id => (s.db.users id).quota
  | .tokenQuota, id => (s.db.tokens id).remainQuota
  | .usedQuota, id => s.usedQuota id
  | .channelUsedQuota, id => s.channelUsedQuota id
  | .requestCount, id => s.requestCount id

def pending (s : BatchState) (type : BatchUpdateType) (id : Int) : Int :=
  (((s.batchUpdateStores type).find? id).map Pending.value).getD 0

end BatchState

def Flusher.inFlight (type : BatchUpdateType) (id : Int) : Flusher → Int
  | .ranging taken rows _ => if type = taken then (rows.map (amountFor id)).sum else 0
  | _ => 0

theorem Flusher.inFlight_idle (type : BatchUpdateType) (id : Int) :
    Flusher.inFlight type id .idle = 0 := rfl

def BatchState.balance (s : BatchState) (type : BatchUpdateType) (id : Int) : Int :=
  s.stored type id + s.pending type id + s.flusher.inFlight type id

theorem total_amountFor (store : BatchStore) (id : Int) :
    store.total (amountFor id) = ((store.find? id).map Pending.value).getD 0 := by
  cases hf : store.find? id with
  | none =>
    have hz : store.total (amountFor id) = store.total fun _ => (0 : Int) := by
      apply total_congr
      intro row hr
      exact if_neg (find?_eq_none_iff.mp hf row hr)
    rw [hz]
    simp [Table.total]
  | some row =>
    have hr := mem_of_find? hf
    have hk := key_of_find? hf
    have ho := total_of_eq_off hr (f := amountFor id) (g := fun _ => 0) (by
      intro other _ hn
      exact if_neg (hk ▸ hn))
    have hh : amountFor id row = row.value := if_pos hk
    rw [hh] at ho
    simpa [Table.total] using ho

theorem total_put_amountFor (id : Int) (store : BatchStore) (key value : Int) :
    (store.put ⟨key, ((store.find? key).map Pending.value).getD 0 + value⟩).total (amountFor id) =
      store.total (amountFor id) + if key = id then value else 0 := by
  cases hf : store.find? key with
  | none =>
    rw [total_insert? (put_of_none hf)]
    simp [amountFor]
  | some row =>
    have hs := total_save (r := ⟨key, row.value + value⟩) hf (amountFor id)
    rw [← put_of_some hf] at hs
    simp only [Option.map_some, Option.getD_some]
    unfold amountFor at hs ⊢
    rw [key_of_find? hf] at hs
    dsimp only at hs
    split at hs
    · omega
    · omega

section

variable (s : BatchState) (type taken : BatchUpdateType) (id : Int)

theorem pending_withStore (store : BatchStore) :
    (s.withStore taken store).pending type id =
      if type = taken then store.total (amountFor id) else s.pending type id := by
  change (((Function.update s.batchUpdateStores taken store type).find? id).map _).getD 0 = _
  rw [Function.update_apply]
  split
  · rw [total_amountFor]
  · rfl

theorem addNewRecord_eq (key value : Int) :
    s.addNewRecord taken key value = s.withStore taken ((s.batchUpdateStores taken).put
      ⟨key, (((s.batchUpdateStores taken).find? key).map Pending.value).getD 0 + value⟩) := by
  unfold addNewRecord
  split
  · rename_i hf
    rw [hf, Option.map_none, Option.getD_none, Int.zero_add]
  · rename_i row hf
    rw [hf, Option.map_some, Option.getD_some]

theorem addNewRecord_balance (key value : Int) :
    (s.addNewRecord taken key value).balance type id =
      s.balance type id + if type = taken ∧ key = id then value else 0 := by
  have hp : (s.addNewRecord taken key value).pending type id =
      s.pending type id + if type = taken ∧ key = id then value else 0 := by
    rw [addNewRecord_eq, pending_withStore]
    by_cases ht : type = taken
    · subst ht
      rw [if_pos rfl, total_put_amountFor, total_amountFor]
      simp [pending]
    · simp [ht]
  have hs : (s.addNewRecord taken key value).stored type id = s.stored type id := by
    rw [addNewRecord_eq]
    rfl
  have hf : (s.addNewRecord taken key value).flusher = s.flusher := by
    rw [addNewRecord_eq]
    rfl
  unfold balance
  rw [hp, hs, hf]
  omega

theorem update_column {ρ : Type} (column : ρ → Int) (rows : Int → ρ) (row : Pending) (new : ρ)
    (hn : column new = column (rows row.id) + row.value) :
    column (Function.update rows row.id new id) = column (rows id) + amountFor id row := by
  unfold amountFor
  rw [Function.update_apply]
  split
  · rename_i hi
    rw [if_pos hi.symm, hi, hn]
  · rename_i hi
    rw [if_neg (Ne.symm hi), Int.add_zero]

theorem updateRow_stored (row : Pending) :
    (s.updateRow none taken row).stored type id =
      s.stored type id + if type = taken then amountFor id row else 0 := by
  by_cases ht : type = taken
  · subst ht
    rw [if_pos rfl]
    cases type with
    | userQuota => exact update_column id User.quota s.db.users row _ rfl
    | tokenQuota => exact update_column id Token.remainQuota s.db.tokens row _ rfl
    | usedQuota => exact update_column id (fun n => n) s.usedQuota row _ rfl
    | channelUsedQuota => exact update_column id (fun n => n) s.channelUsedQuota row _ rfl
    | requestCount => exact update_column id (fun n => n) s.requestCount row _ rfl
  · rw [if_neg ht, Int.add_zero]
    cases taken <;> cases type <;> first | rfl | exact absurd rfl ht

theorem updateRow_pending (fault : Fault) (row : Pending) :
    (s.updateRow fault taken row).pending type id = s.pending type id := by
  cases fault with
  | some e => rfl
  | none => cases taken <;> rfl

def RowUpdateSucceeds (pick : Nat) (fault : Fault) : Prop :=
  ∀ rows types row, s.flusher = .ranging type rows types → rows[pick]? = some row →
    row.value ≠ 0 → fault = none

theorem balance_moved {flusher : Flusher}
    (h : flusher.inFlight type id = s.flusher.inFlight type id) :
    { s with flusher }.balance type id = s.balance type id := by
  change s.stored type id + s.pending type id + flusher.inFlight type id = _
  rw [h]
  rfl

theorem sum_eraseIdx {rows : List Pending} {pick : Nat} {row : Pending}
    (h : rows[pick]? = some row) :
    ((rows.eraseIdx pick).map (amountFor id)).sum + amountFor id row =
      (rows.map (amountFor id)).sum := by
  obtain ⟨hl, rfl⟩ := List.getElem?_eq_some_iff.mp h
  have hp := ((List.getElem_cons_eraseIdx_perm hl).map (amountFor id)).sum_eq
  rw [List.map_cons, List.sum_cons] at hp
  omega

theorem balance_swapped {types : List BatchUpdateType} (h : s.flusher.inFlight type id = 0) :
    { s.withStore taken (.empty _) with
      flusher := .ranging taken (s.batchUpdateStores taken).rows types }.balance type id =
        s.balance type id := by
  have hp := pending_withStore s type taken id (.empty _)
  change s.stored type id + (s.withStore taken (.empty _)).pending type id +
    (if type = taken then (s.batchUpdateStores taken).total (amountFor id) else 0) = _
  unfold balance
  rw [hp, h]
  by_cases ht : type = taken
  · subst ht
    have he : (Table.empty Pending.id).total (amountFor id) = 0 := rfl
    rw [if_pos rfl, if_pos rfl, he, total_amountFor (s.batchUpdateStores type), Int.add_zero,
      Int.add_zero]
    rfl
  · rw [if_neg ht, if_neg ht]

theorem balance_written {rows : List Pending} {types : List BatchUpdateType} {pick : Nat}
    {fault : Fault} {row : Pending} (hf : s.flusher = .ranging taken rows types)
    (hr : rows[pick]? = some row) (hfl : type = taken → row.value ≠ 0 → fault = none) :
    { s.updateRow fault taken row with
      flusher := .ranging taken (rows.eraseIdx pick) types }.balance type id =
        s.balance type id := by
  have he := sum_eraseIdx id hr
  have hs : (s.updateRow fault taken row).stored type id =
      s.stored type id + if type = taken then amountFor id row else 0 := by
    cases fault with
    | none => exact updateRow_stored s type taken id row
    | some e =>
      by_cases ht : type = taken
      · have hz : row.value = 0 := by
          by_contra hn
          cases hfl ht hn
        rw [if_pos ht, amountFor, hz, ite_self, Int.add_zero]
        rfl
      · rw [if_neg ht, Int.add_zero]
        rfl
  change (s.updateRow fault taken row).stored type id +
    (s.updateRow fault taken row).pending type id +
      (if type = taken then ((rows.eraseIdx pick).map (amountFor id)).sum else 0) =
    s.stored type id + s.pending type id + s.flusher.inFlight type id
  rw [hs, updateRow_pending, hf, Flusher.inFlight]
  split
  · omega
  · omega

theorem flush_balance {pick : Nat} {fault : Fault} (h : RowUpdateSucceeds s type pick fault) :
    (s.flush pick fault).balance type id = s.balance type id := by
  unfold flush
  split
  · rename_i hf
    exact balance_moved s type id (by rw [hf]; rfl)
  · rename_i hf
    exact balance_moved s type id (by rw [hf]; rfl)
  · rename_i hf
    split
    · exact balance_moved s type id (by rw [hf]; rfl)
    · exact balance_moved s type id (by rw [hf]; rfl)
  · rename_i hf
    exact balance_moved s type id (by rw [hf]; rfl)
  · rename_i taken types hf
    exact balance_swapped s type taken id (by rw [hf]; rfl)
  · rename_i taken types hf
    exact balance_moved s type id (by rw [hf]; simp [Flusher.inFlight])
  · rename_i taken rows types _ hf
    split
    · rfl
    rename_i row hr
    refine balance_written s type taken id hf hr ?_
    rintro rfl hv
    exact h rows types row hf hr hv

end

inductive BatchOp where
  | increaseUser (id : Int) (quota : Nat)
  | decreaseUser (id : Int) (quota : Nat)
  | increaseToken (id : Int) (quota : Nat)
  | decreaseToken (id : Int) (quota : Nat)
  | useUserQuota (id quota : Int)
  | useChannelQuota (id quota : Int)
  | flush (pick : Nat) (fault : Fault)

def batchStep (s : BatchState) : BatchOp → BatchState
  | .increaseUser id quota => (increaseUserQuota true none id quota false s).2
  | .decreaseUser id quota => (decreaseUserQuota true none id quota false s).2
  | .increaseToken id quota => (increaseTokenQuota true none id quota s).2
  | .decreaseToken id quota => (decreaseTokenQuota true none id quota s).2
  | .useUserQuota id quota => updateUserUsedQuotaAndRequestCount id quota s
  | .useChannelQuota id quota => updateChannelUsedQuota id quota s
  | .flush pick fault => s.flush pick fault

def BatchOp.change (type : BatchUpdateType) (id : Int) : BatchOp → Int
  | .increaseUser user quota => if type = .userQuota ∧ user = id then quota else 0
  | .decreaseUser user quota => if type = .userQuota ∧ user = id then -quota else 0
  | .increaseToken token quota => if type = .tokenQuota ∧ token = id then quota else 0
  | .decreaseToken token quota => if type = .tokenQuota ∧ token = id then -quota else 0
  | .useUserQuota user quota =>
    (if type = .usedQuota ∧ user = id then quota else 0) +
      if type = .requestCount ∧ user = id then 1 else 0
  | .useChannelQuota channel quota => if type = .channelUsedQuota ∧ channel = id then quota else 0
  | .flush _ _ => 0

def BatchOp.UpdatesSucceed (type : BatchUpdateType) (s : BatchState) : BatchOp → Prop
  | .flush pick fault => RowUpdateSucceeds s type pick fault
  | _ => True

theorem batchStep_balance {type : BatchUpdateType} {id : Int} (s : BatchState) (op : BatchOp)
    (h : op.UpdatesSucceed type s) :
    (batchStep s op).balance type id = s.balance type id + op.change type id := by
  have hr : ∀ (taken : BatchUpdateType) (key value : Int) (quota : Nat) (direct),
      (quotaCall true taken key quota value direct s).2.balance type id =
        s.balance type id + if type = taken ∧ key = id then value else 0 := by
    intro taken key value quota direct
    rw [quotaCall, if_neg (by omega), if_pos rfl]
    exact addNewRecord_balance s type taken id key value
  cases op with
  | increaseUser user quota => exact hr .userQuota user quota quota _
  | decreaseUser user quota => exact hr .userQuota user (-quota) quota _
  | increaseToken token quota => exact hr .tokenQuota token quota quota _
  | decreaseToken token quota => exact hr .tokenQuota token (-quota) quota _
  | useUserQuota user quota =>
    rw [batchStep, updateUserUsedQuotaAndRequestCount, addNewRecord_balance, addNewRecord_balance,
      Int.add_assoc]
    rfl
  | useChannelQuota channel quota => exact addNewRecord_balance s type .channelUsedQuota id channel quota
  | flush pick fault =>
    rw [BatchOp.change, Int.add_zero]
    exact flush_balance s type id h

theorem batchRun_balance {db : Database} {ops : List BatchOp} {type : BatchUpdateType}
    (h : Along batchStep (fun s op => op.UpdatesSucceed type s) (.start db) ops)
    (hi : (run batchStep (.start db) ops).flusher = .idle) (id : Int) :
    (run batchStep (.start db) ops).stored type id +
        (run batchStep (.start db) ops).pending type id =
      (start db).stored type id + (ops.map (BatchOp.change type id)).sum := by
  have hr := run_measure (m := fun s => s.balance type id) (w := fun _ op => op.change type id)
    batchStep_balance h
  rw [sumAlong_const, balance, hi] at hr
  have hs : (start db).balance type id = (start db).stored type id := by
    change (start db).stored type id + 0 + 0 = _
    omega
  rw [hs, Flusher.inFlight_idle, Int.add_zero] at hr
  exact hr

/-- As long as no row update of a flush fails, the stored quota and the pending amount account for
every call. -/
theorem batched_quota_conserved (db : Database) (ops : List BatchOp)
    (hUsers : Along batchStep (fun s op => op.UpdatesSucceed .userQuota s) (.start db) ops)
    (hTokens : Along batchStep (fun s op => op.UpdatesSucceed .tokenQuota s) (.start db) ops)
    (hIdle : (run batchStep (.start db) ops).flusher = .idle) (id : Int) :
    ((run batchStep (.start db) ops).db.users id).quota +
        (run batchStep (.start db) ops).pending .userQuota id =
      (db.users id).quota + (ops.map (BatchOp.change .userQuota id)).sum ∧
    ((run batchStep (.start db) ops).db.tokens id).remainQuota +
        (run batchStep (.start db) ops).pending .tokenQuota id =
      (db.tokens id).remainQuota + (ops.map (BatchOp.change .tokenQuota id)).sum :=
  ⟨batchRun_balance hUsers hIdle id, batchRun_balance hTokens hIdle id⟩

def flushTwo (fault : Fault) : List BatchOp :=
  List.replicate 3 (.flush 0 none) ++ .flush 0 fault :: List.replicate 2 (.flush 0 none) ++
    .flush 0 fault :: List.replicate 8 (.flush 0 none)

def topUpAndSpend : List BatchOp := [.increaseUser 7 5, .decreaseUser 7 2, .decreaseToken 3 2]

theorem batched_quota_flushed :
    let s := run batchStep (.start .initial) (topUpAndSpend ++ flushTwo none)
    (s.db.users 7).quota + s.pending .userQuota 7 = 3 ∧
      (s.db.tokens 7).remainQuota + s.pending .tokenQuota 7 = 0 := by
  refine batched_quota_conserved .initial (topUpAndSpend ++ flushTwo none) ?_ ?_ (by decide) 7
  · simp [topUpAndSpend, flushTwo, List.replicate, BatchOp.UpdatesSucceed, RowUpdateSucceeds]
  · simp [topUpAndSpend, flushTwo, List.replicate, BatchOp.UpdatesSucceed, RowUpdateSucceeds]

theorem batched_quota_lost :
    let s := run batchStep (.start .initial) (topUpAndSpend ++ flushTwo (some "database is locked"))
    s.flusher = .idle ∧ (s.db.users 7).quota = 0 ∧ s.pending .userQuota 7 = 0 ∧
      ((topUpAndSpend ++ flushTwo (some "database is locked")).map
        (BatchOp.change .userQuota 7)).sum = 3 := by
  decide

end DeepRouter.Quota
