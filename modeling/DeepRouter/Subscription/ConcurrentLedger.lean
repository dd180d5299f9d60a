import DeepRouter.Subscription.Concurrent
import DeepRouter.Subscription.QuotaBounds

/-! # The used amount under concurrent ledger calls -/

namespace DeepRouter.Subscription

open Store GoStrings KeyedTable ReadCommitted Runs MachineInt List LedgerStore

namespace Cause

def preConsumed : Cause → Int
  | .preConsume amount => amount.toInt
  | _ => 0

def settled : Cause → Int
  | .delta amount => amount.toInt
  | _ => 0

def refunded : Cause → Int
  | .refund amount => amount.toInt
  | _ => 0

def Clamped (used : Int64) : Cause → Prop
  | .delta amount => used + amount < 0
  | .refund amount => used + -amount < 0
  | _ => False

instance (used : Int64) (cause : Cause) : Decidable (cause.Clamped used) := by
  unfold Cause.Clamped
  split <;> infer_instance

def Computes (found saved : UserSubscription) : Cause → Prop
  | .schedule => saved.amountUsed = found.amountUsed
  | .reset => True
  | .preConsume amount =>
    0 < amount ∧ saved.amountUsed = found.amountUsed + amount ∧
      (0 < found.amountTotal → amount ≤ found.amountTotal - found.amountUsed)
  | .delta amount =>
    saved.amountUsed = settledUsed found.amountUsed amount ∧
      (0 < found.amountTotal → saved.amountUsed ≤ found.amountTotal)
  | .refund amount =>
    0 < amount ∧ saved.amountUsed = settledUsed found.amountUsed (-amount) ∧
      (0 < found.amountTotal → saved.amountUsed ≤ found.amountTotal)

end Cause

namespace LedgerWrite

def Computed : LedgerWrite → Prop
  | .saveSub cause found saved =>
    saved.id = found.id ∧ saved.amountTotal = found.amountTotal ∧ cause.Computes found saved
  | _ => True

/-- The save of subscription `id` neither starts a period nor is cut off at zero. -/
def Plain (id : Int) : LedgerWrite → Prop
  | .saveSub cause found saved => saved.id = id → cause ≠ .reset ∧ ¬cause.Clamped found.amountUsed
  | _ => True

/-- The stored row of subscription `id` still has the amounts from which its save was computed. -/
def Current (id : Int) (stored : Option UserSubscription) : LedgerWrite → Prop
  | .saveSub _ found saved => saved.id = id → ∀ sub ∈ stored,
    sub.amountUsed = found.amountUsed ∧ sub.amountTotal = found.amountTotal
  | _ => True

instance (id : Int) (w : LedgerWrite) : Decidable (w.Plain id) := by
  unfold LedgerWrite.Plain
  split <;> infer_instance

instance (id : Int) (stored : Option UserSubscription) (w : LedgerWrite) :
    Decidable (w.Current id stored) := by
  unfold LedgerWrite.Current
  split <;> infer_instance

end LedgerWrite

section

abbrev allComputed (rows : List LedgerWrite) : Prop := ∀ row ∈ rows, row.Computed

abbrev anyResult (_ : List LedgerWrite) (_ : Except Err (Option SubscriptionPreConsumeResult)) :
    Prop := True

variable {log pending : List LedgerWrite}

theorem failTx_spec (e : Err) : (failTx e).Spec allComputed anyResult log pending := trivial

theorem commitTx_spec (h : allComputed pending) (result : Option SubscriptionPreConsumeResult) :
    (commitTx result).Spec allComputed anyResult log pending :=
  ⟨h, trivial, fun _ => trivial⟩

theorem allComputed_nil : allComputed [] := fun _ h => absurd h not_mem_nil

theorem allComputed_append (h : allComputed pending) (row : LedgerWrite) (hr : row.Computed) :
    allComputed (pending ++ [row]) := by
  intro other ho
  obtain hol | hn := mem_append.mp ho
  · exact h other hol
  · rw [mem_singleton.mp hn]
    exact hr

theorem chargeCandidateProg_spec {env : Env} {rid : String} {uid : Int} {am : Int64}
    {sub : UserSubscription} (h : allComputed pending) (ha : 0 < am)
    (hr : ¬(0 < sub.amountTotal ∧ sub.amountTotal - sub.amountUsed < am)) :
    (chargeCandidateProg env rid uid am sub).Spec allComputed anyResult log
      pending := by
  have hre := allComputed_append h (.createRecord (consumedRecord env rid uid am sub)) trivial
  refine ⟨⟨commitTx_spec (allComputed_append hre _ ?_) _, fun e => failTx_spec e⟩, ?_⟩
  · refine ⟨rfl, rfl, ha, rfl, ?_⟩
    intro ht
    exact Int64.not_lt.mp fun hl => hr ⟨ht, hl⟩
  intro e answer
  cases answer with
  | error _ => exact failTx_spec e
  | ok s =>
    dsimp only
    split
    · split
      · exact failTx_spec _
      · exact commitTx_spec h _
    · exact failTx_spec e

theorem preConsumeCandidatesProg_spec {env : Env} {rid : String} {uid : Int}
    {am : Int64} (ha : 0 < am) (cs : List UserSubscription) (h : allComputed pending) :
    (preConsumeCandidatesProg env rid uid am cs).Spec allComputed anyResult log
      pending := by
  induction cs generalizing pending with
  | nil => exact failTx_spec _
  | cons candidate rest ih =>
    have hc : ∀ (rows : List LedgerWrite) (sub : UserSubscription), allComputed rows →
        Prog.Spec allComputed anyResult log rows
          (if 0 < sub.amountTotal ∧ sub.amountTotal - sub.amountUsed < am then
            preConsumeCandidatesProg env rid uid am rest
          else chargeCandidateProg env rid uid am sub) := by
      intro rows sub hr
      exact Prog.spec_ite (fun _ => ih hr) (chargeCandidateProg_spec hr ha)
    simp only [preConsumeCandidatesProg]
    split
    · exact failTx_spec _
    split
    · exact hc _ _ h
    · rename_i plan _ sub ho
      obtain ⟨next, last, rfl⟩ := resetOutcome_scheduled ho
      exact ⟨hc _ _ (allComputed_append h _ ⟨rfl, rfl, rfl⟩), fun e => failTx_spec e⟩
    · rename_i plan _ sub ho
      obtain ⟨next, last, rfl⟩ := resetOutcome_reset ho
      exact ⟨hc _ _ (allComputed_append h _ ⟨rfl, rfl, trivial⟩), fun e => failTx_spec e⟩
    · exact failTx_spec _

theorem preConsumeProg_spec (env : Env) (rid : String) (uid : Int) (am : Int64) :
    (preConsumeProg env rid uid am).Spec allComputed anyResult [] [] := by
  rw [preConsumeProg]
  generalize trimSpace rid = trimmed
  refine Prog.spec_ite (fun _ => trivial) fun _ => ?_
  refine Prog.spec_ite (fun _ => trivial) fun _ => ?_
  refine Prog.spec_ite (fun _ => trivial) fun ha => ?_
  rintro (e | s)
  · exact failTx_spec e
  dsimp only
  split
  · refine Prog.spec_ite (fun _ => failTx_spec _) fun _ => ?_
    rintro (e | s)
    · exact failTx_spec e
    dsimp only
    split
    · exact failTx_spec _
    · exact commitTx_spec allComputed_nil _
  · rintro (e | s)
    · exact failTx_spec _
    dsimp only
    split
    · exact failTx_spec _
    · exact preConsumeCandidatesProg_spec (Int64.not_le.mp ha) _ allComputed_nil

theorem postConsumeProg_spec {cause : Cause} {delta : Int64} (userSubscriptionId : Int)
    {next : Except Err Unit → LedgerProg} (hc : ∀ found saved : UserSubscription,
      saved.amountUsed = settledUsed found.amountUsed delta →
      (0 < found.amountTotal → saved.amountUsed ≤ found.amountTotal) → cause.Computes found saved)
    (hn : ∀ log answer, (next answer).Spec allComputed anyResult log []) :
    (postConsumeProg cause userSubscriptionId delta next).Spec allComputed anyResult log [] := by
  rw [postConsumeProg]
  refine Prog.spec_ite (fun _ => hn _ _) fun _ => ?_
  refine Prog.spec_ite (fun _ => hn _ _) fun _ => ?_
  rintro (e | s)
  · exact hn _ _
  dsimp only
  split
  · exact hn _ _
  refine Prog.spec_ite (fun _ => hn _ _) fun ht => ?_
  refine ⟨⟨?_, hn _ _, fun e => hn _ _⟩, fun e => hn _ _⟩
  refine allComputed_append allComputed_nil _ ⟨rfl, rfl, hc _ _ rfl ?_⟩
  intro hp
  exact Int64.not_lt.mp fun hl => ht ⟨hp, hl⟩

theorem markRefundedProg_spec (env : Env) (rec : SubscriptionPreConsumeRecord) :
    (markRefundedProg env rec).Spec allComputed anyResult log [] :=
  ⟨commitTx_spec (allComputed_append allComputed_nil (.saveRecord _) trivial) _,
    fun e => failTx_spec e⟩

theorem refundProg_spec (env : Env) (rid : String) :
    (refundProg env rid).Spec allComputed anyResult [] [] := by
  rw [refundProg]
  generalize trimSpace rid = trimmed
  refine Prog.spec_ite (fun _ => trivial) fun _ => ?_
  rintro (e | s)
  · exact failTx_spec e
  dsimp only
  split
  · exact failTx_spec _
  refine Prog.spec_ite (fun _ => commitTx_spec allComputed_nil _) fun _ => ?_
  refine Prog.spec_ite (fun _ => markRefundedProg_spec env _) fun hp => ?_
  apply postConsumeProg_spec
  · intro found saved hu ht
    exact ⟨Int64.not_le.mp hp, hu, ht⟩
  · rintro log (e | _)
    · exact failTx_spec e
    · exact markRefundedProg_spec env _

theorem ledgerCall_spec (call : LedgerCall) : call.prog.Spec allComputed anyResult [] [] := by
  cases call with
  | preConsume env requestId userId amount =>
    rw [LedgerCall.prog]
    exact preConsumeProg_spec env requestId userId amount
  | postConsume userSubscriptionId delta =>
    rw [LedgerCall.prog]
    apply postConsumeProg_spec
    · exact fun _ _ hu ht => ⟨hu, ht⟩
    · rintro log (e | _)
      · trivial
      · trivial
  | refund env requestId =>
    rw [LedgerCall.prog]
    exact refundProg_spec env requestId

end

def LedgerStore.total (s : LedgerStore) (id : Int) (f : Cause → Int) : Int :=
  ((s.causes.filter (·.1 = id)).map fun saved => f saved.2).sum

theorem total_saveSub (s : LedgerStore) (id : Int) (f : Cause → Int) (cause : Cause)
    (found saved : UserSubscription) :
    (LedgerWrite.apply s (.saveSub cause found saved)).total id f =
      s.total id f + if saved.id = id then f cause else 0 := by
  simp only [total, LedgerWrite.apply, filter_append, map_append, sum_append]
  congr 1
  split
  · rename_i hi
    simp [hi]
  · rename_i hi
    simp [hi]

def LedgerStore.net (s : LedgerStore) (id : Int) : Int :=
  s.total id Cause.preConsumed + s.total id Cause.settled - s.total id Cause.refunded

theorem settledUsed_of_not_lt {used delta : Int64} (h : ¬used + delta < 0) :
    settledUsed used delta = used + delta := if_neg h

namespace Cause.Computes

variable {cause : Cause} {found saved : UserSubscription}

theorem moves (h : cause.Computes found saved) (hr : cause ≠ .reset)
    (hc : ¬cause.Clamped found.amountUsed) :
    let moved := cause.preConsumed + cause.settled - cause.refunded
    saved.amountUsed = found.amountUsed + toInt64 moved ∧
      (0 < found.amountTotal → found.amountUsed.toInt + moved ≤ saved.amountUsed.toInt ∧
        saved.amountUsed.toInt ≤ max found.amountTotal.toInt found.amountUsed.toInt) := by
  cases cause with
  | schedule =>
    have hu : saved.amountUsed = found.amountUsed := h
    simp [preConsumed, settled, refunded, hu]
  | reset => exact absurd rfl hr
  | preConsume amount =>
    obtain ⟨ha, hu, hco⟩ := h
    simp only [preConsumed, settled, refunded, add_zero, sub_zero, toInt64_toInt]
    refine ⟨hu, fun ht => ?_⟩
    obtain ⟨hs, hl⟩ := toInt_add_of_covered ht ha (hco ht)
    rw [hu, hs]
    exact ⟨le_rfl, hl.trans (le_max_left _ _)⟩
  | delta amount =>
    obtain ⟨hu, hl⟩ := h
    rw [settledUsed_of_not_lt hc] at hu
    simp only [preConsumed, settled, refunded, zero_add, sub_zero, toInt64_toInt]
    refine ⟨hu, fun ht => ⟨?_, (le_iff.mp (hl ht)).trans (le_max_left _ _)⟩⟩
    rw [hu]
    exact toInt_add_le hc
  | refund amount =>
    obtain ⟨ha, hu, hl⟩ := h
    rw [settledUsed_of_not_lt hc] at hu
    simp only [preConsumed, settled, refunded, zero_sub, add_zero, ← toInt_neg_of_pos ha,
      toInt64_toInt]
    refine ⟨hu, fun ht => ⟨?_, (le_iff.mp (hl ht)).trans (le_max_left _ _)⟩⟩
    rw [hu]
    exact toInt_add_le hc

end Cause.Computes

section

variable {id : Int} {sub : UserSubscription}

/-- The row of subscription `id`, which was `sub`, holds what the committed calls have added. -/
def Exact (id : Int) (sub : UserSubscription) (s : LedgerStore) : Prop :=
  ∃ now, s.db.subs.find? id = some now ∧ now.amountTotal = sub.amountTotal ∧
    now.amountUsed = sub.amountUsed + toInt64 (s.net id) ∧
    (0 < sub.amountTotal → sub.amountUsed.toInt + s.net id ≤ now.amountUsed.toInt ∧
      now.amountUsed.toInt ≤ max sub.amountTotal.toInt sub.amountUsed.toInt)

/-- A save of subscription `id` is plain and finds the row from which it was computed. -/
def SavesCurrent (id : Int) (slot : Option UserSubscription × Option SubscriptionPreConsumeRecord)
    (row : LedgerWrite) : Prop :=
  row.Plain id ∧ row.Current id slot.1

theorem Exact.of_initial {db : Database} (h : db.subs.find? id = some sub) : Exact id sub ⟨db, []⟩ :=
  ⟨sub, h, rfl, by simp [net, total], by simp [net, total]⟩

theorem Exact.saveSub {s : LedgerStore} (hs : Exact id sub s) {cause : Cause}
    {found saved : UserSubscription} (hi : saved.id = id)
    (hco : (LedgerWrite.saveSub cause found saved).Computed)
    (hp : (LedgerWrite.saveSub cause found saved).Plain id)
    (hcu : (LedgerWrite.saveSub cause found saved).Current id (s.db.subs.find? id)) :
    Exact id sub (LedgerWrite.apply s (.saveSub cause found saved)) := by
  obtain ⟨now, hfi, ht, hu, he⟩ := hs
  obtain ⟨-, hsa, hcom⟩ := hco
  obtain ⟨hr, hc⟩ := hp hi
  obtain ⟨hno, hn⟩ := hcu hi now hfi
  obtain ⟨hm, hb⟩ := hcom.moves hr hc
  refine ⟨saved, ?_, ?_, ?_, ?_⟩
  · simp only [LedgerWrite.apply, Cause.count_subs, Database.saveSub]
    exact Table.find?_save_of_key hfi hi
  · rw [hsa, ← hn, ht]
  · rw [hm, ← hno, hu]
    simp only [net, total_saveSub, if_pos hi, map_add, map_sub]
    abel
  intro hpo
  obtain ⟨hl, hh⟩ := he hpo
  rw [← hno, ← hn, ht] at hb
  have hbo := hb hpo
  simp only [net, total_saveSub, if_pos hi] at hl ⊢
  omega

theorem Exact.apply {s : LedgerStore} (hs : Exact id sub s) {row : LedgerWrite}
    (hc : row.Computed) (hf : Fits ledgerEngine (SavesCurrent id) s row) :
    Exact id sub (row.apply s) := by
  obtain ⟨hp, hcu⟩ := hf
  cases row with
  | saveSub cause found saved =>
    by_cases hi : saved.id = id
    · subst hi
      exact hs.saveSub rfl hc hp hcu
    have hk : (LedgerWrite.apply s (.saveSub cause found saved)).db.subs.find? id =
        s.db.subs.find? id := by
      simp only [LedgerWrite.apply, Cause.count_subs, Database.saveSub, Table.find?_save_of_ne hi]
    simpa only [Exact, net, total_saveSub, if_neg hi, add_zero, hk] using hs
  | createRecord record => exact hs
  | saveRecord record => exact hs

theorem Exact.transaction (s : LedgerStore) (rows : List LedgerWrite) (hs : Exact id sub s)
    (hc : allComputed rows) (hf : Along ledgerEngine.apply (Fits ledgerEngine
      (SavesCurrent id)) s rows) : Exact id sub (run ledgerEngine.apply s rows) := by
  refine run_invariant (fun s row hs h => hs.apply h.1 h.2) hs rows (along_and ?_ hf)
  exact along_of_forall_mem s hc

end

/-- No period of subscription `id` starts, and no change of it is cut off at zero. -/
def PlainEvent (id : Int) (s : LedgerState) (event : LedgerEvent) : Prop :=
  ∀ save ∈ s.executed ledgerEngine event, save.2.Plain id
deriving Decidable

/-- A call that saves subscription `id` sees the amounts that it has read before. -/
def CurrentEvent (id : Int) (s : LedgerState) (event : LedgerEvent) : Prop :=
  ∀ save ∈ s.executed ledgerEngine event,
    save.2.Current id ((s.view ledgerEngine save.1).db.subs.find? id)
deriving Decidable

theorem meets_of_current {id : Int} {s : LedgerState} {event : LedgerEvent}
    (hp : PlainEvent id s event) (hc : CurrentEvent id s event) :
    event.Meets ledgerEngine LedgerCall.prog allComputed anyResult (SavesCurrent id) s := by
  cases event with
  | start i call => exact ledgerCall_spec call
  | exec i fault =>
    intro session row he
    refine ⟨hp _ he, ?_⟩
    have hr := hc _ he
    cases row with
    | saveSub cause found saved =>
      intro hi
      subst hi
      exact hr rfl
    | createRecord record => trivial
    | saveRecord record => trivial

/-- Where every save finds the amounts from which it was computed, no update is lost, and the used
amount is exact just when the sum is in range. -/
theorem concurrent_ledger_exact (id : Int) (sub : UserSubscription) (db : Database)
    (hFind : db.subs.find? id = some sub) (events : List LedgerEvent)
    (hPlain : Along concurrentStep (PlainEvent id) (State.initial ⟨db, []⟩) events)
    (hCurrent : Along concurrentStep (CurrentEvent id) (State.initial ⟨db, []⟩) events) :
    let store := (run concurrentStep (State.initial ⟨db, []⟩) events).store
    ∃ now, store.db.subs.find? id = some now ∧
      (now.amountUsed.toInt = sub.amountUsed.toInt + store.net id ↔
        InRange (sub.amountUsed.toInt + store.net id)) ∧
      (0 < sub.amountTotal →
        store.net id ≤ max 0 (sub.amountTotal.toInt - sub.amountUsed.toInt)) := by
  have hm := along_mono (fun _ _ h => meets_of_current h.1 h.2) (along_and hPlain hCurrent)
  have hr : Exact id sub (run concurrentStep (State.initial ⟨db, []⟩) events).store :=
    (run_store Exact.transaction (initial_all _) (Exact.of_initial hFind) hm).2
  obtain ⟨now, hn, -, hu, he⟩ := hr
  refine ⟨now, hn, toInt_eq_iff_inRange hu, ?_⟩
  intro ht
  obtain ⟨hl, hh⟩ := he ht
  omega

def hundredLeft : UserSubscription :=
  ⟨1, 7, 1, 100, 0, 0, 1000000, .active, "order", 0, 0, "", ""⟩

def hundredLeftDb : Database := { Database.initial with subs := ⟨[hundredLeft], by decide⟩ }

def statements (i n : Nat) : List LedgerEvent := List.replicate n (.exec i none)

-- the settlement reads the row after the pre-consume has saved it, and the refund reads it last
def inTurn : List LedgerEvent :=
  .start 0 (.preConsume (unlimitedEnv 2000) "a" 7 30) :: .start 1 (.postConsume 1 10) ::
    .start 2 (.refund (unlimitedEnv 3000) "a") ::
      (statements 0 5 ++ statements 2 1 ++ statements 1 3 ++ statements 2 5)

theorem concurrent_ledger_exact_in_turn :
    let store := (run concurrentStep (State.initial ⟨hundredLeftDb, []⟩) inTurn).store
    store.causes = [(1, .preConsume 30), (1, .delta 10), (1, .refund 30)] ∧
      ∃ now, store.db.subs.find? 1 = some now ∧ now.amountUsed.toInt = 0 + store.net 1 := by
  refine ⟨by decide +kernel, ?_⟩
  obtain ⟨now, hn, hu, -⟩ := concurrent_ledger_exact 1 hundredLeft hundredLeftDb
    (by decide +kernel) inTurn (by decide +kernel) (by decide +kernel)
  exact ⟨now, hn, hu.mpr (by decide +kernel)⟩

def startedRequests (events : List LedgerEvent) : List String :=
  events.filterMap fun
    | .start _ (.preConsume _ requestId _ _) => some requestId
    | _ => none

def startedRefunds (events : List LedgerEvent) : List String :=
  events.filterMap fun
    | .start _ (.refund _ requestId) => some requestId
    | _ => none

theorem concurrent_ledger_lost_update :
    ∃ (db : Database) (sub now : UserSubscription) (events : List LedgerEvent),
      let store := (run concurrentStep (State.initial ⟨db, []⟩) events).store
      db.subs.find? 1 = some sub ∧ store.db.subs.find? 1 = some now ∧
      (startedRequests events).Nodup ∧ (startedRefunds events).Nodup ∧
      Along concurrentStep (PlainEvent 1) (State.initial ⟨db, []⟩) events ∧
      now.amountUsed.toInt ≠ sub.amountUsed.toInt + store.net 1 ∧ 0 < sub.amountTotal ∧
      max 0 (sub.amountTotal.toInt - sub.amountUsed.toInt) < store.net 1 :=
  ⟨hundredLeftDb, hundredLeft, { hundredLeft with amountUsed := 60 },
    .start 0 (.preConsume (unlimitedEnv 2000) "a" 7 60) ::
      .start 1 (.preConsume (unlimitedEnv 2000) "b" 7 60) ::
        (statements 0 2 ++ statements 1 2 ++ statements 0 3 ++ statements 1 3),
    by decide +kernel⟩

end DeepRouter.Subscription
