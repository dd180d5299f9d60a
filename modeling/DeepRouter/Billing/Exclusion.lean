import DeepRouter.Billing.Conservation

/-! # Settlement and refund exclude each other -/

namespace DeepRouter.Billing

open Store Atomic KeyedTable Subscription Runs BillingSession

inductive SessionOp where
  | reserve (calls : ReserveCalls) (target : Int)
  | settle (calls : SettleCalls) (actual : Int)
  | refund (calls : RefundCalls)

def sessionStep (ctx : Context) (state : BillingSession × Database) :
    SessionOp → BillingSession × Database
  | .reserve calls target => reserveStep ctx state (calls, target)
  | .settle calls actual =>
    ((settle calls actual state.1 state.2).session, (settle calls actual state.1 state.2).db)
  | .refund calls => ((refund calls state.1 state.2).session, (refund calls state.1 state.2).db)

def Succeeds (ctx : Context) (state : BillingSession × Database) : SessionOp → Prop
  | .reserve calls target => (reserve ctx calls target state.1 state.2).result = .ok ()
  | .settle calls actual => (settle calls actual state.1 state.2).result = .ok ()
  | .refund calls => (∀ i, (calls.attempts i).2 = {}) ∧ (refund calls state.1 state.2).logs = []

def SettlesHeld (state : BillingSession × Database) : SessionOp → Prop
  | .settle _ actual =>
    state.1.refunded = true → state.1.settled = false → actual = state.1.preConsumedQuota
  | _ => True

def SessionOp.isTerminal : SessionOp → Bool
  | .reserve _ _ => false
  | .settle _ _ => true
  | .refund _ => true

section

variable {ctx : Context} {state : BillingSession × Database} {s : BillingSession} {db : Database}

theorem reserve_ok_logs {calls : ReserveCalls} {target : Int}
    (h : (reserve ctx calls target s db).result = .ok ()) :
    (reserve ctx calls target s db).logs = [] := by
  unfold reserve at h ⊢
  split
  · rfl
  rename_i ho
  rw [if_neg ho] at h
  dsimp only at h ⊢
  split
  · rfl
  rename_i hf
  rw [hf] at h
  dsimp only at h
  split
  · rename_i ht
    rw [ht] at h
    cases h
  · rfl

theorem refund_cases (calls : RefundCalls) (s : BillingSession) (db : Database) :
    (s.settled = false ∧ s.refunded = false ∧
      (refund calls s db).session = { s with refunded := true }) ∨
    ((refund calls s db).session = s ∧ (refund calls s db).db = db) := by
  unfold refund
  split
  · exact .inr ⟨rfl, rfl⟩
  · rename_i ho
    simp only [not_or, Bool.not_eq_true] at ho
    exact .inl ⟨ho.1, ho.2.1, rfl⟩

theorem closed_step {op : SessionOp} (hcl : state.1.settled = true ∨ state.1.refunded = true)
    (hOk : Succeeds ctx state op) (hh : SettlesHeld state op) :
    (sessionStep ctx state op).2 = state.2 ∧
      (sessionStep ctx state op).1.refunded = state.1.refunded ∧
      (state.1.settled = true → (sessionStep ctx state op).1.settled = true) := by
  obtain ⟨s, db⟩ := state
  cases op with
  | reserve calls target =>
    have hc := reserve_closed ctx calls target db hcl
    simp [sessionStep, reserveStep, hc]
  | settle calls actual =>
    have hc := reply_ok (show (settle calls actual s db).result = .ok () from hOk)
    have hs := settle_ok_settled hc
    refine ⟨?_, hs.refunded, fun _ => hs.settled⟩
    cases hdo : s.settled with
    | true =>
      change (settle calls actual s db).db = db
      rw [settle_settled calls actual db hdo]
    | false =>
      have hr : s.refunded = true := by simpa [hdo] using hcl
      exact settle_same hc (hh hr hdo)
  | refund calls =>
    rcases refund_cases calls s db with ⟨ho, hk, _⟩ | ⟨hse, hd⟩
    · simp [ho, hk] at hcl
    · simp [sessionStep, hse, hd]

theorem terminal_step {op : SessionOp} (ht : op.isTerminal = true)
    (ho : Succeeds ctx state op) (hm : (sessionStep ctx state op).2 ≠ state.2) :
    (sessionStep ctx state op).1.settled = true ∨ (sessionStep ctx state op).1.refunded = true := by
  obtain ⟨s, db⟩ := state
  cases op with
  | reserve calls target => cases ht
  | settle calls actual =>
    exact .inl (settle_ok_settled (reply_ok ho)).settled
  | refund calls =>
    rcases refund_cases calls s db with ⟨_, _, hs⟩ | ⟨_, hd⟩
    · simp [sessionStep, hs]
    · exact absurd hd hm

end

def Allowed (ctx : Context) (state : BillingSession × Database) (op : SessionOp) : Prop :=
  Succeeds ctx state op ∧ SettlesHeld state op

theorem closed_run {ctx : Context} {state : BillingSession × Database} {ops : List SessionOp}
    (hc : state.1.settled = true ∨ state.1.refunded = true)
    (h : Along (sessionStep ctx) (Allowed ctx) state ops) :
    Along (sessionStep ctx) (fun state op => (sessionStep ctx state op).2 = state.2) state ops := by
  refine along_imp (I := fun state => state.1.settled = true ∨ state.1.refunded = true) ?_ ?_ hc h
  · intro state op hst ha
    obtain ⟨_, hr, hs⟩ := closed_step hst ha.1 ha.2
    rcases hst with hst | hst
    · exact .inl (hs hst)
    · exact .inr (hr.trans hst)
  · intro state op hst ha
    exact (closed_step hst ha.1 ha.2).1

inductive Standing (start : Database) (debit : Int →+ Debits) (amounts : Int → Prop)
    (state : BillingSession × Database) : Prop where
  | held (h : Holding start state.1 state.2) (hd : sessionDebit state.1 = debit)
  | returned (hr : state.1.refunded = true) (h : Debited start state.2 0)
  | settled (actual : Int) (hs : state.1.settled = true) (hr : state.1.refunded = false)
      (ha : amounts actual) (h : Debited start state.2 (debit actual))

theorem standing_step {ctx : Context} {start : Database} {debit : Int →+ Debits}
    {amounts : Int → Prop} (state : BillingSession × Database) (op : SessionOp)
    (h : Standing start debit amounts state) (hal : Allowed ctx state op)
    (ham : ∀ calls actual, op = .settle calls actual → amounts actual) :
    Standing start debit amounts (sessionStep ctx state op) := by
  cases h with
  | held h hde =>
    obtain ⟨s, db⟩ := state
    cases op with
    | reserve calls target =>
      obtain ⟨hh, hsa⟩ := h.reserve (reply_silent (reserve_ok_logs hal.1))
      exact .held hh (hsa.trans hde)
    | settle calls actual =>
      have hc := reply_ok (show (settle calls actual s db).result = .ok () from hal.1)
      have hse := settle_ok_settled hc
      have hd := h.settle hc
      rw [hde] at hd
      exact .settled actual hse.settled (hse.refunded.trans h.refunded) (ham calls actual rfl) hd
    | refund calls =>
      obtain ⟨hcl, hsi⟩ := hal.1
      rcases refund_cases calls s db with ⟨_, _, hSes⟩ | ⟨hSes, hDb⟩
      · refine .returned ?_ (h.refund hcl (reply_silent hsi))
        simp [sessionStep, hSes]
      · refine .held ?_ ?_
        · simpa [sessionStep, hSes, hDb] using h
        · simpa [sessionStep, hSes] using hde
  | returned hr h =>
    obtain ⟨hDb, hk, _⟩ := closed_step (.inr hr) hal.1 hal.2
    refine .returned (hk.trans hr) ?_
    rw [hDb]
    exact h
  | settled actual hse hr ha h =>
    obtain ⟨hDb, hk, hs⟩ := closed_step (.inl hse) hal.1 hal.2
    refine .settled actual (hs hse) (hk.trans hr) ha ?_
    rw [hDb]
    exact h

theorem standing_run {ctx : Context} {start : Database} {state : BillingSession × Database}
    {ops : List SessionOp} (h : Holding start state.1 state.2)
    (ho : Along (sessionStep ctx) (Allowed ctx) state ops) :
    Standing start (sessionDebit state.1) (fun actual => ∃ calls, .settle calls actual ∈ ops)
      (run (sessionStep ctx) state ops) := by
  have hm : Along (sessionStep ctx) (fun _ op => op ∈ ops) state ops :=
    along_of_forall_mem state fun _ h => h
  refine run_invariant ?_ (.held h rfl) ops (along_and ho hm)
  rintro state op hs ⟨ha, hOp⟩
  refine standing_step state op hs ha ?_
  rintro calls actual rfl
  exact ⟨calls, hOp⟩

/-- After a settlement or a refund that moved a ledger no operation moves the store, provided that
no refunded session is settled at another amount. -/
theorem settle_refund_exclusive (ctx : Context) (calls : NewSessionCalls)
    (relayInfo : Option RelayInfo) (quota : Int) (db : Database) (s : BillingSession)
    (hQuota : 0 ≤ quota)
    (hNew : (newBillingSession ctx calls relayInfo quota db).result = .ok s)
    (hLogs : (newBillingSession ctx calls relayInfo quota db).logs = [])
    (ops : List SessionOp)
    (hOps : Along (sessionStep ctx) (Allowed ctx)
      (s, (newBillingSession ctx calls relayInfo quota db).db) ops) :
    (∀ first op rest, ops = first ++ op :: rest → op.isTerminal = true →
      let before := run (sessionStep ctx) (s, (newBillingSession ctx calls relayInfo quota db).db) first
      let after := sessionStep ctx before op
      debits after.2 ≠ debits before.2 →
      Along (sessionStep ctx) (fun state op => (sessionStep ctx state op).2 = state.2) after rest) ∧
    ∀ s' db', run (sessionStep ctx) (s, (newBillingSession ctx calls relayInfo quota db).db) ops =
        (s', db') →
      (s.funding.source = .subscription → db.records.find? s.relayInfo.requestId = none) →
      Quiet db db' →
      ∃ net, Charged (debits db) db' s net ∧
        (s'.settled = false → s'.refunded = false → net = s'.preConsumedQuota) ∧
        (s'.refunded = true → net = 0) ∧
        (s'.settled = true → s'.refunded = false → ∃ calls, .settle calls net ∈ ops) := by
  refine ⟨?_, ?_⟩
  · rintro first op rest rfl ht before after hm
    obtain ⟨hfs, hOp, hr⟩ := along_append.mp hOps
    refine closed_run (terminal_step ht hOp.1 ?_) hr
    intro hsa
    exact hm (congrArg debits hsa)
  · intro s' db' hru hf hq
    have ho := (newBillingSession_creates ctx calls hQuota db relayInfo).opened s hNew hLogs hf
    have hs := standing_run ho.holding hOps
    rw [hru] at hs
    cases hs with
    | held h hde =>
      have hd := h.debited.exact hq
      rw [hde] at hd
      refine ⟨s'.preConsumedQuota, charged_of_debits hd, fun _ _ => rfl, ?_, ?_⟩
      · intro hrf
        exact absurd (h.refunded.symm.trans hrf) Bool.false_ne_true
      · intro hse
        exact absurd (h.settled.symm.trans hse) Bool.false_ne_true
    | returned hrf h =>
      refine ⟨0, ?_, ?_, fun _ => rfl, ?_⟩
      · apply charged_of_debits
        rw [map_zero]
        exact h.exact hq
      · intro _ hop
        exact absurd (hop.symm.trans hrf) Bool.false_ne_true
      · intro _ hop
        exact absurd (hop.symm.trans hrf) Bool.false_ne_true
    | settled actual hse hop ha h =>
      refine ⟨actual, charged_of_debits (h.exact hq), ?_, ?_, fun _ _ => ha⟩
      · intro hn
        exact absurd (hn.symm.trans hse) Bool.false_ne_true
      · intro hrf
        exact absurd (hop.symm.trans hrf) Bool.false_ne_true

def walletUser : Database := Database.initial.updateUser 7 fun user => { user with quota := 500 }

def walletInfo : RelayInfo := { requestInfo "a" with billingPreference := "wallet_only" }

def walletSession : BillingSession where
  relayInfo := { walletInfo with
    userQuota := 500, finalPreConsumedQuota := 100, billingSource := .wallet }
  funding := .wallet { userId := 7, consumed := 100 }
  preConsumedQuota := 100
  tokenConsumed := 100

theorem settle_refund_exclusive_after_refund :
    let reply := newBillingSession plainContext plainCalls (some walletInfo) 100 walletUser
    let final := run (sessionStep plainContext) (walletSession, reply.db)
      [.refund plainRefund, .settle {} 100, .refund plainRefund]
    debits final.2 = debits walletUser := by
  intro reply final
  have hn : reply.result = .ok walletSession := by decide
  have hl : reply.logs = [] := by decide
  have ho : Along (sessionStep plainContext) (Allowed plainContext) (walletSession, reply.db)
      [.refund plainRefund, .settle {} 100, .refund plainRefund] := by
    refine ⟨⟨⟨fun _ => rfl, ?_⟩, trivial⟩, ⟨?_, fun _ _ => rfl⟩, ⟨⟨fun _ => rfl, ?_⟩, trivial⟩, trivial⟩
    · decide
    · change (settle _ _ _ _).result = .ok ()
      decide
    · decide
  obtain ⟨net, hd, _, hr, _⟩ := (settle_refund_exclusive plainContext plainCalls
    (some walletInfo) 100 walletUser walletSession (by decide) hn hl _ ho).2 final.1 final.2 rfl
    (fun hs => by cases hs) ⟨rfl, by decide⟩
  rw [hd.debits, hr (by decide), map_zero, add_zero]

theorem refunded_session_settled_again :
    let reply := newBillingSession plainContext plainCalls (some walletInfo) 100 walletUser
    let refunded := sessionStep plainContext (walletSession, reply.db) (.refund plainRefund)
    let final := sessionStep plainContext refunded (.settle {} 30)
    reply.result = .ok walletSession ∧ (settle {} 30 refunded.1 refunded.2).result = .ok () ∧
      (refunded.2.users 7).quota = 500 ∧ (refunded.2.tokens 3).remainQuota = 0 ∧
      (final.2.users 7).quota = 570 ∧ (final.2.tokens 3).remainQuota = 70 := by
  decide

end DeepRouter.Billing
