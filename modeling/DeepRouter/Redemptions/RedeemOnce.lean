import DeepRouter.Redemptions.Redeem

/-! # A code is worth its quota once -/

namespace DeepRouter.Redemptions

open Store KeyedTable ReadCommitted Runs List

inductive Transaction : List RedemptionWrite → Prop
  | redeem (found saved : Redemption) (user : Int) (hf : found.status = .enabled)
      (hi : saved.id = found.id) (hs : saved.status = .used) :
      Transaction [.credit found.id user found.quota, .save found saved]
  | edit (found columns : Redemption) (hi : columns.id = found.id)
      (hSt : columns.status = found.status) : Transaction [.update found columns]

def RedemptionWrite.Credits (row : RedemptionWrite) (amount : Int) : Prop :=
  ∃ code user, row = .credit code user amount

def Settled (log : List RedemptionWrite) : Except Err RedemptionReply → Prop
  | .error _ => ∀ row ∈ log, ∀ amount, ¬row.Credits amount
  | .ok (.redeemed quota) => ∃ row ∈ log, row.Credits quota
  | .ok (.updated _) => ∀ row ∈ log, ∀ amount, ¬row.Credits amount

theorem settled_nil (e : Err) : Settled [] (.error e) := by
  intro row hr
  cases hr

theorem redeemFailed_spec (pending : List RedemptionWrite) :
    redeemFailed.Spec Transaction Settled [] pending := settled_nil errRedeemFailed

theorem redeemProg_spec (now : Int) (key : String) (uid : Int) :
    (redeemProg now key uid).Spec Transaction Settled [] [] := by
  rw [redeemProg]
  refine Prog.spec_ite (fun _ => settled_nil _) fun _ => ?_
  refine Prog.spec_ite (fun _ => settled_nil _) fun _ => ?_
  rintro (e | s)
  · exact redeemFailed_spec _
  dsimp only
  split
  · exact redeemFailed_spec _
  rename_i row _
  refine Prog.spec_ite (fun _ => redeemFailed_spec _) fun hs => ?_
  refine Prog.spec_ite (fun _ => redeemFailed_spec _) fun _ => ?_
  refine ⟨⟨⟨?_, ?_, fun e => settled_nil _⟩, fun e => redeemFailed_spec _⟩,
    fun e => redeemFailed_spec _⟩
  · exact .redeem row _ uid (not_not.mp hs) rfl rfl
  · exact ⟨_, mem_cons_self, row.id, uid, rfl⟩

theorem updateColumnsProg_spec {found cols : Redemption} (hi : cols.id = found.id)
    (hs : cols.status = found.status) :
    (updateColumnsProg found cols).Spec Transaction Settled [] [] := by
  refine ⟨⟨.edit found cols hi hs, ?_, fun e => settled_nil e⟩, fun e => settled_nil e⟩
  rintro row hr amount ⟨code, user, rfl⟩
  simp at hr

theorem updateRedemptionProg_spec (now : Int) (req : RedemptionRequest) :
    (updateRedemptionProg now "" req).Spec Transaction Settled [] [] := by
  rw [updateRedemptionProg]
  refine Prog.spec_ite (fun _ => settled_nil _) fun _ => ?_
  rintro (e | s)
  · exact settled_nil _
  dsimp only
  split
  · exact settled_nil _
  rw [if_pos rfl]
  split
  · exact settled_nil _
  · exact updateColumnsProg_spec rfl rfl

namespace RedemptionWrite

def Current (code : Int) (stored : Option Redemption) : RedemptionWrite → Prop
  | .credit _ _ _ => True
  | .save found saved => saved.id = code →
    ∀ row ∈ stored, row.status = found.status ∧ row.quota = found.quota
  | .update found columns => columns.id = code → ∀ row ∈ stored, row.status = found.status

instance (code : Int) (stored : Option Redemption) (row : RedemptionWrite) :
    Decidable (row.Current code stored) := by
  unfold RedemptionWrite.Current
  split <;> infer_instance

end RedemptionWrite

def FindsCurrent (code : Int) (slot : Option Redemption × Int) (row : RedemptionWrite) : Prop :=
  row.Current code slot.1

def RedemptionStore.creditsOf (s : RedemptionStore) (code : Int) : List Credit :=
  s.credits.filter (·.code = code)

def RedemptionStore.creditedTo (s : RedemptionStore) (user : Int) : Int :=
  ((s.credits.filter (·.user = user)).map Credit.amount).sum

def Once (code : Int) (s : RedemptionStore) : Prop :=
  ∃ row, s.codes.find? code = some row ∧
    (s.creditsOf code = [] ∨ row.status = .used ∧ ∃ credit, s.creditsOf code = [credit] ∧
      credit.quota = some credit.amount)

def Used (code : Int) (s : RedemptionStore) : Prop :=
  (s.codes.find? code).map Redemption.status = some .used
deriving Decidable

section

variable {code : Int} {s : RedemptionStore}

theorem creditsOf_credit (s : RedemptionStore) (id user am code : Int) :
    (RedemptionWrite.apply s (.credit id user am)).creditsOf code =
      s.creditsOf code ++ if id = code then
        [⟨id, user, am, (s.codes.find? id).map Redemption.quota⟩] else [] := by
  simp only [RedemptionStore.creditsOf, RedemptionWrite.apply, filter_append]
  congr 1
  split
  · rename_i h
    simp [h]
  · rename_i h
    simp [h]

theorem creditsOf_redeem (s : RedemptionStore) (found saved : Redemption) (user code : Int) :
    (run redemptionEngine.apply s
        [.credit found.id user found.quota, .save found saved]).creditsOf code =
      s.creditsOf code ++ if found.id = code then
        [⟨found.id, user, found.quota, (s.codes.find? found.id).map Redemption.quota⟩] else [] :=
  creditsOf_credit s found.id user found.quota code

theorem creditsOf_edit (s : RedemptionStore) (found cols : Redemption) (code : Int) :
    (run redemptionEngine.apply s [.update found cols]).creditsOf code = s.creditsOf code :=
  congrArg (List.filter _) (update_kept found s cols).2

theorem redeem_finds {found saved row : Redemption} {user : Int}
    (hr : s.codes.find? saved.id = some row)
    (hf : Along redemptionEngine.apply (Fits redemptionEngine (FindsCurrent saved.id)) s
      [.credit found.id user found.quota, .save found saved]) :
    row.status = found.status ∧ row.quota = found.quota :=
  hf.2.1 rfl row hr

theorem edit_finds {found cols row : Redemption} (hr : s.codes.find? cols.id = some row)
    (hf : Along redemptionEngine.apply (Fits redemptionEngine (FindsCurrent cols.id)) s
      [.update found cols]) : row.status = found.status :=
  hf.1 rfl row hr

theorem Once.transaction (s : RedemptionStore) (rows : List RedemptionWrite) (hs : Once code s)
    (hr : Transaction rows)
    (hfi : Along redemptionEngine.apply (Fits redemptionEngine (FindsCurrent code)) s rows) :
    Once code (run redemptionEngine.apply s rows) := by
  obtain ⟨row, hf, hcr⟩ := hs
  cases hr with
  | redeem found saved user hfn hi hsa =>
    rw [Once, creditsOf_redeem]
    by_cases hc : saved.id = code
    · subst hc
      obtain ⟨hSt, hq⟩ := redeem_finds hf hfi
      -- the row is enabled, so nothing has been credited for it before
      have hn : s.creditsOf saved.id = [] := by
        obtain hn | ⟨hu, -⟩ := hcr
        · exact hn
        · rw [hSt, hfn] at hu
          cases hu
      refine ⟨saved, Table.find?_save_self hf, .inr ⟨hsa, ?_⟩⟩
      rw [hn, if_pos hi.symm, ← hi, hf]
      exact ⟨_, rfl, congrArg some hq⟩
    · rw [if_neg (hi ▸ hc), append_nil]
      exact ⟨row, (Table.find?_save_of_ne hc).trans hf, hcr⟩
  | edit found columns hi hSt =>
    rw [Once, creditsOf_edit]
    by_cases hc : columns.id = code
    · subst hc
      have hfn := edit_finds hf hfi
      refine ⟨row.withColumns columns, find?_update_self found hf, ?_⟩
      rwa [Redemption.withColumns, hSt, ← hfn]
    · exact ⟨row, (find?_update_of_ne found hc).trans hf, hcr⟩

theorem used_iff : Used code s ↔ ∃ row, s.codes.find? code = some row ∧ row.status = .used :=
  Option.map_eq_some_iff

theorem Used.transaction (s : RedemptionStore) (rows : List RedemptionWrite) (hs : Used code s)
    (hr : Transaction rows)
    (hfit : Along redemptionEngine.apply (Fits redemptionEngine (FindsCurrent code)) s rows) :
    Used code (run redemptionEngine.apply s rows) := by
  obtain ⟨row, hfi, hu⟩ := used_iff.mp hs
  rw [used_iff]
  cases hr with
  | redeem found saved user hf hi hsa =>
    by_cases hc : saved.id = code
    · subst hc
      exact ⟨saved, Table.find?_save_self hfi, hsa⟩
    · exact ⟨row, (Table.find?_save_of_ne hc).trans hfi, hu⟩
  | edit found columns hi hSt =>
    by_cases hc : columns.id = code
    · subst hc
      have hf := edit_finds hfi hfit
      refine ⟨row.withColumns columns, find?_update_self found hfi, ?_⟩
      rw [Redemption.withColumns, hSt, ← hf, hu]
    · exact ⟨row, (find?_update_of_ne found hc).trans hfi, hu⟩

def Credited (start : RedemptionStore) (user : Int) (s : RedemptionStore) : Prop :=
  s.quotas user = start.quotas user + s.creditedTo user

theorem Credited.apply {start : RedemptionStore} {user : Int} (s : RedemptionStore)
    (row : RedemptionWrite) (hs : Credited start user s) :
    Credited start user (redemptionEngine.apply s row) := by
  cases row with
  | credit code creditor amount =>
    simp only [Credited, RedemptionStore.creditedTo, redemptionEngine, RedemptionWrite.apply,
      filter_append, map_append, sum_append] at hs ⊢
    by_cases hu : creditor = user
    · subst hu
      rw [Function.update_self, hs]
      simp [add_assoc]
    · rw [Function.update_of_ne (Ne.symm hu), hs]
      simp [hu]
  | save found saved => exact hs
  | update found columns =>
    obtain ⟨hq, hc⟩ := update_kept found s columns
    simpa only [Credited, RedemptionStore.creditedTo, redemptionEngine, hq, hc] using hs

end

def EditsOnly : RedemptionEvent → Prop
  | .start _ (.updateRedemption _ statusOnly _) => statusOnly = ""
  | _ => True

def CurrentEvent (code : Int) (s : RedemptionState) (event : RedemptionEvent) : Prop :=
  ∀ write ∈ s.executed redemptionEngine event,
    write.2.Current code ((s.view redemptionEngine write.1).codes.find? code)
deriving Decidable

theorem meets_of_current {code : Int} {s : RedemptionState} {event : RedemptionEvent}
    (he : EditsOnly event) (hc : CurrentEvent code s event) :
    event.Meets redemptionEngine RedemptionCall.prog Transaction Settled (FindsCurrent code) s := by
  cases event with
  | start i call =>
    cases call with
    | topUp now key userId => exact redeemProg_spec now key userId
    | updateRedemption now statusOnly request =>
      have hem : statusOnly = "" := he
      subst hem
      exact updateRedemptionProg_spec now request
  | exec i fault =>
    intro session row hex
    have hr := hc _ hex
    cases row with
    | credit id user amount => trivial
    | save found saved =>
      rintro rfl
      exact hr rfl
    | update found columns =>
      rintro rfl
      exact hr rfl

theorem meets_along {code : Int} {s : RedemptionState} {events : List RedemptionEvent}
    (he : ∀ event ∈ events, EditsOnly event)
    (hc : Along redemptionStep (CurrentEvent code) s events) :
    Along redemptionStep (fun s event => event.Meets redemptionEngine RedemptionCall.prog
      Transaction Settled (FindsCurrent code) s) s events :=
  along_mono (fun _ _ h => meets_of_current h.1 h.2)
    (along_and (along_of_forall_mem s he) hc)

theorem Once.credits {code : Int} {s : RedemptionStore} (h : Once code s) :
    (s.creditsOf code).length ≤ 1 ∧
      ∀ credit ∈ s.creditsOf code, credit.quota = some credit.amount := by
  obtain ⟨row, -, hn | ⟨-, credit, ho, hq⟩⟩ := h
  · simp [hn]
  · simpa [ho] using hq

/-- Where the writes of a code find what their calls have read, it is credited at most once and
stays used. -/
theorem redemption_credited_once (start : RedemptionStore) (hStart : start.credits = [])
    (code : Redemption) (hCode : start.codes.find? code.id = some code)
    (events : List RedemptionEvent) (hEdits : ∀ event ∈ events, EditsOnly event)
    (hCurrent : Along redemptionStep (CurrentEvent code.id) (State.initial start) events) :
    let s := run redemptionStep (State.initial start) events
    (s.store.creditsOf code.id).length ≤ 1 ∧
      (∀ credit ∈ s.store.creditsOf code.id, credit.quota = some credit.amount) ∧
      (∀ user, s.store.quotas user = start.quotas user + s.store.creditedTo user) ∧
      (∀ i session e, s.sessions i = some session → session.prog = .done (.error e) →
        ∀ row ∈ session.log, ∀ amount, ¬row.Credits amount) ∧
      ∀ before after, events = before ++ after →
        Used code.id (run redemptionStep (State.initial start) before).store →
        Used code.id s.store := by
  have hme := meets_along hEdits hCurrent
  have ho : Once code.id start := ⟨code, hCode, .inl (by simp [RedemptionStore.creditsOf, hStart])⟩
  obtain ⟨hso, hr⟩ := run_store Once.transaction (initial_all start) ho hme
  refine ⟨hr.credits.1, hr.credits.2, ?_, ?_, ?_⟩
  · intro user
    have hc : Credited start user start := by
      simp [Credited, RedemptionStore.creditedTo, hStart]
    exact (run_store (I := Credited start user)
      (fun s rows hs _ _ => run_preserves Credited.apply hs rows) (initial_all start) hc
      hme).2
  · intro i session e hse hd
    have hsp := (hso i session hse).2.spec
    rw [hd] at hsp
    exact hsp
  · rintro before after rfl hu
    rw [run_append]
    obtain ⟨hb, ha⟩ := along_append.mp hme
    have hm := (run_store Once.transaction (initial_all start) ho hb).1
    exact (run_store Used.transaction hm hu ha).2

def ticket : Redemption := ⟨1, "k", .enabled, "ticket", 500, 0, 0, 0⟩

def ticketStore : RedemptionStore := { codes := ⟨[ticket], by decide⟩, quotas := fun _ => 0 }

def statements (i n : Nat) : List RedemptionEvent := List.replicate n (.exec i none)

def inTurn : List RedemptionEvent :=
  .start 0 (.topUp 100 "k" 7) :: .start 1 (.topUp 100 "k" 8) ::
    .start 2 (.updateRedemption 100 "" ⟨1, .enabled, "ticket", 900, 0⟩) ::
      (statements 0 4 ++ statements 1 2 ++ statements 2 3)

theorem redemption_credited_once_in_turn :
    (run redemptionStep (State.initial ticketStore) inTurn).store.credits = [⟨1, 7, 500, some 500⟩] ∧
      ((run redemptionStep (State.initial ticketStore) inTurn).store.creditsOf 1).length ≤ 1 :=
  ⟨by decide +kernel, (redemption_credited_once ticketStore rfl ticket (by decide) inTurn
    (by simp [inTurn, statements, EditsOnly]) (by decide +kernel)).1⟩

theorem redemption_credited_twice :
    ∃ before after : List RedemptionEvent, (∀ event ∈ before ++ after, EditsOnly event) ∧
      (run redemptionStep (State.initial ticketStore) (before ++ after)).store.creditsOf 1 =
        [⟨1, 7, 500, some 500⟩, ⟨1, 8, 500, some 500⟩] ∧
      Used 1 (run redemptionStep (State.initial ticketStore) before).store ∧
      ¬Used 1 (run redemptionStep (State.initial ticketStore) (before ++ after)).store :=
  ⟨.start 0 (.topUp 100 "k" 7) :: .start 1 (.topUp 100 "k" 8) ::
      .start 2 (.updateRedemption 100 "" ⟨1, .enabled, "ticket", 500, 0⟩) ::
        (statements 0 1 ++ statements 1 1 ++ statements 2 1 ++ statements 0 3 ++ statements 1 3),
    statements 2 2, by simp [statements, EditsOnly], by decide +kernel, by decide +kernel,
    by decide +kernel⟩

end DeepRouter.Redemptions
