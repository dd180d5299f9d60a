import Mathlib.Algebra.Group.Pi.Lemmas
import Mathlib.Algebra.Group.Prod
import DeepRouter.Billing.Session

/-! # Net debits of the three ledgers -/

namespace DeepRouter.Billing

open Store Atomic KeyedTable Subscription Runs Function MachineInt

abbrev Debits := (Int → Int) × (Int → Int) × (Int → Int64)

def debits (db : Database) : Debits :=
  (fun id => -(db.users id).quota, fun id => -(db.tokens id).remainQuota, usedOf db)

def userDebit (id : Int) : Int →+ Debits :=
  (AddMonoidHom.inl _ _).comp (AddMonoidHom.single (fun _ => Int) id)

def tokenDebit (id : Int) : Int →+ Debits :=
  (AddMonoidHom.inr _ _).comp ((AddMonoidHom.inl _ _).comp (AddMonoidHom.single (fun _ => Int) id))

def usedDebit (id : Int) : Int64 →+ Debits :=
  (AddMonoidHom.inr _ _).comp
    ((AddMonoidHom.inr _ _).comp (AddMonoidHom.single (fun _ => Int64) id))

def fundingDebit : FundingSource → Int →+ Debits
  | .wallet w => userDebit w.userId
  | .subscription s => (usedDebit s.subscriptionId).comp toInt64

def requestTokenDebit (relayInfo : RelayInfo) : Int →+ Debits :=
  if relayInfo.isPlayground then 0 else tokenDebit relayInfo.tokenId

def sessionDebit (s : BillingSession) : Int →+ Debits :=
  fundingDebit s.funding + requestTokenDebit s.relayInfo

def usedBy (s : BillingSession) (quota id : Int) : Int :=
  match s.funding with
  | .wallet _ => 0
  | .subscription f => if id = f.subscriptionId then quota else 0

/-- The ledgers of the session have been debited by `quota` since `base`, a used amount exactly
where it stays in range. -/
structure Charged (base : Debits) (db : Database) (s : BillingSession) (quota : Int) : Prop where
  debits : debits db = base + sessionDebit s quota
  used : ∀ id, InRange ((base.2.2 id).toInt + usedBy s quota id) →
    (usedOf db id).toInt = (base.2.2 id).toInt + usedBy s quota id

theorem sessionDebit_used (s : BillingSession) (quota id : Int) :
    (sessionDebit s quota).2.2 id = toInt64 (usedBy s quota id) := by
  have ht : (requestTokenDebit s.relayInfo quota).2.2 = 0 := by
    unfold requestTokenDebit
    split
    · rfl
    · rfl
  rw [sessionDebit, AddMonoidHom.add_apply, Prod.snd_add, Prod.snd_add, ht, add_zero, usedBy]
  cases s.funding with
  | wallet w => exact (map_zero toInt64).symm
  | subscription f =>
    change (Pi.single f.subscriptionId (toInt64 quota) : Int → Int64) id = _
    rw [Pi.single_apply, apply_ite toInt64, map_zero]

theorem charged_of_debits {base : Debits} {db : Database} {s : BillingSession} {quota : Int}
    (h : debits db = base + sessionDebit s quota) : Charged base db s quota := by
  refine ⟨h, ?_⟩
  intro id hr
  have hu : usedOf db id = base.2.2 id + (sessionDebit s quota).2.2 id :=
    congrFun (congrArg (fun d : Debits => d.2.2) h) id
  rw [sessionDebit_used] at hu
  exact (toInt_eq_iff_inRange hu).mpr hr

section

variable {fault : Fault} {id quota : Int} {db db' : Database}

theorem updateQuota_cases (fault : Fault) (quota : Int) (write : Database → Database)
    (db : Database) :
    (fault = none ∧ 0 ≤ quota ∧ updateQuota fault quota write db = (.ok (), write db)) ∨
      (¬(fault = none ∧ 0 ≤ quota) ∧ ∃ e, updateQuota fault quota write db = (.error e, db)) := by
  unfold updateQuota
  split
  · refine .inr ⟨?_, _, rfl⟩
    rintro ⟨_, hn⟩
    omega
  cases fault with
  | none => exact .inl ⟨rfl, by omega, rfl⟩
  | some e =>
    refine .inr ⟨?_, e, rfl⟩
    rintro ⟨hf, _⟩
    cases hf

theorem updateQuota_ok {write : Database → Database}
    (h : updateQuota fault quota write db = (.ok (), db')) : 0 ≤ quota ∧ db' = write db := by
  rcases updateQuota_cases fault quota write db with ⟨_, hq, he⟩ | ⟨_, e, he⟩
  · cases he.symm.trans h
    exact ⟨hq, rfl⟩
  · cases he.symm.trans h

theorem updateQuota_error {write : Database → Database} {e : Err}
    (h : updateQuota fault quota write db = (.error e, db')) : db' = db := by
  rcases updateQuota_cases fault quota write db with ⟨_, _, he⟩ | ⟨_, _, he⟩
  · cases he.symm.trans h
  · cases he.symm.trans h
    rfl

theorem updateQuota_elim {P : Database → Prop} {write : Database → Database} (hk : P db)
    (hw : P (write db)) : P (updateQuota fault quota write db).2 := by
  rcases updateQuota_cases fault quota write db with ⟨_, _, he⟩ | ⟨_, _, he⟩
  · rw [he]
    exact hw
  · rw [he]
    exact hk

theorem neg_update {α : Type} (f : Int → α) (g : α → Int) {id delta : Int} {value : α}
    (h : g value = g (f id) - delta) :
    (fun k => -g (Function.update f id value k)) = (fun k => -g (f k)) + Pi.single id delta := by
  funext k
  rw [Pi.add_apply]
  by_cases hk : k = id
  · subst hk
    rw [update_self, Pi.single_eq_same, h]
    omega
  · rw [update_of_ne hk, Pi.single_eq_of_ne hk, add_zero]

theorem debits_updateUser (db : Database) (id delta : Int) {f : User → User}
    (hf : (f (db.users id)).quota = (db.users id).quota - delta) :
    debits (db.updateUser id f) = debits db + userDebit id delta := by
  refine Prod.ext (neg_update db.users User.quota hf) (Prod.ext ?_ ?_)
  · simp [debits, userDebit]
  · exact (add_zero (usedOf db)).symm

theorem debits_updateToken (db : Database) (id delta : Int) {f : Token → Token}
    (hf : (f (db.tokens id)).remainQuota = (db.tokens id).remainQuota - delta) :
    debits (db.updateToken id f) = debits db + tokenDebit id delta := by
  refine Prod.ext ?_ (Prod.ext (neg_update db.tokens Token.remainQuota hf) ?_)
  · simp [debits, tokenDebit]
  · exact (add_zero (usedOf db)).symm

structure Shifted (db db' : Database) (d : Debits) : Prop where
  debits : debits db' = debits db + d
  subs : db'.subs = db.subs
  clamps : db'.clamps = db.clamps
  records : db'.records = db.records
  resets : db'.resets = db.resets

theorem Shifted.refl (db : Database) : Shifted db db 0 :=
  ⟨(add_zero _).symm, rfl, rfl, rfl, rfl⟩

theorem Shifted.trans {a b c : Database} {d e : Debits} (hab : Shifted a b d) (hbc : Shifted b c e) :
    Shifted a c (d + e) := by
  refine ⟨?_, hbc.subs.trans hab.subs, hbc.clamps.trans hab.clamps,
    hbc.records.trans hab.records, hbc.resets.trans hab.resets⟩
  rw [hbc.debits, hab.debits, add_assoc]

structure Moved (db db' : Database) (d : Debits) : Prop where
  exact : db'.clamps = db.clamps → debits db' = debits db + d
  clamps_le : db.clamps ≤ db'.clamps
  records : db'.records = db.records
  resets : db'.resets = db.resets

theorem Shifted.moved {db db' : Database} {d : Debits} (h : Shifted db db' d) : Moved db db' d :=
  ⟨fun _ => h.debits, h.clamps.ge, h.records, h.resets⟩

theorem Moved.refl (db : Database) : Moved db db 0 := (Shifted.refl db).moved

theorem Moved.trans {a b c : Database} {d e : Debits} (hab : Moved a b d) (hbc : Moved b c e) :
    Moved a c (d + e) := by
  refine ⟨?_, hab.clamps_le.trans hbc.clamps_le, hbc.records.trans hab.records,
    hbc.resets.trans hab.resets⟩
  intro hc
  have hf : b.clamps = a.clamps := le_antisymm (hbc.clamps_le.trans hc.le) hab.clamps_le
  rw [hbc.exact (hc.trans hf.symm), hab.exact hf, add_assoc]

theorem increaseUserQuota_ok (h : increaseUserQuota fault id quota db = (.ok (), db')) :
    Shifted db db' (userDebit id (-quota)) := by
  obtain ⟨_, rfl⟩ := updateQuota_ok h
  exact ⟨debits_updateUser db id (-quota) (Int.sub_neg _ _).symm, rfl, rfl, rfl, rfl⟩

theorem decreaseUserQuota_ok (h : decreaseUserQuota fault id quota db = (.ok (), db')) :
    Shifted db db' (userDebit id quota) := by
  obtain ⟨_, rfl⟩ := updateQuota_ok h
  exact ⟨debits_updateUser db id quota rfl, rfl, rfl, rfl, rfl⟩

theorem increaseTokenQuota_ok (h : increaseTokenQuota fault id quota db = (.ok (), db')) :
    Shifted db db' (tokenDebit id (-quota)) := by
  obtain ⟨_, rfl⟩ := updateQuota_ok h
  exact ⟨debits_updateToken db id (-quota) (Int.sub_neg _ _).symm, rfl, rfl, rfl, rfl⟩

theorem decreaseTokenQuota_ok (h : decreaseTokenQuota fault id quota db = (.ok (), db')) :
    Shifted db db' (tokenDebit id quota) := by
  obtain ⟨_, rfl⟩ := updateQuota_ok h
  exact ⟨debits_updateToken db id quota rfl, rfl, rfl, rfl, rfl⟩

theorem debits_used {db db' : Database} {id : Int} {amount : Int64} (hu : db'.users = db.users)
    (ht : db'.tokens = db.tokens)
    (hus : ∀ k, usedOf db' k = usedOf db k + if k = id then amount else 0) :
    debits db' = debits db + usedDebit id amount := by
  refine Prod.ext ?_ (Prod.ext ?_ ?_)
  · simp [debits, usedDebit, hu]
  · simp [debits, usedDebit, ht]
  · funext k
    change usedOf db' k = usedOf db k + (Pi.single id amount : Int → Int64) k
    rw [hus k, Pi.single_apply]

theorem post_moved {fl : PostFaults} {delta : Int64}
    (h : postConsumeUserSubscriptionDelta fl id delta db = (.ok (), db')) :
    Moved db db' (usedDebit id delta) := by
  obtain ⟨hr, hre, hc, hu, ht⟩ := post_kept h
  exact ⟨fun hs => debits_used hu ht (post_usedOf h hs), hc, hr, hre⟩

end

end DeepRouter.Billing
