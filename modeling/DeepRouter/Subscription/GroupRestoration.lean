import DeepRouter.Subscription.Groups
import DeepRouter.Subscription.QuotaBounds

/-! # Restoring the group of a user -/

namespace DeepRouter.Subscription

open Store GoStrings Atomic KeyedTable Runs Table

inductive GroupOp where
  | create (env : Env) (faults : CreateFaults) (newId userId : Int) (plan : SubscriptionPlan)
      (source : String) (commit : Fault)
  | expireDue (now : Int) (faults : ExpireFaults) (rank : Int → Nat) (limit : Int)
  | invalidate (now : Int) (faults : AdminFaults) (userSubscriptionId : Int)
  | delete (now : Int) (faults : AdminFaults) (userSubscriptionId : Int)

def GroupOp.time : GroupOp → Int
  | .create env _ _ _ _ _ _ => env.now
  | .expireDue now _ _ _ => now
  | .invalidate now _ _ => now
  | .delete now _ _ => now

def groupStep (db : Database) : GroupOp → Database
  | .create env faults newId userId plan source commit =>
    (transaction db (createUserSubscriptionFromPlanTx env faults newId userId plan source db) commit).2
  | .expireDue now faults rank limit => (expireDueSubscriptions now faults rank limit db).2
  | .invalidate now faults id => (adminInvalidateUserSubscription now faults id db).2
  | .delete now faults id => (adminDeleteUserSubscription now faults id db).2

def Upgrades (userId : Int) (sub : UserSubscription) : Prop :=
  sub.userId = userId ∧ sub.upgradeGroup ≠ ""

/-- The row remembers `g0`, or it upgraded to `g0` itself and remembers nothing. -/
def RemembersGroup (g0 : String) (sub : UserSubscription) : Prop :=
  trimSpace sub.upgradeGroup = sub.upgradeGroup ∧
    ((sub.upgradeGroup = g0 ∧ sub.prevUserGroup = "") ∨ sub.prevUserGroup = g0)

/-- At most one upgrading row is active, it ends after all that expired, and every one remembers
`g0`. -/
structure Remembered (g0 : String) (userId now : Int) (db : Database) : Prop where
  rows : ∀ sub ∈ db.subs.rows, Upgrades userId sub → RemembersGroup g0 sub ∧
    (sub.status = .active → 0 < sub.endTime) ∧ (sub.status = .expired → sub.endTime ≤ now)
  last : ∀ sub ∈ db.subs.rows, ∀ other ∈ db.subs.rows, Upgrades userId sub →
    Upgrades userId other → sub.status = .active → (other.status = .active → sub = other) ∧
      (other.status = .expired → other.endTime < sub.endTime)

def InGroup (g0 : String) (userId : Int) (db : Database) : Prop :=
  (db.users userId).group = g0 ∨
    ∃ sub ∈ db.subs.rows, Upgrades userId sub ∧ sub.status = .active ∧
      sub.upgradeGroup = (db.users userId).group

/-- How a row ages: it may leave the active status, by expiry only when its end has passed. -/
structure Aged (now : Int) (sub sub' : UserSubscription) : Prop where
  id : sub'.id = sub.id
  userId : sub'.userId = sub.userId
  upgradeGroup : sub'.upgradeGroup = sub.upgradeGroup
  prevUserGroup : sub'.prevUserGroup = sub.prevUserGroup
  active : sub'.status = .active → sub' = sub
  expired : sub'.status = .expired → sub'.endTime = sub.endTime ∧
    (sub.status = .expired ∨ (sub.status = .active ∧ sub.endTime ≤ now))

theorem Aged.refl (now : Int) (sub : UserSubscription) : Aged now sub sub :=
  ⟨rfl, rfl, rfl, rfl, fun _ => rfl, fun h => ⟨rfl, .inl h⟩⟩

theorem Aged.cancelled (now : Int) (sub : UserSubscription) :
    Aged now sub { sub with status := .cancelled, endTime := now } :=
  ⟨rfl, rfl, rfl, rfl, nofun, nofun⟩

theorem Aged.upgrades {now userId : Int} {sub sub' : UserSubscription} (h : Aged now sub sub')
    (hu : Upgrades userId sub') : Upgrades userId sub := by
  unfold Upgrades at hu ⊢
  rw [h.userId, h.upgradeGroup] at hu
  exact hu

theorem Aged.remembers {g0 : String} {now : Int} {sub sub' : UserSubscription}
    (h : Aged now sub sub') (hr : RemembersGroup g0 sub) : RemembersGroup g0 sub' := by
  unfold RemembersGroup at hr ⊢
  rw [h.upgradeGroup, h.prevUserGroup]
  exact hr

structure PlainGroup (g0 : String) : Prop where
  nonempty : g0 ≠ ""
  trimmed : trimSpace g0 = g0

structure Standing (g0 : String) (userId now : Int) (db : Database) : Prop where
  remembered : Remembered g0 userId now db
  group : InGroup g0 userId db

section

variable {g0 : String} {userId now : Int} {db db' : Database} {sub : UserSubscription}

theorem Standing.later {clock : Int} (h : Standing g0 userId clock db) (hn : clock ≤ now) :
    Standing g0 userId now db := by
  obtain ⟨hr, hg⟩ := h
  refine ⟨⟨fun sub hs hu => ?_, hr.last⟩, hg⟩
  obtain ⟨hm, ha, he⟩ := hr.rows sub hs hu
  exact ⟨hm, ha, fun h => (he h).trans hn⟩

theorem Remembered.aged (h : Remembered g0 userId now db)
    (hro : ∀ sub' ∈ db'.subs.rows, Upgrades userId sub' → ∃ sub ∈ db.subs.rows, Aged now sub sub') :
    Remembered g0 userId now db' := by
  constructor
  · intro sub' hs hu
    obtain ⟨sub, hSub, ha⟩ := hro sub' hs hu
    obtain ⟨hm, hac, hex⟩ := h.rows sub hSub (ha.upgrades hu)
    refine ⟨ha.remembers hm, fun hst => ?_, fun hst => ?_⟩
    · obtain rfl := ha.active hst
      exact hac hst
    · obtain ⟨he, hw | ⟨_, hd⟩⟩ := ha.expired hst
      · exact he.le.trans (hex hw)
      · exact he.le.trans hd
  · intro sub' hs other' ho hu hou ha
    obtain ⟨sub, hSub, hg⟩ := hro sub' hs hu
    obtain rfl := hg.active ha
    obtain ⟨other, hOther, hoth⟩ := hro other' ho hou
    obtain ⟨hsi, hla⟩ := h.last sub' hSub other hOther hu (hoth.upgrades hou) ha
    refine ⟨fun hoa => ?_, fun hex => ?_⟩
    · obtain rfl := hoth.active hoa
      exact hsi hoa
    obtain ⟨he, hw | ⟨hw, _⟩⟩ := hoth.expired hex
    · exact he.trans_lt (hla hw)
    -- the row that just expired was the active one, so it cannot still be active
    have hk : other'.id = sub'.id := by rw [hoth.id, hsi hw]
    rw [db'.subs.eq_of_key_eq ho hs hk, ha] at hex
    cases hex

theorem markExpired_aged (now userId : Int) (sub : UserSubscription) :
    Aged now sub (markExpired now userId sub) := by
  unfold markExpired
  split
  · rename_i hd
    have hd : sub.userId = userId ∧ sub.status = .active ∧ 0 < sub.endTime ∧ sub.endTime ≤ now := by
      simpa [isDue] using hd
    refine ⟨rfl, rfl, rfl, rfl, ?_, fun _ => ⟨rfl, .inr ⟨hd.2.1, hd.2.2.2⟩⟩⟩
    rintro ⟨⟩
  · exact .refl now sub

theorem markExpiredRows_aged (now userId : Int) (db : Database) :
    ∀ sub' ∈ (markExpiredRows now userId db).subs.rows, ∃ sub ∈ db.subs.rows, Aged now sub sub' := by
  intro sub' hSub'
  obtain ⟨sub, hSub, rfl⟩ := mem_markExpiredRows.mp hSub'
  exact ⟨sub, hSub, markExpired_aged now userId sub⟩

theorem markExpired_inGroup (now user : Int) (h : InGroup g0 userId db) :
    InGroup g0 userId (markExpiredRows now user db) ∨
      ∃ active ∈ db.subs.rows, Upgrades userId active ∧ active.status = .active ∧
        active.upgradeGroup = (db.users userId).group ∧ active.userId = user ∧
        { active with status := .expired } ∈ (markExpiredRows now user db).subs.rows := by
  rcases h with hf | ⟨active, ha, hUp, hSt, hn⟩
  · exact .inl (.inl hf)
  have hm : markExpired now user active ∈ (markExpiredRows now user db).subs.rows :=
    mem_markExpiredRows.mpr ⟨active, ha, rfl⟩
  unfold markExpired at hm
  split at hm
  · rename_i hd
    exact .inr ⟨active, ha, hUp, hSt, hn, hd.1, hm⟩
  · exact .inl (.inr ⟨active, hm, hUp, hSt, hn⟩)

section

variable (hp : PlainGroup g0)

include hp

theorem trimSpace_prev (h : RemembersGroup g0 sub) :
    trimSpace sub.prevUserGroup = sub.prevUserGroup := by
  rcases h.2 with ⟨_, hpr⟩ | hpr
  · rw [hpr]
    rfl
  · rw [hpr]
    exact hp.trimmed

theorem remembered_prev (h : RemembersGroup g0 sub) (hpr : trimSpace sub.prevUserGroup ≠ "") :
    trimSpace sub.prevUserGroup = g0 := by
  rw [trimSpace_prev hp h] at hpr ⊢
  rcases h.2 with ⟨_, he⟩ | hf
  · exact absurd he hpr
  · exact hf

theorem remembered_no_prev (h : RemembersGroup g0 sub) (hpr : sub.prevUserGroup = "") :
    sub.upgradeGroup = g0 := by
  rcases h.2 with ⟨hf, _⟩ | hf
  · exact hf
  · exact absurd (hf.symm.trans hpr) hp.nonempty

section

variable {faults : DowngradeFaults} {target : String}

theorem downgrade_restores (hs : Upgrades userId sub → RemembersGroup g0 sub)
    (h : downgradeUserGroupForSubscriptionTx faults sub now db = .ok (target, db')) :
    (db'.users userId).group = g0 ∨
      ((db'.users userId).group = (db.users userId).group ∧
        (Upgrades userId sub → (db.users userId).group = sub.upgradeGroup →
          (db.users userId).group = g0 ∨ ∃ other ∈ db.subs.rows, Upgrades userId other ∧
            other.status = .active ∧ other.id ≠ sub.id)) := by
  rcases downgrade_ok h with ⟨rfl, hr⟩ | ⟨rfl, hup, hpr⟩
  · refine .inr ⟨rfl, ?_⟩
    intro hUp hg
    have hro := hs hUp
    rw [hUp.1, hro.1, trimSpace_prev hp hro] at hr
    rcases hr with hr | hr | ⟨other, ho, hr⟩ | hr | hr
    · exact absurd hr hUp.2
    · exact absurd hg hr
    · exact .inr ⟨other, ho, ⟨hr.1, hr.2.1⟩, hr.2.2⟩
    · exact .inl (hg.trans (remembered_no_prev hp hro hr))
    · rcases hro.2 with ⟨hf, _⟩ | hpr
      · exact .inl (hg.trans hf)
      · exact .inl (hr.symm.trans hpr)
  · by_cases hu : sub.userId = userId
    · have hUp : Upgrades userId sub := by
        refine ⟨hu, ?_⟩
        intro he
        rw [he] at hup
        exact hup rfl
      rw [hu, setGroup_self]
      exact .inl (remembered_prev hp (hs hUp) hpr)
    · rw [setGroup_of_ne db _ (Ne.symm hu)]
      exact .inr ⟨rfl, fun hUp => absurd hUp.1 hu⟩

/-- The row `sub`, which the downgrade sees as `sub'` in `mid`, ends; `after` has the rest. -/
theorem ended_keeps {sub' : UserSubscription} {mid after : Database}
    (hd : Standing g0 userId now db) (hsu : db.subs.find? sub.id = some sub)
    (hs : Aged now sub sub')
    (h : downgradeUserGroupForSubscriptionTx faults sub' now mid = .ok (target, db'))
    (hu : mid.users = db.users)
    (hmi : ∀ other ∈ mid.subs.rows, other.id ≠ sub.id → other ∈ db.subs.rows)
    (hus : after.users = db'.users)
    (hro : ∀ x ∈ after.subs.rows, ∃ old ∈ db.subs.rows, Aged now old x)
    (hk : ∀ other ∈ db.subs.rows, other.id ≠ sub.id → other ∈ after.subs.rows) :
    Standing g0 userId now after := by
  refine ⟨hd.remembered.aged fun x hx _ => hro x hx, ?_⟩
  have hm := mem_of_find? hsu
  have hr : Upgrades userId sub' → RemembersGroup g0 sub' :=
    fun hUp => hs.remembers (hd.remembered.rows sub hm (hs.upgrades hUp)).1
  have hrs := downgrade_restores hp hr h
  unfold InGroup
  rw [hus]
  rw [hu] at hrs
  obtain hf | ⟨hg, hrs⟩ := hrs
  · exact .inl hf
  rw [hg]
  rcases hd.group with hf | ⟨active, ha, hUp, hSt, hn⟩
  · exact .inl hf
  by_cases hi : active.id = sub.id
  · obtain rfl := db.subs.eq_of_key_eq ha hm hi
    have hUp' : Upgrades userId sub' := by
      rw [Upgrades, hs.userId, hs.upgradeGroup]
      exact hUp
    rcases hrs hUp' (by rw [hs.upgradeGroup, hn]) with hf | ⟨other, hOth, hot, ho, hNe⟩
    · exact .inl hf
    · rw [hs.id] at hNe
      have hon := (hd.remembered.last other (hmi other hOth hNe) active ha hot hUp ho).1 hSt
      exact absurd (congrArg UserSubscription.id hon) hNe
  · exact .inr ⟨active, hk active ha hi, hUp, hSt, hn⟩

end

section

variable {faults : AdminFaults} {id : Int} (hd : Standing g0 userId now db)

include hd

theorem invalidate_keeps :
    Standing g0 userId now (adminInvalidateUserSubscription now faults id db).2 := by
  unfold adminInvalidateUserSubscription
  split
  · exact hd
  refine transaction_keeps faults.commit hd fun message db' hb => ?_
  unfold invalidateTx at hb
  obtain ⟨_, _, hb⟩ := bind_eq_ok.mp hb
  obtain ⟨sub, hfi, hb⟩ := bind_eq_ok.mp hb
  obtain ⟨_, _, hb⟩ := bind_eq_ok.mp hb
  obtain ⟨⟨target, mid⟩, hdo, hb⟩ := bind_eq_ok.mp hb
  cases hb
  have hfi := require_eq_ok.mp hfi
  obtain rfl : sub.id = id := key_of_find? hfi
  refine ended_keeps hp hd hfi (.cancelled now sub) hdo rfl ?_ rfl ?_ ?_
  · intro other ho hNe
    rcases mem_save.mp ho with ⟨hol, _⟩ | ⟨rfl, _⟩
    · exact hol
    · exact absurd rfl hNe
  · intro x hx
    rw [downgrade_subs hdo] at hx
    rcases mem_save.mp hx with ⟨hol, _⟩ | ⟨rfl, _⟩
    · exact ⟨x, hol, .refl now x⟩
    · exact ⟨sub, mem_of_find? hfi, .cancelled now sub⟩
  · intro other ho hNe
    rw [downgrade_subs hdo]
    exact mem_save.mpr (.inl ⟨ho, hNe⟩)

theorem delete_keeps : Standing g0 userId now (adminDeleteUserSubscription now faults id db).2 := by
  unfold adminDeleteUserSubscription
  split
  · exact hd
  refine transaction_keeps faults.commit hd fun message db' hb => ?_
  unfold deleteTx at hb
  obtain ⟨_, _, hb⟩ := bind_eq_ok.mp hb
  obtain ⟨sub, hfi, hb⟩ := bind_eq_ok.mp hb
  obtain ⟨⟨target, mid⟩, hdo, hb⟩ := bind_eq_ok.mp hb
  obtain ⟨_, _, hb⟩ := bind_eq_ok.mp hb
  cases hb
  have hfi := require_eq_ok.mp hfi
  obtain rfl : sub.id = id := key_of_find? hfi
  refine ended_keeps hp hd hfi (.refl now sub) hdo rfl (fun other ho _ => ho) rfl ?_ ?_
  · intro x hx
    have ho := (mem_keep.mp hx).1
    rw [downgrade_subs hdo] at ho
    exact ⟨x, ho, .refl now x⟩
  · intro other ho hNe
    rw [← downgrade_subs hdo] at ho
    exact mem_keep.mpr ⟨ho, by simpa using hNe⟩

end

variable {faults : ExpireFaults} (hf : faults.findExpired userId = none)

include hf

theorem restoreGroup_keeps (hd : Standing g0 userId now db)
    (h : restoreGroupTx faults now userId (markExpiredRows now userId db) = .ok db') :
    InGroup g0 userId db' := by
  obtain ⟨hr, hg⟩ := hd
  have hma := hr.aged fun sub hs _ => markExpiredRows_aged now userId db sub hs
  -- an active row that has just expired was the only one, and no expired row ends later
  have hg := markExpired_inGroup now userId hg
  rcases restoreGroup_ok h with ⟨rfl, hno⟩ | ⟨last, hl, hu, hne, hex, hm, ⟨rfl, hrs⟩ | ⟨rfl, hpr⟩⟩
  · obtain hg | ⟨active, hac, hUp, hSt, _, _, hmk⟩ := hg
    · exact hg
    rcases hno hf with ⟨sub, hSub, hs, hsu, hsub⟩ | hno
    · obtain ⟨old, hol, ha⟩ := markExpiredRows_aged now userId db sub hSub
      obtain rfl := ha.active hsub
      obtain rfl := (hr.last sub hol active hac ⟨hs, hsu⟩ hUp hsub).1 hSt
      rw [(markExpiredRows now userId db).subs.eq_of_key_eq hSub hmk rfl] at hsub
      cases hsub
    · exact absurd rfl (hno _ hmk hUp.1 hUp.2)
  · obtain hg | ⟨active, hac, hUp, hSt, hna, _, hmk⟩ := hg
    · exact hg
    have he := hm { active with status := .expired } hmk hUp.1 hUp.2 rfl
    change active.endTime ≤ last.endTime at he
    obtain ⟨old, hol, ha⟩ := markExpiredRows_aged now userId db last hl
    have ho := ha.upgrades ⟨hu, hne⟩
    obtain ⟨hsam, hwa | ⟨hwa, _⟩⟩ := ha.expired hex
    · have hb := (hr.last active hac old hol hUp ho hSt).2 hwa
      omega
    obtain rfl := (hr.last old hol active hac ho hUp hwa).1 hSt
    have hro := (hma.rows last hl ⟨hu, hne⟩).1
    have hla : last.upgradeGroup = ((markExpiredRows now userId db).users userId).group :=
      ha.upgradeGroup.trans hna
    rw [hro.1, trimSpace_prev hp hro, hla] at hrs
    rcases hrs with hrs | hrs | hrs | hrs
    · exact absurd (hla.trans hrs) hne
    · exact .inl (hla.symm.trans (remembered_no_prev hp hro hrs))
    · exact absurd rfl hrs
    · rcases hro.2 with ⟨hfs, _⟩ | hpr
      · exact .inl (hla.symm.trans hfs)
      · exact .inl (hrs.trans hpr)
  · refine .inl ?_
    rw [setGroup_self]
    exact remembered_prev hp (hma.rows last hl ⟨hu, hne⟩).1 hpr

theorem expireUser_keeps {other : Int} (hd : Standing g0 userId now db)
    (h : expireUserTx faults now other db = .ok ((), db')) : Standing g0 userId now db' := by
  unfold expireUserTx at h
  obtain ⟨_, _, h⟩ := bind_eq_ok.mp h
  obtain ⟨mid, hr, h⟩ := bind_eq_ok.mp h
  cases h
  obtain ⟨hs, hu⟩ := restoreGroup_frame hr
  constructor
  · apply hd.remembered.aged
    rw [hs]
    exact fun sub hs _ => markExpiredRows_aged now other db sub hs
  by_cases hus : userId = other
  · subst hus
    exact restoreGroup_keeps hp hf hd hr
  unfold InGroup
  rw [hu userId hus, hs]
  rcases markExpired_inGroup now other hd.group with hg | ⟨_, _, hUp, _, _, ho, _⟩
  · exact hg
  · exact absurd (hUp.1.symm.trans ho) hus

theorem expireUsers_keeps (users : List Int) (count : Nat) (hd : Standing g0 userId now db) :
    Standing g0 userId now (expireUsers faults now users count db).2 := by
  induction users generalizing count db with
  | nil => exact hd
  | cons other rest ih =>
    rw [expireUsers]
    rcases transaction_cases db (expireUserTx faults now other db) (faults.commit other) with
      ⟨_, mid, hb, _, he⟩ | ⟨e, he⟩
    · rw [he]
      exact ih _ (expireUser_keeps hp hf hd hb)
    · rw [he]
      exact hd

end

theorem plain_row_keeps {subs : Table UserSubscription.id} (hd : Remembered g0 userId now db)
    (hi : db.subs.insert? sub = some subs) (hs : db'.subs = subs) (hu : ¬Upgrades userId sub) :
    Remembered g0 userId now db' := by
  apply hd.aged
  intro x hx hxUp
  rw [hs] at hx
  rcases (mem_insert? hi).mp hx with hx | rfl
  · exact ⟨x, hx, .refl now x⟩
  · exact absurd hxUp hu

theorem first_row_keeps {subs : Table UserSubscription.id} (hst : 0 ≤ now)
    (hd : Remembered g0 userId now db) (hi : db.subs.insert? sub = some subs) (hs : db'.subs = subs)
    (hal : ∀ x ∈ db.subs.rows, Upgrades userId x → x.status ≠ .active)
    (hr : RemembersGroup g0 sub) (hSt : sub.status = .active) (he : now < sub.endTime) :
    Remembered g0 userId now db' := by
  have hm {x : UserSubscription} (hx : x ∈ db'.subs.rows) : x ∈ db.subs.rows ∨ x = sub := by
    rw [hs] at hx
    exact (mem_insert? hi).mp hx
  have hne : sub.status ≠ .expired := by simp [hSt]
  constructor
  · intro x hx hu
    rcases hm hx with hx | rfl
    · exact hd.rows x hx hu
    · exact ⟨hr, fun _ => by omega, fun hex => absurd hex hne⟩
  · intro x hx y hy hxUp hyUp hxActive
    obtain rfl : x = sub := by
      rcases hm hx with hx | rfl
      · exact absurd hxActive (hal x hx hxUp)
      · rfl
    rcases hm hy with hy | rfl
    · exact ⟨fun ha => absurd ha (hal y hy hyUp),
        fun hex => ((hd.rows y hy hyUp).2.2 hex).trans_lt he⟩
    · exact ⟨fun _ => rfl, fun hex => absurd hex hne⟩

end

/-- An upgrading purchase happens while no other upgrading subscription is active and ends in the
future. -/
def BoughtAlone (userId : Int) (db : Database) : GroupOp → Prop
  | .create env _ _ buyer plan _ _ =>
    buyer = userId → trimSpace plan.upgradeGroup ≠ "" →
      (∀ sub ∈ db.subs.rows, sub.userId = userId → sub.upgradeGroup ≠ "" → sub.status ≠ .active) ∧
      (∀ endUnix ∈ (calcPlanEndTime env.calendar env.now plan).toOption, env.now < endUnix)
  | .expireDue _ faults _ _ => faults.findExpired userId = none
  | _ => True

section

variable {g0 : String} {userId : Int} {db db' : Database} {env : Env} {newId buyer endUnix : Int}
  {plan : SubscriptionPlan} {source prevGroup : String} {mid : Database} {sub : UserSubscription}

theorem created_other_group
    (h : Created env newId buyer plan source endUnix prevGroup db mid sub db')
    (ho : ¬(buyer = userId ∧ trimSpace plan.upgradeGroup ≠ "")) :
    db'.users userId = db.users userId := by
  obtain ⟨subs, _, hDb'⟩ := h.inserted
  have hu : db'.users = mid.users := by rw [hDb']
  rw [hu]
  rcases h.group with ⟨_, _, hm⟩ | ⟨_, _, _, hm⟩ | ⟨hn, _, _, hm⟩
  · rw [hm]
  · rw [hm]
  · rw [hm]
    exact setGroup_of_ne db _ (fun he => ho ⟨he.symm, hn⟩)

theorem created_remembers
    (h : Created env newId userId plan source endUnix prevGroup db mid sub db')
    (hn : trimSpace plan.upgradeGroup ≠ "") (hf : (db.users userId).group = g0) :
    RemembersGroup g0 sub ∧
      ((db'.users userId).group = g0 ∨ sub.upgradeGroup = (db'.users userId).group) := by
  obtain ⟨subs, _, hDb'⟩ := h.inserted
  have hu : db'.users = mid.users := by rw [hDb']
  have ht : trimSpace sub.upgradeGroup = sub.upgradeGroup := by
    rw [h.row]
    exact trimSpace_trimSpace _
  rw [hu]
  rcases h.group with ⟨he, _⟩ | ⟨_, hna, hp, hm⟩ | ⟨_, _, hp, hm⟩
  · exact absurd he hn
  · refine ⟨⟨ht, .inl ⟨?_, ?_⟩⟩, .inl ?_⟩
    · rw [h.row]
      exact hna.symm.trans hf
    · rw [h.row]
      exact hp
    · rw [hm]
      exact hf
  · refine ⟨⟨ht, .inr ?_⟩, .inr ?_⟩
    · rw [h.row]
      exact hp.trans hf
    · rw [hm, setGroup_self, h.row]
      rfl

theorem create_keeps {faults : CreateFaults} {commit : Fault} (hst : 0 ≤ env.now)
    (hd : Standing g0 userId env.now db)
    (ha : BoughtAlone userId db (.create env faults newId buyer plan source commit))
    (h : Created env newId buyer plan source endUnix prevGroup db mid sub db') :
    Standing g0 userId env.now db' := by
  obtain ⟨subs, hi, hDb'⟩ := h.inserted
  have hsu : db'.subs = subs := by rw [hDb']
  have hUp : Upgrades userId sub ↔ buyer = userId ∧ trimSpace plan.upgradeGroup ≠ "" := by
    rw [h.row]
    exact Iff.rfl
  by_cases hu : buyer = userId ∧ trimSpace plan.upgradeGroup ≠ ""
  · obtain ⟨hNone, he⟩ := ha hu.1 hu.2
    have hNone' : ∀ x ∈ db.subs.rows, Upgrades userId x → x.status ≠ .active :=
      fun x hx hxUp => hNone x hx hxUp.1 hxUp.2
    have hf : (db.users userId).group = g0 := by
      rcases hd.group with hf | ⟨active, hAct, hac, hSt, _⟩
      · exact hf
      · exact absurd hSt (hNone' active hAct hac)
    have hen : env.now < sub.endTime := by
      rw [h.row]
      exact he endUnix (by rw [h.ends]; rfl)
    have hSt : sub.status = .active := by rw [h.row]; rfl
    have hne : sub ∈ db'.subs.rows := by
      rw [hsu]
      exact (mem_insert? hi).mpr (.inr rfl)
    obtain ⟨rfl, hn⟩ := hu
    obtain ⟨hr, haf⟩ := created_remembers h hn hf
    refine ⟨first_row_keeps hst hd.remembered hi hsu hNone' hr hSt hen, ?_⟩
    rcases haf with haf | haf
    · exact .inl haf
    · exact .inr ⟨sub, hne, hUp.mpr ⟨rfl, hn⟩, hSt, haf⟩
  · refine ⟨plain_row_keeps hd.remembered hi hsu (fun hs => hu (hUp.mp hs)), ?_⟩
    unfold InGroup
    rw [created_other_group h hu]
    rcases hd.group with hf | ⟨active, hAct, hac⟩
    · exact .inl hf
    · refine .inr ⟨active, ?_, hac⟩
      rw [hsu]
      exact (mem_insert? hi).mpr (.inl hAct)

end

section

variable {g0 : String} {userId : Int} {db : Database} (hp : PlainGroup g0)

include hp

theorem groupStep_keeps (op : GroupOp) (hst : 0 ≤ op.time) (ha : BoughtAlone userId db op)
    (hd : Standing g0 userId op.time db) : Standing g0 userId op.time (groupStep db op) := by
  cases op with
  | create env faults newId buyer plan source commit =>
    refine transaction_keeps commit hd fun sub db' hb => ?_
    obtain ⟨endUnix, prevGroup, mid, hc⟩ := create_ok hb
    exact create_keeps hst hd ha hc
  | expireDue now faults rank limit =>
    rw [groupStep]
    unfold expireDueSubscriptions
    split
    · exact hd
    · exact expireUsers_keeps hp ha _ 0 hd
  | invalidate now faults id => exact invalidate_keeps hp hd
  | delete now faults id => exact delete_keeps hp hd

theorem groupRun_keeps {clock : Int} (ops : List GroupOp) (now : Int) (hs : 0 ≤ clock)
    (ht : (clock :: ops.map GroupOp.time ++ [now]).Pairwise (· ≤ ·))
    (ha : Along groupStep (BoughtAlone userId) db ops) (hd : Standing g0 userId clock db) :
    Standing g0 userId now (run groupStep db ops) := by
  induction ops generalizing clock db with
  | nil => exact hd.later (by simpa using ht)
  | cons op ops ih =>
    have hno : clock ≤ op.time := List.rel_of_pairwise_cons ht List.mem_cons_self
    have hn := hs.trans hno
    exact ih hn (List.pairwise_cons.mp ht).2 ha.2 (groupStep_keeps hp op hn ha.1 (hd.later hno))

end

/-- The user is back in the first group whenever no upgrading subscription runs, if every upgrading
purchase was made alone. -/
theorem group_restored (g0 : String) (hPlain : PlainGroup g0) (userId : Int) (db : Database)
    (hFirst : (db.users userId).group = g0) (hNone : ∀ sub ∈ db.subs.rows, sub.userId ≠ userId)
    (ops : List GroupOp) (now : Int)
    (hTimes : (0 :: ops.map GroupOp.time ++ [now]).Pairwise (· ≤ ·))
    (hAlone : Along groupStep (BoughtAlone userId) db ops)
    (hIdle : ∀ sub ∈ (run groupStep db ops).subs.rows, sub.userId = userId →
      sub.upgradeGroup ≠ "" → sub.status = .active → ¬now < sub.endTime)
    (hExpired : ∀ sub ∈ (run groupStep db ops).subs.rows, sub.userId = userId → ¬isDue now sub) :
    ((run groupStep db ops).users userId).group = g0 := by
  have hs : Remembered g0 userId 0 db :=
    ⟨fun sub hsu hu => absurd hu.1 (hNone sub hsu),
      fun sub hsu _ _ hu => absurd hu.1 (hNone sub hsu)⟩
  obtain ⟨hDb, hg⟩ := groupRun_keeps hPlain ops now (le_refl 0) hTimes hAlone ⟨hs, .inl hFirst⟩
  rcases hg with hb | ⟨sub, hsu, hu, ha, _⟩
  · exact hb
  have he := (hDb.rows sub hsu hu).2.1 ha
  have ho := hIdle sub hsu hu.1 hu.2 ha
  have hd : isDue now sub = true := by
    simp only [isDue, decide_eq_true_eq]
    exact ⟨ha, he, Int.not_lt.mp ho⟩
  exact absurd hd (hExpired sub hsu hu.1)

def vipPlan : SubscriptionPlan :=
  ⟨1, "vip", .day, 30, 0, 0, "vip", 0, "never", 0⟩

def vipEnv (now : Int) : Env := ⟨now, plainCalendar, fun _ => .ok vipPlan, 0⟩

def buyVip (now id : Int) : GroupOp := .create (vipEnv now) {} id 7 vipPlan "order" none

def expireAll (now : Int) : GroupOp := .expireDue now {} (fun _ => 0) 300

theorem group_restored_after_expiry :
    ((run groupStep .initial [buyVip 1000 1, expireAll 3000000]).users 7).group = "default" := by
  have ha : Along groupStep (BoughtAlone 7) .initial [buyVip 1000 1, expireAll 3000000] := by
    refine ⟨?_, rfl, trivial⟩
    intro _ _
    exact ⟨by decide, by decide⟩
  exact group_restored "default" ⟨by decide, by decide⟩ 7 .initial rfl (by decide)
    [buyVip 1000 1, expireAll 3000000] 3000000 (by decide) ha (by decide) (by decide)

theorem group_kept_after_renewal :
    (∀ sub ∈ (run groupStep .initial [buyVip 1000 1, buyVip 2000 2, expireAll 3000000]).subs.rows,
        sub.status ≠ .active) ∧
    (Database.initial.users 7).group = "default" ∧
    ((run groupStep .initial [buyVip 1000 1, buyVip 2000 2, expireAll 3000000]).users 7).group =
      "vip" := by
  decide

end DeepRouter.Subscription
