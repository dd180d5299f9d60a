import Mathlib.Data.List.Dedup
import Mathlib.Data.List.Sort
import DeepRouter.Subscription.Create

/-! # Leaving an upgraded group -/

namespace DeepRouter.Subscription

open Store GoStrings Atomic KeyedTable List

/-- The first of the rows in the order `end_time desc, id desc`. -/
def latest : List UserSubscription → Option UserSubscription
  | [] => none
  | sub :: rest =>
    match latest rest with
    | none => some sub
    | some best =>
      if best.endTime < sub.endTime ∨ (best.endTime = sub.endTime ∧ best.id < sub.id) then some sub
      else some best

def findUpgraded (fault : Fault) (userId : Int) (p : UserSubscription → Bool) (db : Database) :
    Option UserSubscription :=
  match fault with
  | some _ => none
  | none =>
    latest (db.subs.rows.filter fun sub => sub.userId = userId ∧ sub.upgradeGroup ≠ "" ∧ p sub)

structure DowngradeFaults where
  (readGroup findActive writeGroup : Fault := none)

def downgradeUserGroupForSubscriptionTx (faults : DowngradeFaults) (sub : UserSubscription)
    (now : Int) (db : Database) : Except Err (String × Database) :=
  let upgradeGroup := trimSpace sub.upgradeGroup
  if upgradeGroup = "" then .ok ("", db)
  else if sub.userId ≤ 0 then .error "invalid userId"
  else do
    attempt faults.readGroup
    let currentGroup := (db.users sub.userId).group
    if currentGroup ≠ upgradeGroup then .ok ("", db)
    else if (findUpgraded faults.findActive sub.userId
        (fun other => other.status = .active ∧ now < other.endTime ∧ other.id ≠ sub.id) db).isSome
      then .ok ("", db)
    else
      let prevGroup := trimSpace sub.prevUserGroup
      if prevGroup = "" ∨ prevGroup = currentGroup then .ok ("", db)
      else do
        attempt faults.writeGroup
        .ok (prevGroup, setGroup db sub.userId prevGroup)

structure AdminFaults where
  (find write : Fault := none)
  downgrade : DowngradeFaults := {}
  commit : Fault := none

def downgradeMessage (target : String) : String :=
  if target ≠ "" then "用户分组将回退到 " ++ target else ""

def invalidateTx (now : Int) (faults : AdminFaults) (id : Int) (db : Database) :
    Except Err (String × Database) := do
  attempt faults.find
  let sub ← require (db.subs.find? id) recordNotFound
  attempt faults.write
  let sub := { sub with status := .cancelled, endTime := now }
  let (target, db) ←
    downgradeUserGroupForSubscriptionTx faults.downgrade sub now (db.saveSub sub)
  .ok (downgradeMessage target, db)

def adminInvalidateUserSubscription (now : Int) (faults : AdminFaults) (userSubscriptionId : Int)
    (db : Database) : Except Err String × Database :=
  if userSubscriptionId ≤ 0 then (.error "invalid userSubscriptionId", db)
  else transaction db (invalidateTx now faults userSubscriptionId db) faults.commit

def deleteSub (db : Database) (id : Int) : Database :=
  { db with subs := db.subs.keep fun sub => decide (sub.id ≠ id) }

def deleteTx (now : Int) (faults : AdminFaults) (id : Int) (db : Database) :
    Except Err (String × Database) := do
  attempt faults.find
  let sub ← require (db.subs.find? id) recordNotFound
  let (target, db) ← downgradeUserGroupForSubscriptionTx faults.downgrade sub now db
  attempt faults.write
  .ok (downgradeMessage target, deleteSub db id)

def adminDeleteUserSubscription (now : Int) (faults : AdminFaults) (userSubscriptionId : Int)
    (db : Database) : Except Err String × Database :=
  if userSubscriptionId ≤ 0 then (.error "invalid userSubscriptionId", db)
  else transaction db (deleteTx now faults userSubscriptionId db) faults.commit

structure ExpireFaults where
  list : Fault := none
  (update findActive findExpired readGroup writeGroup commit : Int → Fault := fun _ => none)

/-- `status = 'active' AND end_time > 0 AND end_time <= now`. -/
def isDue (now : Int) (sub : UserSubscription) : Bool :=
  sub.status = .active ∧ 0 < sub.endTime ∧ sub.endTime ≤ now

def markExpired (now userId : Int) (sub : UserSubscription) : UserSubscription :=
  if sub.userId = userId ∧ isDue now sub then { sub with status := .expired } else sub

theorem markExpired_id (now userId : Int) (sub : UserSubscription) :
    (markExpired now userId sub).id = sub.id := by
  unfold markExpired
  split
  · rfl
  · rfl

def markExpiredRows (now userId : Int) (db : Database) : Database :=
  { db with subs := db.subs.mapRows (markExpired now userId) (markExpired_id now userId) }

variable {now userId : Int}

theorem mem_markExpiredRows {db : Database} {sub' : UserSubscription} :
    sub' ∈ (markExpiredRows now userId db).subs.rows ↔
      ∃ sub ∈ db.subs.rows, markExpired now userId sub = sub' :=
  mem_map

/-- The group change of `ExpireDueSubscriptions`, after the rows of the user are marked. -/
def restoreGroupTx (faults : ExpireFaults) (now userId : Int) (db : Database) :
    Except Err Database :=
  if (findUpgraded (faults.findActive userId) userId
      (fun sub => sub.status = .active ∧ now < sub.endTime) db).isSome then .ok db
  else
    match findUpgraded (faults.findExpired userId) userId (fun sub => sub.status = .expired) db with
    | none => .ok db
    | some lastExpired =>
      let upgradeGroup := trimSpace lastExpired.upgradeGroup
      let prevGroup := trimSpace lastExpired.prevUserGroup
      if upgradeGroup = "" ∨ prevGroup = "" then .ok db
      else if userId ≤ 0 then .error "invalid userId"
      else do
        attempt (faults.readGroup userId)
        let currentGroup := (db.users userId).group
        if currentGroup ≠ upgradeGroup ∨ currentGroup = prevGroup then .ok db
        else do
          attempt (faults.writeGroup userId)
          .ok (setGroup db userId prevGroup)

def expireUserTx (faults : ExpireFaults) (now userId : Int) (db : Database) :
    Except Err (Unit × Database) := do
  attempt (faults.update userId)
  let db ← restoreGroupTx faults now userId (markExpiredRows now userId db)
  .ok ((), db)

/-- The counter is a Go variable and keeps the rows of a transaction that fails after its update. -/
def expireUsers (faults : ExpireFaults) (now : Int) :
    List Int → Nat → Database → (Nat × Fault) × Database
  | [], count, db => ((count, none), db)
  | userId :: rest, count, db =>
    let due := if (faults.update userId).isSome then 0
      else db.subs.rows.countP fun sub => sub.userId = userId ∧ isDue now sub
    match transaction db (expireUserTx faults now userId db) (faults.commit userId) with
    | (.error e, db) => ((count + due, some e), db)
    | (.ok (), db) => expireUsers faults now rest (count + due) db

def dueForExpiry (now limit : Int) (db : Database) : List UserSubscription :=
  ((db.subs.rows.filter (isDue now)).insertionSort
    (fun a b => a.endTime < b.endTime ∨ (a.endTime = b.endTime ∧ a.id ≤ b.id))).take
      (if limit ≤ 0 then 200 else limit.toNat)

/-- `rank` is the order in which the map of user ids is ranged over. -/
def expiringUsers (rank : Int → Nat) (batch : List UserSubscription) : List Int :=
  ((batch.map UserSubscription.userId).filter (0 < ·)).dedup.insertionSort
    (fun a b => rank a ≤ rank b)

def expireDueSubscriptions (now : Int) (faults : ExpireFaults) (rank : Int → Nat) (limit : Int)
    (db : Database) : (Nat × Fault) × Database :=
  match faults.list with
  | some e => ((0, some e), db)
  | none => expireUsers faults now (expiringUsers rank (dueForExpiry now limit db)) 0 db

theorem latest_eq_none {rows : List UserSubscription} (h : latest rows = none) : rows = [] := by
  cases rows with
  | nil => rfl
  | cons sub rest =>
    rw [latest] at h
    split at h
    · cases h
    · split at h <;> cases h

theorem latest_eq_some {rows : List UserSubscription} {best : UserSubscription}
    (h : latest rows = some best) : best ∈ rows ∧ ∀ sub ∈ rows, sub.endTime ≤ best.endTime := by
  induction rows generalizing best with
  | nil => cases h
  | cons sub rest ih =>
    rw [latest] at h
    split at h
    · rename_i hr
      cases h
      rw [latest_eq_none hr]
      simp
    · rename_i found hr
      obtain ⟨hm, hma⟩ := ih hr
      split at h
      · rename_i hl
        cases h
        refine ⟨mem_cons_self, ?_⟩
        intro x hx
        rcases mem_cons.mp hx with rfl | hx
        · exact le_refl _
        · have hLe := hma x hx
          omega
      · rename_i hn
        cases h
        refine ⟨mem_cons_of_mem _ hm, ?_⟩
        intro x hx
        rcases mem_cons.mp hx with rfl | hx
        · omega
        · exact hma x hx

variable {userId : Int}

theorem findUpgraded_some {fault : Fault} {p : UserSubscription → Bool}
    {db : Database} {sub : UserSubscription} (h : findUpgraded fault userId p db = some sub) :
    sub ∈ db.subs.rows ∧ sub.userId = userId ∧ sub.upgradeGroup ≠ "" ∧ p sub = true ∧
      ∀ other ∈ db.subs.rows, other.userId = userId → other.upgradeGroup ≠ "" → p other = true →
        other.endTime ≤ sub.endTime := by
  unfold findUpgraded at h
  split at h
  · cases h
  obtain ⟨hm, hma⟩ := latest_eq_some h
  obtain ⟨hr, hs⟩ := mem_filter.mp hm
  have hs : sub.userId = userId ∧ sub.upgradeGroup ≠ "" ∧ p sub = true := by simpa using hs
  refine ⟨hr, hs.1, hs.2.1, hs.2.2, ?_⟩
  intro other ho hu hg hp
  exact hma other (mem_filter.mpr ⟨ho, by simp [hu, hg, hp]⟩)

theorem findUpgraded_none {p : UserSubscription → Bool} {db : Database}
    (h : findUpgraded none userId p db = none) :
    ∀ other ∈ db.subs.rows, other.userId = userId → other.upgradeGroup ≠ "" → p other = false := by
  intro other ho hu hg
  have he := latest_eq_none h
  rw [filter_eq_nil_iff] at he
  simpa [hu, hg] using he other ho

theorem setGroup_self (db : Database) (userId : Int) (group : String) :
    ((setGroup db userId group).users userId).group = group := by
  simp [setGroup]

theorem setGroup_of_ne (db : Database) {userId other : Int} (group : String) (h : other ≠ userId) :
    (setGroup db userId group).users other = db.users other := by
  simp [setGroup, Function.update_of_ne h]

variable {db db' : Database}

theorem downgrade_ok {fl : DowngradeFaults} {sub : UserSubscription} {now : Int} {target : String}
    (h : downgradeUserGroupForSubscriptionTx fl sub now db = .ok (target, db')) :
    (db' = db ∧ (trimSpace sub.upgradeGroup = "" ∨
      (db.users sub.userId).group ≠ trimSpace sub.upgradeGroup ∨
      (∃ other ∈ db.subs.rows, other.userId = sub.userId ∧ other.upgradeGroup ≠ "" ∧
        other.status = .active ∧ other.id ≠ sub.id) ∨
      trimSpace sub.prevUserGroup = "" ∨
      trimSpace sub.prevUserGroup = (db.users sub.userId).group)) ∨
    (db' = setGroup db sub.userId (trimSpace sub.prevUserGroup) ∧
      trimSpace sub.upgradeGroup ≠ "" ∧ trimSpace sub.prevUserGroup ≠ "") := by
  unfold downgradeUserGroupForSubscriptionTx at h
  dsimp only at h
  split at h
  · rename_i hem
    cases h
    exact .inl ⟨rfl, .inl hem⟩
  rename_i hup
  split at h
  · cases h
  obtain ⟨_, _, h⟩ := bind_eq_ok.mp h
  split at h
  · rename_i hd
    cases h
    exact .inl ⟨rfl, .inr (.inl hd)⟩
  split at h
  · rename_i ha
    cases h
    obtain ⟨other, ho⟩ := Option.isSome_iff_exists.mp ha
    obtain ⟨hr, hu, hg, hp, _⟩ := findUpgraded_some ho
    have hp : other.status = .active ∧ now < other.endTime ∧ other.id ≠ sub.id := by
      simpa using hp
    exact .inl ⟨rfl, .inr (.inr (.inl ⟨other, hr, hu, hg, hp.1, hp.2.2⟩))⟩
  · split at h
    · rename_i hpr
      cases h
      exact .inl ⟨rfl, .inr (.inr (.inr hpr))⟩
    rename_i hpr
    obtain ⟨_, _, h⟩ := bind_eq_ok.mp h
    cases h
    exact .inr ⟨rfl, hup, fun he => hpr (.inl he)⟩

theorem downgrade_subs {fl : DowngradeFaults} {sub : UserSubscription} {now : Int} {target : String}
    (h : downgradeUserGroupForSubscriptionTx fl sub now db = .ok (target, db')) :
    db'.subs = db.subs := by
  rcases downgrade_ok h with ⟨rfl, _⟩ | ⟨rfl, _⟩
  · rfl
  · rfl

theorem restoreGroup_ok {fl : ExpireFaults} (h : restoreGroupTx fl now userId db = .ok db') :
    (db' = db ∧ (fl.findExpired userId = none →
      (∃ sub ∈ db.subs.rows, sub.userId = userId ∧ sub.upgradeGroup ≠ "" ∧ sub.status = .active) ∨
      (∀ sub ∈ db.subs.rows, sub.userId = userId → sub.upgradeGroup ≠ "" →
        sub.status ≠ .expired))) ∨
    (∃ last ∈ db.subs.rows, last.userId = userId ∧ last.upgradeGroup ≠ "" ∧
      last.status = .expired ∧
      (∀ other ∈ db.subs.rows, other.userId = userId → other.upgradeGroup ≠ "" →
        other.status = .expired → other.endTime ≤ last.endTime) ∧
      ((db' = db ∧ (trimSpace last.upgradeGroup = "" ∨ trimSpace last.prevUserGroup = "" ∨
          (db.users userId).group ≠ trimSpace last.upgradeGroup ∨
          (db.users userId).group = trimSpace last.prevUserGroup)) ∨
        (db' = setGroup db userId (trimSpace last.prevUserGroup) ∧
          trimSpace last.prevUserGroup ≠ ""))) := by
  unfold restoreGroupTx at h
  split at h
  · rename_i ha
    cases h
    obtain ⟨sub, hs⟩ := Option.isSome_iff_exists.mp ha
    obtain ⟨hr, hu, hg, hp, _⟩ := findUpgraded_some hs
    have hp : sub.status = .active ∧ now < sub.endTime := by simpa using hp
    exact .inl ⟨rfl, fun _ => .inl ⟨sub, hr, hu, hg, hp.1⟩⟩
  · split at h
    · rename_i hn
      cases h
      refine .inl ⟨rfl, fun hf => .inr ?_⟩
      intro sub hr hu hg
      rw [hf] at hn
      simpa using findUpgraded_none hn sub hr hu hg
    · rename_i last hl
      obtain ⟨hr, hu, hg, hp, hm⟩ := findUpgraded_some hl
      refine .inr ⟨last, hr, hu, hg, by simpa using hp, ?_, ?_⟩
      · intro other hOth ho hot hex
        exact hm other hOth ho hot (by simpa using hex)
      dsimp only at h
      split at h
      · rename_i hem
        cases h
        rcases hem with hem | hem
        · exact .inl ⟨rfl, .inl hem⟩
        · exact .inl ⟨rfl, .inr (.inl hem)⟩
      · rename_i hn
        split at h
        · cases h
        obtain ⟨_, _, h⟩ := bind_eq_ok.mp h
        split at h
        · rename_i hk
          cases h
          exact .inl ⟨rfl, .inr (.inr hk)⟩
        · obtain ⟨_, _, h⟩ := bind_eq_ok.mp h
          cases h
          exact .inr ⟨rfl, fun he => hn (.inr he)⟩

theorem restoreGroup_frame {fl : ExpireFaults} (h : restoreGroupTx fl now userId db = .ok db') :
    db'.subs = db.subs ∧ ∀ other, other ≠ userId → db'.users other = db.users other := by
  rcases restoreGroup_ok h with ⟨rfl, _⟩ | ⟨_, _, _, _, _, _, ⟨rfl, _⟩ | ⟨rfl, _⟩⟩
  · exact ⟨rfl, fun _ _ => rfl⟩
  · exact ⟨rfl, fun _ _ => rfl⟩
  · exact ⟨rfl, fun other hn => setGroup_of_ne db _ hn⟩

section

variable {now : Int} {db : Database}

theorem restoreGroup_total (now : Int) (db : Database) (hu : 0 < userId) :
    ∃ db', restoreGroupTx {} now userId db = .ok db' := by
  unfold restoreGroupTx
  split
  · exact ⟨_, rfl⟩
  split
  · exact ⟨_, rfl⟩
  dsimp only
  split
  · exact ⟨_, rfl⟩
  rw [if_neg (Int.not_le.mpr hu)]
  simp only [attempt_none, bind, Except.bind]
  split
  · exact ⟨_, rfl⟩
  · exact ⟨_, rfl⟩

theorem expireUser_total (now : Int) (db : Database) (hu : 0 < userId) :
    ∃ db', expireUserTx {} now userId db = .ok ((), db') ∧
      db'.subs = (markExpiredRows now userId db).subs := by
  obtain ⟨db', hr⟩ := restoreGroup_total now (markExpiredRows now userId db) hu
  refine ⟨db', ?_, (restoreGroup_frame hr).1⟩
  unfold expireUserTx
  rw [hr]
  rfl

theorem mem_expiringUsers {rank : Int → Nat} {batch : List UserSubscription} :
    userId ∈ expiringUsers rank batch ↔ (∃ sub ∈ batch, sub.userId = userId) ∧ 0 < userId := by
  simp only [expiringUsers, mem_insertionSort, mem_dedup, mem_filter, mem_map, decide_eq_true_eq]

end

end DeepRouter.Subscription
