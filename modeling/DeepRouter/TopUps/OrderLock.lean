import DeepRouter.Library.Runs
import DeepRouter.Library.ThreadCount

/-! # The lock of an order

Each operation on the map, on `createLock` and on a mutex is a step of its own. -/

namespace DeepRouter.TopUps

open Runs ThreadCount Function

/-- From `increment` on a thread has its mutex. -/
inductive LockPoint where
  | idle
  | lockCreate (tradeNo : String)
  | load (tradeNo : String)
  | store (tradeNo : String)
  | increment (tradeNo : String) (mutex : Nat)
  | unlockCreate (tradeNo : String) (mutex : Nat)
  | lockInner (tradeNo : String) (mutex : Nat)
  | critical (tradeNo : String) (mutex : Nat)
  | unload (tradeNo : String) (mutex : Nat)
  | unlockInner (tradeNo : String) (mutex loaded : Nat)
  | relockCreate (tradeNo : String) (mutex : Nat)
  | decrement (tradeNo : String) (mutex : Nat)
  | delete (tradeNo : String) (mutex : Nat)
  | release (tradeNo : String)
deriving DecidableEq

structure OrderLocks (ι : Type) where
  orderLocks : String → Option Nat
  createLock : Option ι
  allocated : Nat
  locked : Nat → Bool
  refCount : Nat → Int
  pc : ι → LockPoint

namespace OrderLocks

variable {ι : Type}

def init : OrderLocks ι where
  orderLocks _ := none
  createLock := none
  allocated := 0
  locked _ := false
  refCount _ := 0
  pc _ := .idle

variable [DecidableEq ι]

def moveTo (s : OrderLocks ι) (t : ι) (point : LockPoint) : OrderLocks ι :=
  { s with pc := Function.update s.pc t point }

/-- A thread that waits for a lock stays where it is. -/
def step (s : OrderLocks ι) (move : ι × String) : OrderLocks ι :=
  let t := move.1
  match s.pc t with
  | .idle => s.moveTo t (.lockCreate move.2)
  | .lockCreate tradeNo =>
    if s.createLock = none then { s with createLock := some t }.moveTo t (.load tradeNo) else s
  | .load tradeNo =>
    match s.orderLocks tradeNo with
    | some mutex => s.moveTo t (.increment tradeNo mutex)
    | none => s.moveTo t (.store tradeNo)
  | .store tradeNo =>
    { s with
      orderLocks := Function.update s.orderLocks tradeNo (some s.allocated)
      allocated := s.allocated + 1
      locked := Function.update s.locked s.allocated false
      refCount := Function.update s.refCount s.allocated 0 }.moveTo t (.increment tradeNo s.allocated)
  | .increment tradeNo mutex =>
    { s with refCount := Function.update s.refCount mutex (s.refCount mutex + 1) }.moveTo t
      (.unlockCreate tradeNo mutex)
  | .unlockCreate tradeNo mutex => { s with createLock := none }.moveTo t (.lockInner tradeNo mutex)
  | .lockInner tradeNo mutex =>
    if s.locked mutex then s
    else { s with locked := Function.update s.locked mutex true }.moveTo t (.critical tradeNo mutex)
  | .critical tradeNo mutex => s.moveTo t (.unload tradeNo mutex)
  | .unload tradeNo mutex =>
    match s.orderLocks tradeNo with
    | some loaded => s.moveTo t (.unlockInner tradeNo mutex loaded)
    -- without an entry the mutex stays locked
    | none => s.moveTo t .idle
  | .unlockInner tradeNo _ loaded =>
    { s with locked := Function.update s.locked loaded false }.moveTo t (.relockCreate tradeNo loaded)
  | .relockCreate tradeNo mutex =>
    if s.createLock = none then { s with createLock := some t }.moveTo t (.decrement tradeNo mutex)
    else s
  | .decrement tradeNo mutex =>
    { s with refCount := Function.update s.refCount mutex (s.refCount mutex - 1) }.moveTo t
      (if s.refCount mutex - 1 = 0 then .delete tradeNo mutex else .release tradeNo)
  | .delete tradeNo _ =>
    { s with orderLocks := Function.update s.orderLocks tradeNo none }.moveTo t (.release tradeNo)
  | .release _ => { s with createLock := none }.moveTo t .idle

end OrderLocks

namespace LockPoint

def uses : LockPoint → Option (String × Nat)
  | unlockCreate tradeNo mutex | lockInner tradeNo mutex | critical tradeNo mutex
  | unload tradeNo mutex | unlockInner tradeNo mutex _ | relockCreate tradeNo mutex
  | decrement tradeNo mutex => some (tradeNo, mutex)
  | _ => none

def counted (mutex : Nat) (point : LockPoint) : Bool := point.uses.any fun use => use.2 = mutex

def inside : LockPoint → Option (String × Nat)
  | critical tradeNo mutex | unload tradeNo mutex | unlockInner tradeNo mutex _ =>
    some (tradeNo, mutex)
  | _ => none

def holds (mutex : Nat) (point : LockPoint) : Bool := point.inside.any fun use => use.2 = mutex

def creating : LockPoint → Bool
  | load _ | store _ | increment _ _ | unlockCreate _ _ | decrement _ _ | delete _ _ | release _ => true
  | _ => false

def pending : LockPoint → Option (String × Nat)
  | increment tradeNo mutex | delete tradeNo mutex => some (tradeNo, mutex)
  | _ => none

end LockPoint

namespace OrderLocks

variable {ι : Type}

def Known (s : OrderLocks ι) : LockPoint → Prop
  | .store tradeNo => s.orderLocks tradeNo = none
  | .increment tradeNo mutex => s.orderLocks tradeNo = some mutex
  | .delete tradeNo mutex => s.orderLocks tradeNo = some mutex ∧ s.refCount mutex = 0
  | .unlockInner tradeNo mutex loaded => loaded = mutex ∧ s.orderLocks tradeNo = some mutex
  | point => ∀ use, point.uses = some use → s.orderLocks use.1 = some use.2

structure Inv [Fintype ι] (s : OrderLocks ι) : Prop where
  owner : ∀ t, (s.pc t).creating = true → s.createLock = some t
  known : ∀ t, s.Known (s.pc t)
  allocated : ∀ tradeNo mutex, s.orderLocks tradeNo = some mutex → mutex < s.allocated
  unshared : ∀ tradeNo tradeNo' mutex, s.orderLocks tradeNo = some mutex →
    s.orderLocks tradeNo' = some mutex → tradeNo = tradeNo'
  counted : ∀ mutex, s.refCount mutex = (count (LockPoint.counted mutex) s.pc : Int)
  held : ∀ mutex, (s.locked mutex).toNat = count (LockPoint.holds mutex) s.pc
  live : ∀ tradeNo mutex, s.orderLocks tradeNo = some mutex →
    0 < s.refCount mutex ∨ ∃ t, (s.pc t).pending = some (tradeNo, mutex)

theorem inv_init [Fintype ι] : Inv (init : OrderLocks ι) where
  owner _ h := by cases h
  known _ := by
    rintro use ⟨⟩
  allocated _ _ h := by cases h
  unshared _ _ _ h := by cases h
  counted mutex := by
    rw [count_eq_zero.mpr fun _ => rfl]
    rfl
  held mutex := by
    rw [count_eq_zero.mpr fun _ => rfl]
    rfl
  live _ _ h := by cases h

section

variable {s s' : OrderLocks ι} {point : LockPoint} {use : String × Nat}

theorem Known.entry (h : s.Known point) (hu : point.uses = some use) :
    s.orderLocks use.1 = some use.2 := by
  cases point with
  | unlockInner tradeNo mutex loaded =>
    cases hu
    exact h.2
  | store _ | increment _ _ | delete _ _ => cases hu
  | _ => exact h use hu

theorem Known.of_entry (h : s.Known point) (hc : point.creating = false)
    (he : ∀ use, point.uses = some use → s'.orderLocks use.1 = some use.2) : s'.Known point := by
  cases point with
  | unlockInner tradeNo mutex loaded => exact ⟨h.1, he _ rfl⟩
  | store _ | increment _ _ | delete _ _ => cases hc
  | _ => exact he

theorem Known.congr (h : s.Known point) (hm : s'.orderLocks = s.orderLocks)
    (hr : s'.refCount = s.refCount) : s'.Known point := by
  cases point <;> simpa only [Known, hm, hr] using h

theorem uses_of_inside (h : point.inside = some use) : point.uses = some use := by
  cases point <;> first | exact h | cases h

theorem creating_of_pending (h : point.pending = some use) : point.creating = true := by
  cases point <;> first | rfl | cases h

theorem counted_eq_true {mutex : Nat} :
    point.counted mutex = true ↔ ∃ tradeNo, point.uses = some (tradeNo, mutex) := by
  rw [LockPoint.counted]
  rcases point.uses with _ | ⟨tradeNo, used⟩
  · simp
  · simp

theorem holds_eq_true {mutex : Nat} :
    point.holds mutex = true ↔ ∃ tradeNo, point.inside = some (tradeNo, mutex) := by
  rw [LockPoint.holds]
  rcases point.inside with _ | ⟨tradeNo, used⟩
  · simp
  · simp

end

theorem entry_of_update {entries : String → Option Nat} {tradeNo other : String} {mutex : Nat}
    {value : Option Nat} (h : Function.update entries tradeNo value other = some mutex) :
    other = tradeNo ∧ value = some mutex ∨ other ≠ tradeNo ∧ entries other = some mutex := by
  rcases eq_or_ne other tradeNo with rfl | hn
  · rw [update_self] at h
    exact .inl ⟨rfl, h⟩
  · rw [update_of_ne hn] at h
    exact .inr ⟨hn, h⟩

namespace Inv

variable [Fintype ι] {s s' : OrderLocks ι} {t : ι} {point : LockPoint} {use : String × Nat} (h : Inv s)

include h

theorem known_at (hp : s.pc t = point) : s.Known point := hp ▸ h.known t

theorem owner_at (hp : s.pc t = point) (hc : point.creating = true) : s.createLock = some t :=
  h.owner t (hp ▸ hc)

theorem entry (hu : (s.pc t).uses = some use) : s.orderLocks use.1 = some use.2 :=
  (h.known t).entry hu

theorem entry_at (hp : s.pc t = point) (hu : point.uses = some use) :
    s.orderLocks use.1 = some use.2 := h.entry (hp ▸ hu)

theorem refCount_pos {tradeNo : String} {mutex : Nat}
    (hu : (s.pc t).uses = some (tradeNo, mutex)) : 0 < s.refCount mutex := by
  have hc : 0 < count (LockPoint.counted mutex) s.pc :=
    count_pos (counted_eq_true.mpr ⟨tradeNo, hu⟩)
  rw [h.counted]
  omega

theorem fresh {mutex : Nat} (hf : s.allocated ≤ mutex) :
    s.refCount mutex = 0 ∧ s.locked mutex = false := by
  have hz (f : LockPoint → Bool)
      (hu : ∀ point, f point = true → ∃ tradeNo, point.uses = some (tradeNo, mutex)) :
      count f s.pc = 0 := by
    rw [count_eq_zero]
    intro t
    rw [Bool.eq_false_iff]
    intro hc
    obtain ⟨tradeNo, hu⟩ := hu _ hc
    exact absurd hf (Nat.not_le.mpr (h.allocated _ _ (h.entry hu)))
  have hr := h.counted mutex
  have hl := h.held mutex
  rw [hz _ fun _ => counted_eq_true.mp] at hr
  rw [hz _ fun _ hh => (holds_eq_true.mp hh).imp fun _ => uses_of_inside] at hl
  exact ⟨hr, by simpa using hl⟩

theorem others_not_creating (how : s.createLock = some t) {u : ι} (hn : u ≠ t) :
    (s.pc u).creating = false := by
  rw [Bool.eq_false_iff]
  intro hc
  have ho := h.owner u hc
  rw [how] at ho
  cases ho
  exact hn rfl

theorem live_at {tradeNo : String} {mutex : Nat} (hPt : s.pc t = point)
    (hc : point.creating = true) (he : s.orderLocks tradeNo = some mutex) :
    0 < s.refCount mutex ∨ point.pending = some (tradeNo, mutex) := by
  rcases h.live tradeNo mutex he with hpo | ⟨u, hp⟩
  · exact .inl hpo
  rcases eq_or_ne u t with rfl | hn
  · exact .inr (hPt ▸ hp)
  · have hu := creating_of_pending hp
    rw [h.others_not_creating (h.owner_at hPt hc) hn] at hu
    cases hu

/-- Two threads inside the section of an order hold the same mutex, which only one thread holds. -/
theorem inside_unique {u : ι} {tradeNo : String} {mutex mutex' : Nat}
    (ht : (s.pc t).inside = some (tradeNo, mutex)) (hu : (s.pc u).inside = some (tradeNo, mutex')) :
    t = u := by
  have he := h.entry (uses_of_inside ht)
  rw [h.entry (uses_of_inside hu)] at he
  cases he
  have ho : count (LockPoint.holds mutex) s.pc ≤ 1 := by
    rw [← h.held]
    exact Bool.toNat_le _
  exact eq_of_count_le_one ho (holds_eq_true.mpr ⟨tradeNo, ht⟩) (holds_eq_true.mpr ⟨tradeNo, hu⟩)

theorem empty_of_idle (hi : ∀ t, s.pc t = .idle) (tradeNo : String) :
    s.orderLocks tradeNo = none := by
  cases he : s.orderLocks tradeNo with
  | none => rfl
  | some mutex =>
    rcases h.live tradeNo mutex he with hp | ⟨t, hpe⟩
    · rw [h.counted, count_eq_zero.mpr fun t => by rw [hi t]; rfl] at hp
      cases hp
    · rw [hi t] at hpe
      cases hpe

variable [DecidableEq ι]

theorem quiet {before : LockPoint} (hPt : s.pc t = before)
    (hp : s'.pc = Function.update s.pc t point) (hm : s'.orderLocks = s.orderLocks)
    (hal : s'.allocated = s.allocated) (hr : s'.refCount = s.refCount)
    (hcr : s'.createLock = s.createLock ∨ s.createLock = none ∨ s.createLock = some t)
    (ho : point.creating = true → s'.createLock = some t) (hk : s'.Known point)
    (hpe : before.pending = none) (hco : ∀ mutex, point.counted mutex = before.counted mutex)
    (hh : ∀ mutex, (s'.locked mutex).toNat + (before.holds mutex).toNat =
      (s.locked mutex).toNat + (point.holds mutex).toNat) : Inv s' where
  owner u hu := by
    rw [hp] at hu
    rcases eq_or_ne u t with rfl | hNe
    · rw [update_self] at hu
      exact ho hu
    rw [update_of_ne hNe] at hu
    have hot := h.owner u hu
    rcases hcr with hs | hn | how
    · exact hs.trans hot
    · rw [hn] at hot
      cases hot
    · rw [how] at hot
      cases hot
      exact absurd rfl hNe
  known u := by
    rw [hp]
    rcases eq_or_ne u t with rfl | hNe
    · rw [update_self]
      exact hk
    · rw [update_of_ne hNe]
      exact (h.known u).congr hm hr
  allocated tradeNo mutex he := by
    rw [hm] at he
    rw [hal]
    exact h.allocated tradeNo mutex he
  unshared := by
    rw [hm]
    exact h.unshared
  counted mutex := by
    have hc := count_update (LockPoint.counted mutex) s.pc t point
    have hb := h.counted mutex
    rw [hPt, hco] at hc
    rw [hp, hr, hb]
    omega
  held mutex := by
    have hc := count_update (LockPoint.holds mutex) s.pc t point
    have hb := h.held mutex
    have ha := hh mutex
    rw [hPt] at hc
    rw [hp]
    omega
  live tradeNo mutex he := by
    rw [hm] at he
    rw [hr]
    refine (h.live tradeNo mutex he).imp_right ?_
    rintro ⟨u, hu⟩
    refine ⟨u, ?_⟩
    rcases eq_or_ne u t with rfl | hNe
    · rw [hPt, hpe] at hu
      cases hu
    · rw [hp, update_of_ne hNe]
      exact hu

theorem exclusive {before : LockPoint} (hPt : s.pc t = before) (hbe : before.creating = true)
    (hPc : s'.pc = Function.update s.pc t point) (hcr : s'.createLock = s.createLock)
    (hl : s'.locked = s.locked) (hh : ∀ mutex, point.holds mutex = before.holds mutex)
    (hk : s'.Known point)
    (hEntry : ∀ u use, (s.pc u).uses = some use → u ≠ t → s'.orderLocks use.1 = some use.2)
    (hal : ∀ tradeNo mutex, s'.orderLocks tradeNo = some mutex → mutex < s'.allocated)
    (hun : ∀ tradeNo tradeNo' mutex, s'.orderLocks tradeNo = some mutex →
      s'.orderLocks tradeNo' = some mutex → tradeNo = tradeNo')
    (hco : ∀ mutex, s'.refCount mutex + ((before.counted mutex).toNat : Int) =
      s.refCount mutex + ((point.counted mutex).toNat : Int))
    (hli : ∀ tradeNo mutex, s'.orderLocks tradeNo = some mutex →
      0 < s'.refCount mutex ∨ point.pending = some (tradeNo, mutex)) : Inv s' where
  owner u hu := by
    rw [hPc] at hu
    rcases eq_or_ne u t with rfl | hn
    · exact hcr.trans (h.owner_at hPt hbe)
    · rw [update_of_ne hn, h.others_not_creating (h.owner_at hPt hbe) hn] at hu
      cases hu
  known u := by
    rw [hPc]
    rcases eq_or_ne u t with rfl | hn
    · rw [update_self]
      exact hk
    · rw [update_of_ne hn]
      exact (h.known u).of_entry (h.others_not_creating (h.owner_at hPt hbe) hn)
        fun use hus => hEntry u use hus hn
  allocated := hal
  unshared := hun
  counted mutex := by
    have hc := count_update (LockPoint.counted mutex) s.pc t point
    have hb := h.counted mutex
    have ha := hco mutex
    rw [hPt] at hc
    rw [hPc]
    omega
  held mutex := by
    have hc := count_update (LockPoint.holds mutex) s.pc t point
    have hb := h.held mutex
    rw [hPt, hh] at hc
    rw [hPc, hl]
    omega
  live tradeNo mutex hEntry' := by
    refine (hli tradeNo mutex hEntry').imp_right fun hp => ⟨t, ?_⟩
    rw [hPc, update_self]
    exact hp

section

variable {tradeNo : String} {mutex : Nat}

theorem store (hPt : s.pc t = .store tradeNo) (next : String) : Inv (s.step (t, next)) := by
  have hn : s.orderLocks tradeNo = none := h.known_at hPt
  obtain ⟨hr, hl⟩ := h.fresh le_rfl
  have hs : Function.update s.refCount s.allocated 0 = s.refCount :=
    update_eq_self_iff.mpr hr.symm
  have ho : ∀ {other mutex}, s.orderLocks other = some mutex → other ≠ tradeNo := by
    rintro other mutex hEntry rfl
    rw [hn] at hEntry
    cases hEntry
  simp only [step, hPt]
  refine h.exclusive hPt rfl rfl rfl (update_eq_self_iff.mpr hl.symm) (fun _ => rfl)
    (update_self _ _ _) ?_ ?_ ?_ ?_ ?_
  · intro u use hu _
    have hEntry := h.entry hu
    exact (update_of_ne (ho hEntry) _ _).trans hEntry
  · intro other mutex hEntry
    rcases entry_of_update hEntry with ⟨_, hNew⟩ | ⟨_, hOld⟩
    · cases hNew
      exact Nat.lt_succ_self _
    · exact Nat.lt_succ_of_lt (h.allocated _ _ hOld)
  · intro other other' mutex hEntry hEntry'
    rcases entry_of_update hEntry with ⟨rfl, hNew⟩ | ⟨_, hOld⟩
    · rcases entry_of_update hEntry' with ⟨rfl, _⟩ | ⟨_, hOld'⟩
      · rfl
      · cases hNew
        exact absurd (h.allocated _ _ hOld') (Nat.lt_irrefl _)
    · rcases entry_of_update hEntry' with ⟨rfl, hNew'⟩ | ⟨_, hOld'⟩
      · cases hNew'
        exact absurd (h.allocated _ _ hOld) (Nat.lt_irrefl _)
      · exact h.unshared _ _ _ hOld hOld'
  · exact fun mutex => congrArg (· + (0 : Int)) (congrFun hs mutex)
  · intro other mutex hEntry
    rcases entry_of_update hEntry with ⟨rfl, hNew⟩ | ⟨_, hOld⟩
    · cases hNew
      exact .inr rfl
    · rcases h.live_at hPt rfl hOld with hpo | ⟨⟨⟩⟩
      exact .inl (hpo.trans_eq (congrFun hs mutex).symm)

theorem increment (hPt : s.pc t = .increment tradeNo mutex) (next : String) :
    Inv (s.step (t, next)) := by
  have he : s.orderLocks tradeNo = some mutex := h.known_at hPt
  have hn : 0 ≤ s.refCount mutex := by
    rw [h.counted]
    omega
  simp only [step, hPt]
  refine h.exclusive hPt rfl rfl rfl rfl (fun _ => rfl) ?_ (fun _ _ hu _ => h.entry hu) h.allocated
    h.unshared ?_ ?_
  · rintro use ⟨⟩
    exact he
  · intro other
    rcases eq_or_ne other mutex with rfl | hNe
    · simp [moveTo, LockPoint.counted, LockPoint.uses]
    · simp [moveTo, LockPoint.counted, LockPoint.uses, hNe, hNe.symm]
  · intro other used hus
    refine .inl ?_
    change 0 < Function.update s.refCount mutex (s.refCount mutex + 1) used
    rcases eq_or_ne used mutex with rfl | hNe
    · rw [update_self]
      omega
    rw [update_of_ne hNe]
    rcases h.live_at hPt rfl hus with hpo | ⟨⟨⟩⟩
    · exact hpo
    · exact absurd rfl hNe

theorem decrement (hPt : s.pc t = .decrement tradeNo mutex) (next : String) :
    Inv (s.step (t, next)) := by
  have hu : (s.pc t).uses = some (tradeNo, mutex) := by rw [hPt]; rfl
  have he := h.entry hu
  have hpo := h.refCount_pos hu
  simp only [step, hPt]
  refine h.exclusive hPt rfl rfl rfl rfl ?_ ?_ (fun _ _ ho _ => h.entry ho) h.allocated h.unshared
    ?_ ?_
  · intro mutex
    split <;> rfl
  · split
    · rename_i hz
      exact ⟨he, (update_self _ _ _).trans hz⟩
    · rintro use ⟨⟩
  · intro other
    have ha : LockPoint.counted other (if s.refCount mutex - 1 = 0 then .delete tradeNo mutex
        else .release tradeNo) = false := by
      split <;> rfl
    rw [ha]
    rcases eq_or_ne other mutex with rfl | hn
    · simp [moveTo, LockPoint.counted, LockPoint.uses]
    · simp [moveTo, LockPoint.counted, LockPoint.uses, hn, hn.symm]
  · intro other used hus
    change 0 < Function.update s.refCount mutex (s.refCount mutex - 1) used ∨ _
    rcases eq_or_ne used mutex with rfl | hn
    · obtain rfl := h.unshared _ _ _ he hus
      rw [update_self]
      split
      · exact .inr rfl
      · exact .inl (by omega)
    · rw [update_of_ne hn]
      rcases h.live_at hPt rfl hus with hpo | ⟨⟨⟩⟩
      exact .inl hpo

theorem delete (hPt : s.pc t = .delete tradeNo mutex) (next : String) : Inv (s.step (t, next)) := by
  obtain ⟨he, hz⟩ : s.orderLocks tradeNo = some mutex ∧ s.refCount mutex = 0 := h.known_at hPt
  have ho : ∀ {other mutex}, Function.update s.orderLocks tradeNo none other = some mutex →
      other ≠ tradeNo ∧ s.orderLocks other = some mutex := by
    intro other mutex hu
    rcases entry_of_update hu with ⟨_, hn⟩ | hot
    · cases hn
    · exact hot
  simp only [step, hPt]
  refine h.exclusive hPt rfl rfl rfl rfl (fun _ => rfl) ?_ ?_ ?_ ?_ (fun _ => rfl) ?_
  · rintro use ⟨⟩
  · intro u use hus _
    -- a thread that still counts on the mutex would keep its count up
    have hot : use.1 ≠ tradeNo := by
      intro hs
      have hUsed := h.entry hus
      rw [hs, he] at hUsed
      have hpo : 0 < s.refCount use.2 := h.refCount_pos hus
      cases hUsed
      omega
    exact (update_of_ne hot _ _).trans (h.entry hus)
  · intro other used hUsed
    exact h.allocated _ _ (ho hUsed).2
  · intro other other' used hUsed hUsed'
    exact h.unshared _ _ _ (ho hUsed).2 (ho hUsed').2
  · intro other used hUsed
    obtain ⟨hNe, hUsed⟩ := ho hUsed
    rcases h.live_at hPt rfl hUsed with hpo | ⟨⟨⟩⟩
    · exact .inl hpo
    · exact absurd rfl hNe

theorem move {before : LockPoint} {createLock : Option ι} (hPt : s.pc t = before)
    (hc : createLock = s.createLock ∨ s.createLock = none ∨ s.createLock = some t)
    (ho : point.creating = true → createLock = some t) (hk : s.Known point)
    (hp : before.pending = none) (hu : point.uses = before.uses)
    (hi : point.inside = before.inside) : Inv ({ s with createLock }.moveTo t point) := by
  refine h.quiet hPt rfl rfl rfl rfl hc ho (hk.congr rfl rfl) hp ?_ ?_
  · intro mutex
    rw [LockPoint.counted, LockPoint.counted, hu]
  · intro mutex
    rw [LockPoint.holds, LockPoint.holds, hi]
    rfl

theorem lockInner (hp : s.pc t = .lockInner tradeNo mutex) (next : String) :
    Inv (s.step (t, next)) := by
  have hu : (s.pc t).uses = some (tradeNo, mutex) := by rw [hp]; rfl
  simp only [step, hp]
  split
  · exact h
  rename_i hf
  refine h.quiet hp rfl rfl rfl rfl (.inl rfl) (fun hc => by cases hc) ?_ rfl (fun _ => rfl) ?_
  · rintro use ⟨⟩
    exact h.entry hu
  intro other
  rcases eq_or_ne other mutex with rfl | hn
  · simp [moveTo, LockPoint.holds, LockPoint.inside, Bool.eq_false_iff.mpr hf]
  · simp [moveTo, LockPoint.holds, LockPoint.inside, hn, hn.symm]

theorem unlockInner {loaded : Nat}
    (hp : s.pc t = .unlockInner tradeNo mutex loaded) (next : String) : Inv (s.step (t, next)) := by
  obtain ⟨rfl, he⟩ : loaded = mutex ∧ s.orderLocks tradeNo = some mutex := h.known_at hp
  have hl : s.locked loaded = true := by
    have hh : 0 < count (LockPoint.holds loaded) s.pc :=
      count_pos (t := t) (by rw [hp]; simp [LockPoint.holds, LockPoint.inside])
    rw [← h.held] at hh
    cases hl : s.locked loaded with
    | true => rfl
    | false =>
      rw [hl] at hh
      cases hh
  simp only [step, hp]
  refine h.quiet hp rfl rfl rfl rfl (.inl rfl) (fun hc => by cases hc) ?_ rfl (fun _ => rfl) ?_
  · rintro use ⟨⟩
    exact he
  intro other
  rcases eq_or_ne other loaded with rfl | hn
  · simp [moveTo, LockPoint.holds, LockPoint.inside, hl]
  · simp [moveTo, LockPoint.holds, LockPoint.inside, hn, hn.symm]

end

theorem step (move : ι × String) : Inv (s.step move) := by
  obtain ⟨t, next⟩ := move
  cases hPt : s.pc t with
  | store tradeNo => exact h.store hPt next
  | increment tradeNo mutex => exact h.increment hPt next
  | lockInner tradeNo mutex => exact h.lockInner hPt next
  | unlockInner tradeNo mutex loaded => exact h.unlockInner hPt next
  | decrement tradeNo mutex => exact h.decrement hPt next
  | delete tradeNo mutex => exact h.delete hPt next
  | idle =>
    simp only [OrderLocks.step, hPt]
    refine h.move hPt (.inl rfl) ?_ ?_ rfl rfl rfl
    · rintro ⟨⟩
    · rintro use ⟨⟩
  | lockCreate tradeNo =>
    simp only [OrderLocks.step, hPt]
    split
    · rename_i hf
      refine h.move hPt (.inr (.inl hf)) (fun _ => rfl) ?_ rfl rfl rfl
      rintro use ⟨⟩
    · exact h
  | load tradeNo =>
    have ho : s.createLock = some t := h.owner_at hPt rfl
    simp only [OrderLocks.step, hPt]
    split
    · rename_i he
      exact h.move hPt (.inl rfl) (fun _ => ho) he rfl rfl rfl
    · rename_i hn
      exact h.move hPt (.inl rfl) (fun _ => ho) hn rfl rfl rfl
  | unlockCreate tradeNo mutex =>
    simp only [OrderLocks.step, hPt]
    refine h.move hPt (.inr (.inr (h.owner_at hPt rfl))) ?_ (fun _ hu => h.entry_at hPt hu) rfl rfl rfl
    rintro ⟨⟩
  | critical tradeNo mutex =>
    simp only [OrderLocks.step, hPt]
    refine h.move hPt (.inl rfl) ?_ (fun _ hu => h.entry_at hPt hu) rfl rfl rfl
    rintro ⟨⟩
  | unload tradeNo mutex =>
    have he : s.orderLocks tradeNo = some mutex := h.entry_at hPt rfl
    simp only [OrderLocks.step, hPt, he]
    refine h.move hPt (.inl rfl) ?_ ⟨rfl, he⟩ rfl rfl rfl
    rintro ⟨⟩
  | relockCreate tradeNo mutex =>
    simp only [OrderLocks.step, hPt]
    split
    · rename_i hf
      exact h.move hPt (.inr (.inl hf)) (fun _ => rfl) (fun _ hu => h.entry_at hPt hu) rfl rfl rfl
    · exact h
  | release tradeNo =>
    simp only [OrderLocks.step, hPt]
    refine h.move hPt (.inr (.inr (h.owner_at hPt rfl))) ?_ ?_ rfl rfl rfl
    · rintro ⟨⟩
    · rintro use ⟨⟩

end Inv

/-- At most one thread is inside the section of an order, and no entry is left when all threads are
outside. -/
theorem order_lock_excludes {ι : Type} [Fintype ι] [DecidableEq ι] (moves : List (ι × String)) :
    let s : OrderLocks ι := run step init moves
    (∀ t u tradeNo mutex mutex', (s.pc t).inside = some (tradeNo, mutex) →
      (s.pc u).inside = some (tradeNo, mutex') → t = u) ∧
    (∀ t tradeNo mutex, (s.pc t).uses = some (tradeNo, mutex) → s.orderLocks tradeNo = some mutex) ∧
    (∀ t tradeNo mutex loaded, s.pc t = .unlockInner tradeNo mutex loaded → loaded = mutex) ∧
    ((∀ t, s.pc t = .idle) → ∀ tradeNo, s.orderLocks tradeNo = none) := by
  intro s
  have h : Inv s := run_preserves (I := fun s : OrderLocks ι => Inv s)
    (fun _ move hi => hi.step move) inv_init moves
  refine ⟨fun t u tradeNo mutex mutex' => h.inside_unique, fun t tradeNo mutex => h.entry, ?_,
    h.empty_of_idle⟩
  exact fun t tradeNo mutex loaded hp => (h.known_at hp).1

example :
    let turns (t : Bool) (n : Nat) := List.replicate n (t, "order-1")
    let waiting := run step (init : OrderLocks Bool) (turns false 7 ++ turns true 8)
    let passed := run step waiting (turns false 3 ++ turns true 1)
    waiting.pc false = .critical "order-1" 0 ∧ waiting.pc true = .lockInner "order-1" 0 ∧
      waiting.refCount 0 = 2 ∧ passed.pc true = .critical "order-1" 0 := by
  decide +kernel

end OrderLocks

end DeepRouter.TopUps
