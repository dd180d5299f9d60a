import Mathlib.Data.List.Nodup
import DeepRouter.TopUps.AutoTopup

/-! # Credits and charges of automatic top-ups -/

namespace DeepRouter.TopUps

open Runs List TopupState

variable {cfg : TopupSettings} {user : TopupUser}

theorem decideAutoTopup_ok {cents : Int}
    (h : decideAutoTopup cfg user = .ok cents) : user.quota < user.autoTopupThreshold := by
  simp only [decideAutoTopup] at h
  split at h
  · cases h
  split at h
  · cases h
  split at h
  · cases h
  · rename_i hl
    exact Int.not_le.mp hl

theorem decideAirwallexAutoTopup_ok {cents : Int}
    (h : decideAirwallexAutoTopup cfg user = .ok cents) : user.quota < user.autoTopupThreshold := by
  simp only [decideAirwallexAutoTopup] at h
  split at h
  · cases h
  split at h
  · cases h
  split at h
  · cases h
  split at h
  · cases h
  · rename_i hl
    exact Int.not_le.mp hl

theorem decideCharge_ok {cents : Int}
    (h : decideCharge cfg user = .ok cents) : user.quota < user.autoTopupThreshold := by
  rw [decideCharge] at h
  split at h
  · exact decideAirwallexAutoTopup_ok h
  · exact decideAutoTopup_ok h

namespace Worker

def row? : Worker → Option TopupUser
  | .decided user _ => some user
  | .locked user _ => some user
  | _ => none

def charge? : Worker → Option Charge
  | .charged _ _ charge => some charge
  | _ => none

end Worker

def TopupState.issues (cfg : TopupSettings) (s : TopupState) :
    TopupEvent → Option (TopupUser × Charge)
  | .advance i =>
    match s.workers i with
    | .locked user _ => some (user, chargeAt (provider cfg user) user.id s.now)
    | _ => none
  | _ => none

section

variable {cfg : TopupSettings} {s : TopupState} {e : TopupEvent}

theorem setWorker_workers (s : TopupState) (i j : Nat) (worker : Worker) :
    (s.setWorker i worker).workers j = if j = i then worker else s.workers j := rfl

theorem charge?_setWorker {i : Nat} {worker : Worker} (hc : worker.charge? = none) (j : Nat)
    (charge : Charge) (hh : ((s.setWorker i worker).workers j).charge? = some charge) :
    j ≠ i ∧ (s.workers j).charge? = some charge := by
  rw [setWorker_workers] at hh
  split at hh
  · rw [hc] at hh
    cases hh
  · rename_i ho
    exact ⟨ho, hh⟩

/-- A call that holds a charge has held it before, or it has just made it. -/
inductive Moved (cfg : TopupSettings) (s : TopupState) (e : TopupEvent) (s' : TopupState) :
    Prop
  | kept (hh : ∀ j c, (s'.workers j).charge? = some c → (s.workers j).charge? = some c)
      (he : s'.executed = s.executed) (hcr : s'.credits = s.credits)
  | charged (i : Nat) (user : TopupUser) (charge : Charge)
      (hi : s.issues cfg e = some (user, charge))
      (hh : ∀ j c, (s'.workers j).charge? = some c →
        j = i ∧ c = charge ∨ j ≠ i ∧ (s.workers j).charge? = some c)
      (he : s'.executed = if charge ∈ s.executed then s.executed else s.executed ++ [charge])
      (hcr : s'.credits = s.credits)
  | credited (i : Nat) (charge : Charge) (hb : (s.workers i).charge? = some charge)
      (hh : ∀ j c, (s'.workers j).charge? = some c → j ≠ i ∧ (s.workers j).charge? = some c)
      (he : s'.executed = s.executed) (hcr : s'.credits = s.credits ++ [charge])

theorem step_moved (cfg : TopupSettings) (s : TopupState) (e : TopupEvent) :
    Moved cfg s e (s.step cfg e) := by
  cases e with
  | tick seconds => exact .kept (fun _ _ h => h) rfl rfl
  | spend amount => exact .kept (fun _ _ h => h) rfl rfl
  | advance i =>
    have hn {worker : Worker} (hc : worker.charge? = none) (j : Nat) (c : Charge)
        (h : ((s.setWorker i worker).workers j).charge? = some c) :=
      (charge?_setWorker hc j c h).2
    simp only [step, advance]
    cases hw : s.workers i with
    | idle =>
      cases decideCharge cfg s.user with
      | error reason => exact .kept (hn rfl) rfl rfl
      | ok cents => exact .kept (hn rfl) rfl rfl
    | decided user cents =>
      dsimp only
      split
      · exact .kept (hn rfl) rfl rfl
      · exact .kept (hn rfl) rfl rfl
    | locked user cents =>
      refine .charged i user _ (by simp only [issues, hw]) (fun j c hc => ?_) rfl rfl
      rw [setWorker_workers] at hc
      split at hc
      · exact .inl ⟨‹_›, (Option.some.inj hc).symm⟩
      · exact .inr ⟨‹_›, hc⟩
    | charged user cents charge =>
      exact .credited i charge (by rw [hw]; rfl) (charge?_setWorker rfl) rfl rfl
    | done result => exact .kept (fun _ _ h => h) rfl rfl

structure Backed (s : TopupState) : Prop where
  held : ∀ i charge, (s.workers i).charge? = some charge → charge ∈ s.executed
  credited : ∀ charge ∈ s.credits, charge ∈ s.executed

theorem Backed.step (s : TopupState) (e : TopupEvent) (h : Backed s) : Backed (s.step cfg e) := by
  have hm := step_moved cfg s e
  generalize s.step cfg e = s' at hm
  cases hm with
  | kept hh he hcr =>
    constructor
    · rw [he]
      exact fun j c hc => h.held j c (hh j c hc)
    · rw [hcr, he]
      exact h.credited
  | charged i user charge hi hh he hcr =>
    have hg : ∀ c, c ∈ s.executed ∨ c = charge → c ∈ s'.executed := by
      intro c hc
      rw [he]
      split
      · rename_i hu
        obtain ho | rfl := hc
        · exact ho
        · exact hu
      · exact mem_append.mpr (hc.imp id mem_singleton.mpr)
    constructor
    · intro j c hc
      obtain ⟨_, hn⟩ | ⟨_, ho⟩ := hh j c hc
      · exact hg c (.inr hn)
      · exact hg c (.inl (h.held j c ho))
    · rw [hcr]
      exact fun c hc => hg c (.inl (h.credited c hc))
  | credited i charge hb hh he hcr =>
    constructor
    · rw [he]
      exact fun j c hc => h.held j c (hh j c hc).2
    rw [hcr, he]
    intro c hc
    obtain ho | hn := mem_append.mp hc
    · exact h.credited c ho
    · rw [mem_singleton.mp hn]
      exact h.held i charge hb

def FreshKey (cfg : TopupSettings) (s : TopupState) (e : TopupEvent) : Prop :=
  ∀ issued ∈ s.issues cfg e, issued.2 ∉ s.executed
deriving Decidable

def NotRaised (cfg : TopupSettings) (s : TopupState) (e : TopupEvent) : Prop :=
  ∀ issued ∈ s.issues cfg e, s.user.quota ≤ issued.1.quota
deriving Decidable

def BelowThreshold (cfg : TopupSettings) (s : TopupState) (e : TopupEvent) : Prop :=
  ∀ _issued ∈ s.issues cfg e, s.user.quota < s.user.autoTopupThreshold
deriving Decidable

/-- No two of the credits, past or about to come, are for one charge. -/
structure Unshared (s : TopupState) : Prop where
  nodup : s.credits.Nodup
  pending : ∀ i charge, (s.workers i).charge? = some charge → charge ∉ s.credits
  distinct : ∀ i j charge, (s.workers i).charge? = some charge →
    (s.workers j).charge? = some charge → i = j

theorem Unshared.step (h : Unshared s) (hb : Backed s) (hf : FreshKey cfg s e) :
    Unshared (s.step cfg e) := by
  have hm := step_moved cfg s e
  generalize s.step cfg e = s' at hm
  cases hm with
  | kept hh he hcr =>
    refine ⟨?_, ?_, ?_⟩
    · rw [hcr]
      exact h.nodup
    · rw [hcr]
      exact fun j c hj => h.pending j c (hh j c hj)
    · exact fun j k c hj hk => h.distinct j k c (hh j c hj) (hh k c hk)
  | charged i user charge hi hh he hcr =>
    have hn : charge ∉ s.executed := hf (user, charge) hi
    refine ⟨?_, ?_, ?_⟩
    · rw [hcr]
      exact h.nodup
    · intro j c hc
      rw [hcr]
      obtain ⟨_, rfl⟩ | ⟨_, hol⟩ := hh j c hc
      · exact fun hcre => hn (hb.credited c hcre)
      · exact h.pending j c hol
    · intro j k c hj hk
      obtain ⟨rfl, rfl⟩ | ⟨_, hj⟩ := hh j c hj
      · obtain ⟨rfl, _⟩ | ⟨_, hk⟩ := hh k c hk
        · rfl
        · exact absurd (hb.held k c hk) hn
      · obtain ⟨rfl, rfl⟩ | ⟨_, hk⟩ := hh k c hk
        · exact absurd (hb.held j c hj) hn
        · exact h.distinct j k c hj hk
  | credited i charge hbe hh he hcr =>
    refine ⟨?_, ?_, ?_⟩
    · rw [hcr, nodup_append]
      refine ⟨h.nodup, nodup_singleton charge, ?_⟩
      intro c hc c' hc' hs
      rw [mem_singleton.mp hc'] at hs
      exact h.pending i charge hbe (hs ▸ hc)
    · intro j c hc hcre
      obtain ⟨ho, hc⟩ := hh j c hc
      rw [hcr] at hcre
      obtain hol | hn := mem_append.mp hcre
      · exact h.pending j c hc hol
      · rw [mem_singleton.mp hn] at hc
        exact ho (h.distinct j i charge hc hbe)
    · exact fun j k c hj hk => h.distinct j k c (hh j c hj).2 (hh k c hk).2

/-- The calls that are about to charge have read a quota below the threshold. -/
def ReadLow (s : TopupState) : Prop :=
  ∀ i user, (s.workers i).row? = some user → user.quota < s.user.autoTopupThreshold

theorem ReadLow.setWorker (h : ReadLow s) {i : Nat} {worker : Worker}
    (hw : ∀ user, worker.row? = some user → user.quota < s.user.autoTopupThreshold) :
    ReadLow (s.setWorker i worker) := by
  intro j user hr
  rw [setWorker_workers] at hr
  split at hr
  · exact hw user hr
  · exact h j user hr

theorem ReadLow.step (s : TopupState) (e : TopupEvent) (h : ReadLow s) :
    ReadLow (s.step cfg e) := by
  cases e with
  | tick seconds => exact h
  | spend amount => exact h
  | advance i =>
    simp only [TopupState.step, advance]
    cases hw : s.workers i with
    | idle =>
      cases hd : decideCharge cfg s.user with
      | error reason => exact h.setWorker (by rintro _ ⟨⟩)
      | ok cents =>
        refine h.setWorker ?_
        rintro user ⟨⟩
        exact decideCharge_ok hd
    | decided user cents =>
      dsimp only
      split
      · refine h.setWorker ?_
        rintro user ⟨⟩
        exact h i user (by rw [hw]; rfl)
      · exact h.setWorker (by rintro _ ⟨⟩)
    | locked user cents => exact h.setWorker (by rintro _ ⟨⟩)
    | charged user cents charge => exact h.setWorker (by rintro _ ⟨⟩)
    | done result => exact h

theorem ReadLow.belowThreshold (h : ReadLow s) (hk : NotRaised cfg s e) :
    BelowThreshold cfg s e := by
  intro issued hi
  have hr : ∃ i, (s.workers i).row? = some issued.1 := by
    unfold issues at hi
    split at hi
    · rename_i i
      split at hi
      · rename_i user cents hw
        cases hi
        exact ⟨i, by rw [hw]; rfl⟩
      · cases hi
    · cases hi
  obtain ⟨i, hr⟩ := hr
  have hl := h i issued.1 hr
  have hq := hk issued hi
  omega

end

def TopupState.initial (user : TopupUser) (now : Nat) : TopupState := { user, now }

/-- Every credit has an executed charge, for itself where no key is used twice. -/
theorem auto_topup_charges (cfg : TopupSettings) (user : TopupUser) (now : Nat)
    (events : List TopupEvent) :
    (∀ charge ∈ (run (TopupState.step cfg) (.initial user now) events).credits,
      charge ∈ (run (TopupState.step cfg) (.initial user now) events).executed) ∧
    (Along (TopupState.step cfg) (FreshKey cfg) (.initial user now) events →
      (run (TopupState.step cfg) (.initial user now) events).credits.Nodup) ∧
    (Along (TopupState.step cfg) (NotRaised cfg) (.initial user now) events →
      Along (TopupState.step cfg) (BelowThreshold cfg) (.initial user now) events) := by
  have hb : Backed (.initial user now) := ⟨nofun, nofun⟩
  have hu : Unshared (.initial user now) := ⟨nodup_nil, nofun, nofun⟩
  have hl : ReadLow (.initial user now) := nofun
  refine ⟨(run_preserves Backed.step hb events).credited, ?_, ?_⟩
  · intro hf
    exact (run_invariant (I := fun s => Backed s ∧ Unshared s)
      (fun s e h hke => ⟨h.1.step s e, h.2.step h.1 hke⟩) ⟨hb, hu⟩ events
      hf).2.nodup
  · intro hk
    exact along_imp (fun s e h _ => h.step s e) (fun s e h hq => h.belowThreshold hq) hl hk

def centsSettings : TopupSettings where
  airwallexEnabled := false
  sellMultiplier := 5
  minChargeCents := 500
  minChargeAUDCents := 500
  stripeApiSecret := "sk_test"
  redisEnabled := true
  quotaUnitsToStripeCents := id
  quotaUnitsToMajorCents := fun amount => amount * 5

def emptyUser : TopupUser := ⟨7, 0, true, 1000, 1000, "cus_7", ""⟩

theorem auto_topup_charges_in_turn :
    let events := List.replicate 4 (.advance 0) ++ [.spend 1000, .tick 60] ++
      List.replicate 4 (.advance 1)
    (run (step centsSettings) (.initial emptyUser 0) events).credits.Nodup ∧
      Along (step centsSettings) (BelowThreshold centsSettings) (.initial emptyUser 0)
        events := by
  intro events
  have h := auto_topup_charges centsSettings emptyUser 0 events
  exact ⟨h.2.1 (by decide +kernel), h.2.2 (by decide +kernel)⟩

theorem charge_shared_above_threshold :
    let events := [.advance 0, .advance 1, .advance 0, .tick 60, .advance 1, .advance 0, .advance 0,
      .advance 1, .advance 1]
    (run (step centsSettings) (.initial emptyUser 0) events).executed.length = 1 ∧
    (run (step centsSettings) (.initial emptyUser 0) events).credits.length = 2 ∧
    ¬Along (step centsSettings) (BelowThreshold centsSettings) (.initial emptyUser 0)
      events := by
  decide +kernel

end DeepRouter.TopUps
