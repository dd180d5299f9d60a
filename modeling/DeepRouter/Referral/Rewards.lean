import Mathlib.Tactic.Ring
import DeepRouter.Referral.Grant

/-! # Rewards of one inviter -/

namespace DeepRouter.Referral

open Store KeyedTable ReadCommitted Runs List Table

def creditWrites (user amount : Int) : List ReferralWrite :=
  if 0 < amount then [.credit user amount] else []

namespace RewardConfig

variable (config : RewardConfig)

def CreditsQuota : Prop := config.kind = kindQuota ∨ config.kind = kindSkill
deriving Decidable

def Supported : Prop := config.CreditsQuota ∨ config.kind = kindPlusDays

def credits (record : ReferralRecord) : List ReferralWrite :=
  if config.CreditsQuota then
    creditWrites record.inviterId config.inviterAmount ++
      creditWrites record.inviteeId config.inviteeAmount
  else []

def creditTo (record : ReferralRecord) (id : Int) : Int :=
  if ¬config.CreditsQuota then 0
  else if id = record.inviterId then max 0 config.inviterAmount
  else if id = record.inviteeId then max 0 config.inviteeAmount
  else 0

structure PaysAmount : Prop where
  quota : config.CreditsQuota → 0 ≤ config.inviterAmount
  plusDays : config.kind = kindPlusDays → config.inviterAmount = 0

theorem creditTo_inviterId {config : RewardConfig} (hk : config.Supported) (h : config.PaysAmount)
    (record : ReferralRecord) : config.creditTo record record.inviterId = config.inviterAmount := by
  rw [creditTo, if_pos rfl]
  split
  · rename_i hn
    exact (h.plusDays (hk.resolve_left hn)).symm
  · rename_i hq
    exact max_eq_right (h.quota (not_not.mp hq))

end RewardConfig

def Found (record : ReferralRecord) (s : ReferralStore) : Prop :=
  s.records.find? record.inviteeId = some record

theorem run_creditWrites (user am : Int) (s : ReferralStore) :
    run ReferralWrite.apply s (creditWrites user am) =
      ⟨s.records, Function.update s.quotas user
        ((s.quotas user).map (· + max 0 am))⟩ := by
  rw [creditWrites]
  split
  · rename_i hp
    rw [max_eq_right hp.le]
    rfl
  · rename_i hn
    simp [max_eq_left (Int.not_lt.mp hn)]

theorem run_credits (config : RewardConfig) (record : ReferralRecord) (s : ReferralStore) :
    ∃ quotas, run ReferralWrite.apply s (config.credits record) = { s with quotas } ∧
      (record.inviterId ≠ record.inviteeId →
        ∀ id, quotas id = (s.quotas id).map (· + config.creditTo record id)) := by
  unfold RewardConfig.credits RewardConfig.creditTo
  split
  · rename_i hq
    rw [run_append, run_creditWrites, run_creditWrites]
    refine ⟨_, rfl, ?_⟩
    intro ho id
    by_cases hr : id = record.inviterId
    · simp [hr, ho]
    · by_cases he : id = record.inviteeId
      · simp [he, Ne.symm ho]
      · simp [hr, he]
  · exact ⟨s.quotas, rfl, by simp⟩

/-- Only a record that is `due` is saved. -/
inductive Effect (config : RewardConfig) (due : ReferralRecord → Prop) (s : ReferralStore)
    (rows : List ReferralWrite) : ReferralStore → Prop
  | looked (hr : ∀ row ∈ rows, ∃ invitee, row = .lock invitee) : Effect config due s rows s
  | blocked (call : Conversion) (record : ReferralRecord) (reason : BlockedReason)
      (hf : Found record s) (hd : due record) (ho : record.rewardGrantedAt = none)
      (hr : rows = [.lock record.inviteeId, .save none (call.block record reason)]) :
      Effect config due s rows { s with records := s.records.save (call.block record reason) }
  | rewarded (call : Conversion) (record : ReferralRecord) (counted : Option Nat)
      (quotas : Int → Option Int) (hf : Found record s) (hd : due record)
      (ho : record.rewardGrantedAt = none) (hot : record.inviterId ≠ record.inviteeId)
      (hk : config.Supported)
      (hc : 0 < config.maxRewardsPerInvite →
        ∃ n : Nat, counted = some n ∧ (n : Int) < config.maxRewardsPerInvite)
      (hp : ∀ id, quotas id = (s.quotas id).map (· + config.creditTo record id))
      (hr : rows = .lock record.inviteeId :: config.credits record ++
        [.save counted (call.reward record config)]) :
      Effect config due s rows ⟨s.records.save (call.reward record config), quotas⟩

def GrantTx (config : RewardConfig) (due : ReferralRecord → Prop) (s : ReferralStore)
    (rows : List ReferralWrite) : Prop :=
  Effect config due s rows (run referralEngine.apply s rows)

variable {record : ReferralRecord}

section

variable {config : RewardConfig} {due : ReferralRecord → Prop} {s : ReferralStore}
  {rows : List ReferralWrite}

theorem Found.transfer {s t : ReferralStore} (h : Found record s)
    (hl : .lock record.inviteeId ∈ rows) (ha : Agree referralEngine rows s t) : Found record t :=
  (congrArg Prod.fst (ha _ hl)).symm.trans h

theorem looked_grantTx (invitee : Int) : GrantTx config due s [.lock invitee] :=
  .looked fun _ hr => ⟨invitee, mem_singleton.mp hr⟩

theorem rewarded_grantTx (call : Conversion) {counted : Option Nat} (hf : Found record s)
    (hd : due record) (ho : record.rewardGrantedAt = none)
    (hot : record.inviterId ≠ record.inviteeId) (hk : config.Supported)
    (hc : 0 < config.maxRewardsPerInvite →
      ∃ n : Nat, counted = some n ∧ (n : Int) < config.maxRewardsPerInvite) :
    GrantTx config due s (.lock record.inviteeId :: config.credits record ++
      [.save counted (call.reward record config)]) := by
  obtain ⟨quotas, hr, hp⟩ := run_credits config record s
  have ha : run referralEngine.apply s (.lock record.inviteeId :: config.credits record ++
      [.save counted (call.reward record config)]) =
      ⟨s.records.save (call.reward record config), quotas⟩ := by
    change run ReferralWrite.apply s (config.credits record ++ _) = _
    rw [run_append, hr]
    rfl
  rw [GrantTx, ha]
  exact .rewarded call record counted quotas hf hd ho hot hk hc (hp hot) rfl

theorem failed_locked (e : Err) : (failed e).Locked referralEngine (GrantTx config due) s rows :=
  fun _ _ => trivial

theorem commitProg_locked (reply : ReferralReply)
    (h : ∀ t, Agree referralEngine rows s t → GrantTx config due t rows) :
    (commitProg reply).Locked referralEngine (GrantTx config due) s rows :=
  fun t ht => ⟨h t ht, trivial, fun _ => trivial⟩

variable {call : Conversion} {record : ReferralRecord}

theorem saveProg_locked {counted : Option Nat} {saved : ReferralRecord} {awarded : Bool}
    (hf : Found record s) (hl : .lock record.inviteeId ∈ rows)
    (h : ∀ t, Found record t → GrantTx config due t (rows ++ [.save counted saved])) :
    (saveProg counted saved awarded).Locked referralEngine (GrantTx config due) s rows := by
  intro t ht
  refine ⟨commitProg_locked _ fun u hu => h u ?_, failed_locked⟩
  exact (hf.transfer hl ht).transfer (mem_append_left _ hl) hu

theorem creditProg_locked {user am : Int} {next : ReferralProg} (hf : Found record s)
    (hl : .lock record.inviteeId ∈ rows) (h : ∀ t, Found record t →
      next.Locked referralEngine (GrantTx config due) t (rows ++ creditWrites user am)) :
    (creditProg user am next).Locked referralEngine (GrantTx config due) s rows := by
  rw [creditProg]
  rw [creditWrites] at h
  split
  · rename_i hp
    rw [if_pos hp] at h
    exact fun t ht => ⟨h t (hf.transfer hl ht), failed_locked⟩
  · rename_i hn
    rw [if_neg hn, append_nil] at h
    exact h s hf

theorem blockProg_locked (reason : BlockedReason) (hf : Found record s) (hd : due record)
    (ho : record.rewardGrantedAt = none) :
    (saveProg none (call.block record reason) false).Locked referralEngine (GrantTx config due) s
      [.lock record.inviteeId] :=
  saveProg_locked hf mem_cons_self fun _ ht => .blocked call record reason ht hd ho rfl

theorem rewardProg_locked {counted : Option Nat} (hf : Found record s) (hd : due record)
    (ho : record.rewardGrantedAt = none) (hot : record.inviterId ≠ record.inviteeId)
    (hc : 0 < config.maxRewardsPerInvite →
      ∃ n : Nat, counted = some n ∧ (n : Int) < config.maxRewardsPerInvite) :
    (rewardProg config call record counted).Locked referralEngine (GrantTx config due) s
      [.lock record.inviteeId] := by
  have hr : config.Supported → ∀ t, Found record t →
      (saveProg counted (call.reward record config) true).Locked referralEngine (GrantTx config due) t
        ([.lock record.inviteeId] ++ config.credits record) := fun hk t ht =>
    saveProg_locked ht mem_cons_self fun u hu => rewarded_grantTx call hu hd ho hot hk hc
  rw [rewardProg, applyReward]
  split
  · rename_i hq
    have hcr : config.credits record = creditWrites record.inviterId config.inviterAmount ++
        creditWrites record.inviteeId config.inviteeAmount := if_pos hq
    rw [hcr, ← append_assoc] at hr
    apply creditProg_locked hf mem_cons_self
    intro t ht
    exact creditProg_locked ht mem_cons_self (hr (.inl hq))
  · split
    · rename_i hn hd
      have hcr : config.credits record = [] := if_neg hn
      rw [hcr, append_nil] at hr
      exact hr (.inr hd) s hf
    · exact failed_locked _

theorem countProg_locked (hFound : Found record s) (hd : due record) (ho : record.rewardGrantedAt = none)
    (hot : record.inviterId ≠ record.inviteeId) :
    (countProg config call record).Locked referralEngine (GrantTx config due) s
      [.lock record.inviteeId] := by
  rw [countProg]
  split
  · intro t ht
    have hFound' := hFound.transfer mem_cons_self ht
    refine ⟨?_, failed_locked⟩
    dsimp only
    split
    · exact blockProg_locked .fraudCap hFound' hd ho
    · rename_i hc
      exact rewardProg_locked hFound' hd ho hot fun _ => ⟨_, rfl, Int.not_le.mp hc⟩
  · rename_i hm
    exact rewardProg_locked hFound hd ho hot fun h => absurd h hm

theorem recordProg_locked (hf : Found record s)
    (hd : record.status ≠ .blocked → record.rewardGrantedAt = none → due record) :
    (recordProg config call record).Locked referralEngine (GrantTx config due) s
      [.lock record.inviteeId] := by
  rw [recordProg]
  split
  · exact commitProg_locked _ fun _ _ => looked_grantTx record.inviteeId
  rename_i hb
  split
  · exact commitProg_locked _ fun _ _ => looked_grantTx record.inviteeId
  rename_i hop
  rw [not_not] at hop
  split
  · exact blockProg_locked .noInviter hf (hd hb hop) hop
  split
  · exact blockProg_locked .selfReferral hf (hd hb hop) hop
  · rename_i ho
    exact countProg_locked hf (hd hb hop) hop ho

theorem grantForConversion_locked (config : RewardConfig) (call : Conversion)
    (hd : ∀ record, record.inviteeId = call.inviteeId → record.status ≠ .blocked →
      record.rewardGrantedAt = none → due record) (s : ReferralStore) :
    (grantForConversion config call).Locked referralEngine (GrantTx config due) s [] := by
  rw [grantForConversion]
  split
  · trivial
  intro t _
  refine ⟨fun u _ => ⟨?_, failed_locked⟩, failed_locked⟩
  -- the lock itself leaves the store that is read as it was
  have hr : run referralEngine.apply u ([] ++ [.lock call.inviteeId]) = u := rfl
  dsimp only
  rw [hr]
  cases hf : u.records.find? call.inviteeId with
  | none => exact commitProg_locked _ fun _ _ => looked_grantTx call.inviteeId
  | some record =>
    have hk : record.inviteeId = call.inviteeId := key_of_find? hf
    rw [← hk] at hf ⊢
    exact recordProg_locked hf (hd record hk)

end

theorem reward_status (call : Conversion) (record : ReferralRecord) (config : RewardConfig) :
    (call.reward record config).status = .rewarded := rfl

section

variable {config : RewardConfig} {inviter : Int} {s : ReferralStore} {rows : List ReferralWrite}
  {record : ReferralRecord} {due : ReferralRecord → Prop}

structure OfInviter (inviter : Int) (s : ReferralStore) : Prop where
  inviterId : ∀ record ∈ s.records.rows, record.inviterId = inviter
  granted : ∀ record ∈ s.records.rows, record.status = .rewarded → record.rewardGrantedAt ≠ none

theorem OfInviter.save (h : OfInviter inviter s) (saved : ReferralRecord) (hf : Found record s)
    (hi : saved.inviterId = record.inviterId)
    (hg : saved.status = .rewarded → saved.rewardGrantedAt ≠ none)
    (quotas : Int → Option Int) : OfInviter inviter ⟨s.records.save saved, quotas⟩ := by
  constructor
  · intro r hr
    obtain ⟨ho, _⟩ | ⟨rfl, _⟩ := mem_save.mp hr
    · exact h.inviterId r ho
    · exact hi.trans (h.inviterId record (mem_of_find? hf))
  · intro r hr
    obtain ⟨ho, _⟩ | ⟨rfl, _⟩ := mem_save.mp hr
    · exact h.granted r ho
    · exact hg

theorem OfInviter.not_rewarded (h : OfInviter inviter s) (hf : Found record s)
    (ho : record.rewardGrantedAt = none) : record.status ≠ .rewarded :=
  fun hs => h.granted record (mem_of_find? hf) hs ho

theorem OfInviter.rewardedCount_save (h : OfInviter inviter s) (saved : ReferralRecord)
    (hfn : Found record s)
    (ho : record.rewardGrantedAt = none) (hk : saved.inviteeId = record.inviteeId)
    (hi : saved.inviterId = record.inviterId) (quotas : Int → Option Int) :
    (⟨s.records.save saved, quotas⟩ : ReferralStore).rewardedCount inviter =
      s.rewardedCount inviter + if saved.status = .rewarded then 1 else 0 := by
  have hf : s.records.find? saved.inviteeId = some record := by
    rw [hk]
    exact hfn
  have ht := total_save hf fun record => if record.rewardedBy inviter then 1 else 0
  have hol : record.rewardedBy inviter = false :=
    decide_eq_false fun hb => h.not_rewarded hfn ho hb.2
  have hn : saved.rewardedBy inviter = decide (saved.status = .rewarded) := by
    simp only [ReferralRecord.rewardedBy, hi, h.inviterId record (mem_of_find? hfn), true_and]
  simp only [hol, hn, decide_eq_true_eq, Bool.false_eq_true, if_false, Nat.add_zero] at ht
  exact ht

/-- What a rewarded record says was credited to the user. -/
def ReferralRecord.paidTo (id : Int) (record : ReferralRecord) : Int :=
  if record.rewardGrantedAt = none then 0
  else RewardConfig.creditTo
    ⟨record.rewardKind, record.inviterRewardAmount, record.inviteeRewardAmount, 0⟩ record id

/-- The quota of the user without the rewards on record. -/
def ReferralStore.ownQuota (s : ReferralStore) (id : Int) : Option Int :=
  (s.quotas id).map (· - s.records.total (ReferralRecord.paidTo id))

theorem paidTo_open (id : Int) (ho : record.rewardGrantedAt = none) : record.paidTo id = 0 :=
  if_pos ho

theorem Effect.ownQuota {s' : ReferralStore} (h : Effect config due s rows s') (id : Int) :
    s'.ownQuota id = s.ownQuota id := by
  cases h with
  | looked _ => rfl
  | blocked call record reason hf _ ho =>
    have ht := total_save (r := call.block record reason) hf (ReferralRecord.paidTo id)
    have hb : (call.block record reason).paidTo id = 0 := paidTo_open id ho
    rw [paidTo_open id ho, hb, add_zero, add_zero] at ht
    rw [ReferralStore.ownQuota, ht]
    rfl
  | rewarded call record counted quotas hf _ ho _ hk hc hp =>
    have ht := total_save (r := call.reward record config) hf (ReferralRecord.paidTo id)
    have hn : (call.reward record config).paidTo id = config.creditTo record id :=
      if_neg (Option.some_ne_none _)
    rw [paidTo_open id ho, hn, add_zero] at ht
    rw [ReferralStore.ownQuota, ReferralStore.ownQuota, ht]
    dsimp only
    rw [hp, Option.map_map]
    congr 1
    funext quota
    simp only [Function.comp_apply]
    omega

def IsDue (invitee : Int) (record : ReferralRecord) : Prop :=
  record.inviteeId = invitee ∧ record.status ≠ .blocked ∧ record.rewardGrantedAt = none

theorem run_callEvents {I : ReferralStore → Prop} (call : Conversion) (hs : I s)
    (ht : ∀ s rows s', I s → Effect config (IsDue call.inviteeId) s rows s' → I s')
    (answers : List Fault) :
    I (run (referralStep config) (.initial s) (callEvents call answers)).store := by
  have hl := @grantForConversion_locked (IsDue call.inviteeId) config call
    fun _ hi hb ho => ⟨hi, hb, ho⟩
  refine run_of_locked hs hl ?_ ?_
  · intro s rows hi hr
    exact ht s rows _ hi hr
  rintro _ ha i other rfl
  obtain hc | hm := mem_cons.mp ha
  · cases hc
    rfl
  · obtain ⟨fault, _, he⟩ := mem_map.mp hm
    cases he

end

section

variable {config : RewardConfig} {inviter : Int}

structure Granting (config : RewardConfig) (inviter : Int) (s : ReferralState) : Prop where
  holds : s.Holds referralEngine (GrantTx config fun _ => True)
  store : OfInviter inviter s.store

variable {s : ReferralState}

theorem Granting.effect (h : Granting config inviter s) (a : ReferralEvent) :
    Effect config (fun _ => True) s.store (s.published a) (referralStep config s a).store := by
  rw [referralStep, step_published referralEngine (grantForConversion config) s a]
  obtain hn | ht := h.holds.published a
  · rw [hn]
    exact .looked fun _ hr => absurd hr not_mem_nil
  · exact ht

theorem Granting.step (s : ReferralState) (a : ReferralEvent) (h : Granting config inviter s) :
    Granting config inviter (referralStep config s a) := by
  refine ⟨step_holds h.holds fun _ call _ => grantForConversion_locked config call (by simp) _, ?_⟩
  have he := h.effect a
  generalize (referralStep config s a).store = after at he ⊢
  cases he with
  | looked _ => exact h.store
  | blocked call record reason hf => exact h.store.save (call.block record reason) hf rfl nofun _
  | rewarded call record counted quotas hf =>
    exact h.store.save (call.reward record config) hf rfl (fun _ => Option.some_ne_none _) quotas

theorem granting_initial {store : ReferralStore} (h : OfInviter inviter store) :
    Granting config inviter (.initial store) := ⟨initial_all store, h⟩

def ReferralWrite.rewards (invitee : Int) : ReferralWrite → Bool
  | .save _ saved => decide (saved.inviteeId = invitee ∧ saved.status = .rewarded)
  | _ => false

def commitsReward (invitee : Int) (s : ReferralState) (a : ReferralEvent) : Bool :=
  (s.published a).any (ReferralWrite.rewards invitee)

def HasReward (invitee : Int) (s : ReferralState) : Prop :=
  ∃ record, s.store.records.find? invitee = some record ∧ record.rewardGrantedAt ≠ none

theorem credits_not_reward {invitee : Int} {row : ReferralWrite}
    (h : row ∈ config.credits record) : row.rewards invitee = false := by
  have hc : ∀ user am, row ∈ creditWrites user am → row.rewards invitee = false := by
    intro user am hr
    rw [creditWrites] at hr
    split at hr
    · rw [mem_singleton.mp hr]
      rfl
    · cases hr
  rw [RewardConfig.credits] at h
  split at h
  · exact (mem_append.mp h).elim (hc _ _) (hc _ _)
  · cases h

theorem not_hasReward (hf : Found record s.store)
    (ho : record.rewardGrantedAt = none) : ¬HasReward record.inviteeId s := by
  rintro ⟨other, hot, hg⟩
  rw [Found, hot] at hf
  cases hf
  exact hg ho

theorem hasReward_step {invitee : Int} (s : ReferralState) (a : ReferralEvent)
    (h : Granting config inviter s) (hr : HasReward invitee s) :
    HasReward invitee (referralStep config s a) := by
  rw [HasReward]
  have he := h.effect a
  generalize (referralStep config s a).store = after at he
  have hs : ∀ (record saved : ReferralRecord), Found record s.store →
      record.rewardGrantedAt = none → saved.inviteeId = record.inviteeId →
      (s.store.records.save saved).find? invitee = s.store.records.find? invitee := by
    intro record saved hf ho hke
    apply find?_save_of_ne
    rintro rfl
    rw [hke] at hr
    exact not_hasReward hf ho hr
  cases he with
  | looked _ => exact hr
  | blocked call record reason hf _ ho =>
    rw [hs record (call.block record reason) hf ho rfl]
    exact hr
  | rewarded call record counted quotas hf _ ho =>
    rw [hs record (call.reward record config) hf ho rfl]
    exact hr

theorem commitsReward_enters {invitee : Int} (s : ReferralState) (a : ReferralEvent)
    (h : Granting config inviter s) (hc : commitsReward invitee s a = true) :
    ¬HasReward invitee s ∧ HasReward invitee (referralStep config s a) := by
  rw [commitsReward, any_eq_true] at hc
  obtain ⟨row, hr, hre⟩ := hc
  rw [HasReward, HasReward]
  have he := h.effect a
  generalize (referralStep config s a).store = after at he
  cases he with
  | looked hro =>
    obtain ⟨_, rfl⟩ := hro row hr
    cases hre
  | blocked call record reason hf _ ho hro =>
    rw [hro] at hr
    obtain rfl | hr := mem_cons.mp hr
    · cases hre
    · rw [mem_singleton.mp hr] at hre
      exact absurd (of_decide_eq_true hre).2 nofun
  | rewarded call record counted quotas hf _ ho _ hk hcn hp hro =>
    rw [hro] at hr
    obtain hr | hr := mem_append.mp hr
    · obtain rfl | hCr := mem_cons.mp hr
      · cases hre
      · rw [credits_not_reward hCr] at hre
        cases hre
    · rw [mem_singleton.mp hr] at hre
      have hi : record.inviteeId = invitee := (of_decide_eq_true hre).1
      subst hi
      exact ⟨not_hasReward hf ho, _, find?_save_of_key hf rfl, Option.some_ne_none _⟩

def ReferralWrite.Counted (rewards : Nat) : ReferralWrite → Prop
  | .save (some n) _ => n = rewards
  | _ => True

instance (rewards : Nat) (row : ReferralWrite) : Decidable (row.Counted rewards) := by
  unfold ReferralWrite.Counted
  split <;> infer_instance

def CountsCurrent (inviter : Int) (s : ReferralState) (a : ReferralEvent) : Prop :=
  ∀ row ∈ s.published a, row.Counted (s.store.rewardedCount inviter)
deriving Decidable

theorem rewardedCount_step {a : ReferralEvent}
    (h : Granting config inviter s) (hcu : CountsCurrent inviter s a)
    (hm : 0 < config.maxRewardsPerInvite)
    (hca : (s.store.rewardedCount inviter : Int) ≤ config.maxRewardsPerInvite) :
    ((referralStep config s a).store.rewardedCount inviter : Int) ≤ config.maxRewardsPerInvite := by
  have he := h.effect a
  generalize (referralStep config s a).store = after at he ⊢
  cases he with
  | looked _ => exact hca
  | blocked call record reason hf _ ho =>
    rw [h.store.rewardedCount_save (call.block record reason) hf ho rfl rfl]
    exact hca
  | rewarded call record counted quotas hf _ ho _ hki hc hp hr =>
    rw [h.store.rewardedCount_save (call.reward record config) hf ho rfl rfl,
      if_pos (reward_status call record config)]
    obtain ⟨n, rfl, hb⟩ := hc hm
    have hn : n = s.store.rewardedCount inviter := by
      apply hcu (.save (some n) (call.reward record config))
      rw [hr]
      exact mem_append_right _ (mem_singleton_self _)
    omega

def Credited (config : RewardConfig) (inviter quota : Int) (rewards : Nat) (s : ReferralStore) :
    Prop :=
  s.quotas inviter =
    some (quota + config.inviterAmount * ((s.rewardedCount inviter : Int) - rewards))

theorem credited_step {quota : Int} {rewards : Nat} {a : ReferralEvent}
    (h : Granting config inviter s) (hpa : config.PaysAmount)
    (hcr : Credited config inviter quota rewards s.store) :
    Credited config inviter quota rewards (referralStep config s a).store := by
  have he := h.effect a
  generalize (referralStep config s a).store = after at he ⊢
  cases he with
  | looked _ => exact hcr
  | blocked call record reason hf _ ho =>
    rw [Credited, h.store.rewardedCount_save (call.block record reason) hf ho rfl rfl]
    exact hcr
  | rewarded call record counted quotas hf _ ho _ hki hc hp =>
    have hi := h.store.inviterId record (mem_of_find? hf)
    rw [Credited, h.store.rewardedCount_save (call.reward record config) hf ho rfl rfl,
      if_pos (reward_status call record config)]
    rw [Credited] at hcr
    have hq := hp record.inviterId
    rw [RewardConfig.creditTo_inviterId hki hpa, hi, hcr] at hq
    dsimp only
    rw [hq, Option.map_some, Nat.cast_add, Nat.cast_one]
    congr 1
    ring

end

/-- Each invitee causes at most one reward; the rewards stay within the cap where every count is
still right at the commit. -/
theorem referral_rewards (config : RewardConfig) (inviter : Int) (store : ReferralStore)
    (events : List ReferralEvent) (hMax : 0 < config.maxRewardsPerInvite)
    (hStore : OfInviter inviter store) :
    (∀ invitee, tally (referralStep config) (commitsReward invitee) (.initial store) events ≤ 1) ∧
    (∀ quota, store.quotas inviter = some quota → config.PaysAmount → Credited config inviter quota
      (store.rewardedCount inviter) (run (referralStep config) (.initial store) events).store) ∧
    ((store.rewardedCount inviter : Int) ≤ config.maxRewardsPerInvite →
      Along (referralStep config) (CountsCurrent inviter) (.initial store) events →
      ((run (referralStep config) (.initial store) events).store.rewardedCount inviter : Int) ≤
        config.maxRewardsPerInvite) := by
  have hi : Granting config inviter (.initial store) := granting_initial hStore
  refine ⟨?_, ?_, ?_⟩
  · intro invitee
    exact (tally_le_one Granting.step hasReward_step commitsReward_enters hi events).1
  · intro quota hq hp
    have hs : Credited config inviter quota (store.rewardedCount inviter) store := by
      rw [Credited, hq, sub_self, mul_zero, add_zero]
    exact (run_preserves (I := fun s => Granting config inviter s ∧
        Credited config inviter quota (store.rewardedCount inviter) s.store)
      (fun s a h => ⟨Granting.step s a h.1, credited_step h.1 hp h.2⟩)
      ⟨hi, hs⟩ events).2
  · intro hc hcu
    exact (run_invariant (I := fun s => Granting config inviter s ∧
        (s.store.rewardedCount inviter : Int) ≤ config.maxRewardsPerInvite)
      (fun s a h hn => ⟨Granting.step s a h.1, rewardedCount_step h.1 hn hMax h.2⟩)
      ⟨hi, hc⟩ events hcu).2

def oneReward : RewardConfig := ⟨kindQuota, 100, 50, 1⟩

def twoInvitees : ReferralStore where
  records := ⟨[{ inviterId := 1, inviteeId := 2 }, { inviterId := 1, inviteeId := 3 }], by decide⟩
  quotas := fun _ => some 0

def toppedUp (invitee : Int) : Conversion := ⟨0, invitee, "topup", ""⟩

def statements (call count : Nat) : List ReferralEvent := List.replicate count (.exec call none)

theorem ofInviter_twoInvitees : OfInviter 1 twoInvitees := by
  constructor <;> decide

theorem referral_rewards_one_after_the_other :
    let events := [.start 0 (toppedUp 2)] ++ statements 0 7 ++ [.start 1 (toppedUp 3)] ++
      statements 1 5
    Credited oneReward 1 0 0 (run (referralStep oneReward) (.initial twoInvitees) events).store ∧
      ((run (referralStep oneReward) (.initial twoInvitees) events).store.rewardedCount 1 : Int) ≤
        1 := by
  intro events
  have h := referral_rewards oneReward 1 twoInvitees events (by decide) ofInviter_twoInvitees
  exact ⟨h.2.1 0 rfl ⟨by decide, by decide⟩, h.2.2 (by decide) (by decide +kernel)⟩

theorem cap_exceeded_by_overlap :
    (run (referralStep oneReward) (.initial twoInvitees)
      ([.start 0 (toppedUp 2), .start 1 (toppedUp 3)] ++ statements 0 3 ++ statements 1 3 ++
        statements 0 4 ++ statements 1 4)).store.rewardedCount 1 = 2 := by
  decide +kernel

end DeepRouter.Referral
