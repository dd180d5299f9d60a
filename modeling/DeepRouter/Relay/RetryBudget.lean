import DeepRouter.Relay.ServedPrice

/-! # The budget of the retry loop -/

namespace DeepRouter.Relay

open Store Runs List RelayState

namespace Selection

def groupIndex (selection : Selection) : Nat := selection.autoGroupIndex.getD 0

structure Advance (n : Nat) (found : Prop) (before after : Selection) : Prop where
  tokenGroup : after.param.tokenGroup = before.param.tokenGroup
  modelName : after.param.modelName = before.param.modelName
  resetNextTry : ¬found → after.param.resetNextTry = before.param.resetNextTry
  shape : after.groupIndex = before.groupIndex ∧ after.param = before.param ∨
    before.groupIndex < after.groupIndex ∧ after.groupIndex ≤ n ∧ after.param.retry = 0

theorem Advance.refl (n : Nat) (found : Prop) (selection : Selection) :
    Advance n found selection selection :=
  ⟨rfl, rfl, fun _ => rfl, .inl ⟨rfl, rfl⟩⟩

theorem Advance.groupIndex_le {n : Nat} {found : Prop} {before after : Selection}
    (h : Advance n found before after) : before.groupIndex ≤ after.groupIndex := by
  rcases h.shape with ⟨hs, _⟩ | ⟨hl, _⟩ <;> omega

end Selection

section

variable (cfg : RetrySettings) (crossGroupRetry : Bool) (source : ChannelSource)

theorem selectAutoGroup_advance (ags : List String) (i : Nat) (pr : Int)
    (sel : Selection) (hi : sel.groupIndex = i) :
    let got := selectAutoGroup cfg crossGroupRetry source ags i pr sel
    sel.Advance (i + ags.length) (got.1 ≠ none) got.2 := by
  induction ags generalizing i pr sel with
  | nil => exact Selection.Advance.refl _ _ sel
  | cons autoGroup ags ih =>
    rw [selectAutoGroup]
    split
    · split
      · refine ⟨rfl, rfl, fun hn => absurd (Option.some_ne_none _) hn, .inr ⟨?_, ?_, rfl⟩⟩
        · simp only [Selection.groupIndex, Option.getD_some] at hi ⊢
          omega
        · simp only [Selection.groupIndex, Option.getD_some, length_cons]
          omega
      · exact ⟨rfl, rfl, fun hn => absurd (Option.some_ne_none _) hn, .inl ⟨by rw [hi]; rfl, rfl⟩⟩
    · -- a group without a channel is left behind
      have hre := ih (i + 1) 0 { sel with
        autoGroupIndex := some (i + 1), param := { sel.param with retry := 0 } } rfl
      refine ⟨hre.tokenGroup, hre.modelName, hre.resetNextTry, .inr ?_⟩
      rw [length_cons, hi]
      rcases hre.shape with ⟨hs, hp⟩ | ⟨hl, hb, hr⟩
      · rw [hs, hp]
        exact ⟨Nat.lt_succ_self i, by simp [Selection.groupIndex], rfl⟩
      · exact ⟨Nat.lt_of_succ_lt hl, by omega, hr⟩

theorem cacheGetRandomSatisfiedChannel_advance (ug : String) (sel : Selection) :
    let got := cacheGetRandomSatisfiedChannel cfg crossGroupRetry source ug sel
    sel.Advance (if sel.param.tokenGroup = "auto" then (cfg.getUserAutoGroup ug).length else 0)
      (∃ ch, got.1 = .ok (some ch)) got.2.2 := by
  by_cases ha : sel.param.tokenGroup = "auto"
  · by_cases hg : cfg.autoGroups = []
    · simp only [cacheGetRandomSatisfiedChannel, if_pos ha, if_pos hg]
      exact Selection.Advance.refl _ _ sel
    have hm := selectAutoGroup_advance cfg crossGroupRetry source
      ((cfg.getUserAutoGroup ug).drop sel.groupIndex) sel.groupIndex sel.param.retry sel rfl
    have hi : sel.autoGroupIndex.getD 0 = sel.groupIndex := rfl
    rw [length_drop] at hm
    simp only [cacheGetRandomSatisfiedChannel, if_pos ha, if_neg hg, hi]
    generalize selectAutoGroup cfg crossGroupRetry source
      ((cfg.getUserAutoGroup ug).drop sel.groupIndex) sel.groupIndex sel.param.retry sel = got at hm
    obtain ⟨found, after⟩ := got
    dsimp only at hm
    have hs := hm.shape.imp_right (c := sel.groupIndex < after.groupIndex ∧
      after.groupIndex ≤ (cfg.getUserAutoGroup ug).length ∧ after.param.retry = 0) (by omega)
    cases found with
    | some found => exact ⟨hm.tokenGroup, hm.modelName, fun hn => absurd ⟨_, rfl⟩ hn, hs⟩
    | none => exact ⟨hm.tokenGroup, hm.modelName, fun _ => hm.resetNextTry (absurd rfl), hs⟩
  · simp only [cacheGetRandomSatisfiedChannel, if_neg ha]
    exact Selection.Advance.refl _ _ sel

end

def RelayRequest.groupCount (cfg : RetrySettings) (request : RelayRequest) : Nat :=
  if request.tokenGroup = "auto" then (cfg.getUserAutoGroup request.userGroup).length else 0

namespace RelayState

variable (cfg : RetrySettings) (request : RelayRequest)

def queried (source : ChannelSource) (modelName : String) : List String → Int → List Int
  | [], _ => []
  | autoGroup :: autoGroups, priorityRetry =>
    priorityRetry :: match source autoGroup modelName priorityRetry with
      | .ok (some _) => []
      | _ => queried source modelName autoGroups 0

def queriedRetries (state : RelayState) (attempt : Attempt) : List Int :=
  let param := state.selection.param
  if state.phase ≠ .running ∨ state.info.channelMeta = none then []
  else if param.tokenGroup = "auto" then
    if cfg.autoGroups = [] then []
    else queried attempt.source param.modelName ((cfg.getUserAutoGroup request.userGroup).drop
      state.selection.groupIndex) param.retry
  else [param.retry]

def selected (state : RelayState) (attempt : Attempt) : Selection :=
  (getChannel cfg request attempt state).2.selection

def KeyFoundAtGroupEnd (state : RelayState) (attempt : Attempt) : Prop :=
  ∀ err, attempt.setupError = some err → isChannelExhaustionError err = true →
    state.smartRouterFallback ≠ [] →
    (selected cfg request state attempt).param.resetNextTry = false

variable {cfg request}

variable (cfg request) in
theorem getChannel_kept (att : Attempt) (state : RelayState) :
    let after := (getChannel cfg request att state).2
    after.smartRouterFallback = state.smartRouterFallback ∧
      after.usedChannels = state.usedChannels ∧
      after.info = { state.info with priceData := after.info.priceData } := by
  simp only [getChannel]
  split
  · exact ⟨rfl, rfl, rfl⟩
  split
  · exact ⟨rfl, rfl, rfl⟩
  · exact ⟨rfl, rfl, rfl⟩
  · split <;> exact ⟨rfl, rfl, rfl⟩

variable {state : RelayState}

variable (cfg) in
theorem selected_advance (att : Attempt)
    (ht : state.selection.param.tokenGroup = request.tokenGroup) :
    state.selection.Advance (request.groupCount cfg)
      (∀ err, (getChannel cfg request att state).1 = .error err → att.setupError = some err)
      (selected cfg request state att) := by
  rw [selected, RelayRequest.groupCount, ← ht]
  by_cases hm : state.info.channelMeta = none
  · simp only [getChannel, if_pos hm]
    exact Selection.Advance.refl _ _ _
  have ha := cacheGetRandomSatisfiedChannel_advance cfg request.crossGroupRetry att.source
    request.userGroup state.selection
  simp only [getChannel, if_neg hm]
  generalize cacheGetRandomSatisfiedChannel cfg request.crossGroupRetry att.source
    request.userGroup state.selection = got at ha
  obtain ⟨found, selectGroup, selection⟩ := got
  rcases found with e | _ | channel
  · exact ⟨ha.tokenGroup, ha.modelName, fun _ => ha.resetNextTry (by simp), ha.shape⟩
  · exact ⟨ha.tokenGroup, ha.modelName, fun _ => ha.resetNextTry (by simp), ha.shape⟩
  · cases hs : att.setupError with
    | none => exact ⟨ha.tokenGroup, ha.modelName, fun hn => absurd (by simp) hn, ha.shape⟩
    | some err => exact ⟨ha.tokenGroup, ha.modelName, fun hn => absurd (by simp) hn, ha.shape⟩

inductive Again (cfg : RetrySettings) (request : RelayRequest) (state : RelayState)
    (attempt : Attempt) : RetryParam → List String → Prop where
  | retried : Again cfg request state attempt (selected cfg request state attempt).param
      state.smartRouterFallback
  | fellBack {nextModel : String} {chain : List String} {err : ApiError}
      (fallback : state.smartRouterFallback = nextModel :: chain)
      (failed : (getChannel cfg request attempt state).1 = .error err)
      (exhausted : isChannelExhaustionError err = true) :
      Again cfg request state attempt { (selected cfg request state attempt).param with
        modelName := nextModel, retry := -1 } chain

structure Progress (cfg : RetrySettings) (request : RelayRequest) (state : RelayState)
    (attempt : Attempt) (after : RelayState) : Prop where
  used : after.usedChannels.length ≤ state.usedChannels.length + 1
  groupIndex : after.selection.groupIndex = (selected cfg request state attempt).groupIndex
  tokenGroup : after.selection.param.tokenGroup =
    (selected cfg request state attempt).param.tokenGroup
  running : after.phase = .running → after.selection.param.retry ≤ cfg.retryTimes ∧
    ∃ param, after.selection.param = param.increaseRetry ∧
      Again cfg request state attempt param after.smartRouterFallback

theorem increaseRetry_cases (param : RetryParam) :
    param.increaseRetry.tokenGroup = param.tokenGroup ∧
      param.increaseRetry.resetNextTry = false ∧
      (param.resetNextTry = true ∧ param.increaseRetry.retry = param.retry ∨
        param.resetNextTry = false ∧ param.increaseRetry.retry = param.retry + 1) := by
  rw [RetryParam.increaseRetry]
  cases h : param.resetNextTry with
  | true => exact ⟨rfl, rfl, .inl ⟨rfl, rfl⟩⟩
  | false => exact ⟨rfl, rfl, .inr ⟨rfl, rfl⟩⟩

variable {att : Attempt} {after : RelayState}

theorem Progress.next (hu : after.usedChannels.length ≤ state.usedChannels.length + 1)
    (hi : after.selection.groupIndex = (selected cfg request state att).groupIndex)
    (ht : after.selection.param.tokenGroup = (selected cfg request state att).param.tokenGroup)
    (ha : Again cfg request state att after.selection.param after.smartRouterFallback) :
    Progress cfg request state att (after.next cfg) := by
  have hk := (increaseRetry_cases after.selection.param).1.trans ht
  rw [RelayState.next, turn]
  split
  · rename_i hl
    exact ⟨hu, hi, hk, fun _ => ⟨hl, _, rfl, ha⟩⟩
  · exact ⟨hu, hi, hk, fun hr => absurd hr (by simp)⟩

theorem Turned.progress (h : Turned cfg att (getChannel cfg request att state) after) :
    Progress cfg request state att after := by
  obtain ⟨hc, hu, -⟩ := getChannel_kept cfg request att state
  have hn : ∀ id, ((getChannel cfg request att state).2.usedChannels ++ [id]).length ≤
      state.usedChannels.length + 1 := by
    simp [hu]
  cases h with
  | unfound failed => exact ⟨by simp [fail, hu], rfl, rfl, nofun⟩
  | fellBack failed exhausted fallback =>
    exact Progress.next (by simp [hu]) rfl rfl (.fellBack (hc.symm.trans fallback) failed exhausted)
  | retried err => exact Progress.next (hn _) rfl rfl (hc ▸ Again.retried)
  | _ => exact ⟨hn _, rfl, rfl, nofun⟩

def remaining (cfg : RetrySettings) (request : RelayRequest) (state : RelayState) : Nat :=
  if state.phase = .running then
    (cfg.retryTimes + 1 - state.selection.param.retry).toNat +
      (request.groupCount cfg - state.selection.groupIndex + state.smartRouterFallback.length) *
        (cfg.retryTimes.toNat + 1)
  else 0

structure Looping (cfg : RetrySettings) (request : RelayRequest) (state : RelayState) : Prop where
  tokenGroup : state.selection.param.tokenGroup = request.tokenGroup
  free : state.phase = .running → state.selection.param.resetNextTry = false
  lower : state.phase = .running → -1 ≤ state.selection.param.retry
  upper : state.phase = .running → state.selection.param.retry ≤ cfg.retryTimes

theorem Looping.again {param : RetryParam} {chain : List String} (h : Looping cfg request state)
    (hr : state.phase = .running) (ha : Again cfg request state att param chain) :
    let now := request.groupCount cfg - (selected cfg request state att).groupIndex + chain.length
    let before := request.groupCount cfg - state.selection.groupIndex +
      state.smartRouterFallback.length
    now = before ∧ param.increaseRetry.retry = state.selection.param.retry + 1 ∨
      now + 1 ≤ before ∧ 0 ≤ param.increaseRetry.retry ∨
      now + 1 + 1 ≤ before ∧ -1 ≤ param.increaseRetry.retry := by
  have hf := h.free hr
  obtain ⟨-, -, hi⟩ := increaseRetry_cases param
  have hs := (selected_advance cfg att h.tokenGroup).shape
  cases ha with
  | retried =>
    rcases hs with ⟨hs, hp⟩ | ⟨hl, hb, hz⟩
    · rw [hp, hf] at hi
      simp only [Bool.false_eq_true, false_and, true_and, false_or] at hi
      exact .inl ⟨by rw [hs], hp ▸ hi⟩
    · exact .inr (.inl (by omega))
  | @fellBack nextModel chain err fallback failed exhausted =>
    dsimp only at hi ⊢
    rw [fallback, length_cons]
    rcases hs with ⟨hs, hp⟩ | ⟨hl, hb, hz⟩
    · simp only [hp, hf, Bool.false_eq_true, false_and, true_and, false_or] at hi ⊢
      omega
    · exact .inr (.inr (by omega))

theorem Looping.step (h : Looping cfg request state) (att : Attempt) :
    Looping cfg request (state.step cfg request att) := by
  refine step_cases h fun after hr ht => ?_
  have ha := selected_advance cfg att h.tokenGroup
  have hl := h.lower hr
  obtain ⟨-, -, hk, hrun⟩ := ht.progress
  refine ⟨hk.trans (ha.tokenGroup.trans h.tokenGroup), fun hp => ?_, fun hp => ?_,
    fun hp => (hrun hp).1⟩
  · obtain ⟨-, param, he, -⟩ := hrun hp
    rw [he]
    exact (increaseRetry_cases param).2.1
  · obtain ⟨-, param, he, hg⟩ := hrun hp
    rw [he]
    rcases h.again hr hg with ⟨-, hn⟩ | ⟨-, hn⟩ | ⟨-, hn⟩ <;> omega

theorem Looping.remaining_lt (h : Looping cfg request state) (hr : state.phase = .running)
    (ht : Turned cfg att (getChannel cfg request att state) after) :
    remaining cfg request after < remaining cfg request state := by
  have hu := h.upper hr
  obtain ⟨-, hi, -, hrun⟩ := ht.progress
  rw [remaining, remaining, if_pos hr]
  split
  · rename_i hp
    obtain ⟨-, param, he, hg⟩ := hrun hp
    rw [he, hi]
    rcases h.again hr hg with ⟨hk, hn⟩ | ⟨hk, hn⟩ | ⟨hk, hn⟩
    · rw [hk, hn]
      omega
    -- a group or a model fewer is worth a whole counter
    · have hm := Nat.mul_le_mul_right (cfg.retryTimes.toNat + 1) hk
      rw [Nat.succ_mul] at hm
      omega
    · have hm := Nat.mul_le_mul_right (cfg.retryTimes.toNat + 1) hk
      rw [Nat.succ_mul, Nat.succ_mul] at hm
      omega
  · omega

theorem Looping.used_remaining_step (h : Looping cfg request state) (att : Attempt) :
    (state.step cfg request att).usedChannels.length +
        remaining cfg request (state.step cfg request att) ≤
      state.usedChannels.length + remaining cfg request state := by
  refine step_cases (P := fun after => after.usedChannels.length + remaining cfg request after ≤ _)
    le_rfl fun after hr ht => ?_
  have hu := ht.progress.used
  have hd := h.remaining_lt hr ht
  omega

theorem Looping.groupIndex_step (h : Looping cfg request state) (att : Attempt) :
    state.selection.groupIndex ≤ (state.step cfg request att).selection.groupIndex := by
  refine step_cases (P := fun after => _ ≤ after.selection.groupIndex) le_rfl fun after _ ht => ?_
  rw [ht.progress.groupIndex]
  exact (selected_advance cfg att h.tokenGroup).groupIndex_le

theorem Looping.retry_step (h : Looping cfg request state) {att : Attempt}
    (hk : KeyFoundAtGroupEnd cfg request state att)
    (hrt : state.phase = .running → 0 ≤ state.selection.param.retry) :
    (state.step cfg request att).phase = .running →
      0 ≤ (state.step cfg request att).selection.param.retry := by
  refine step_cases (P := fun after => after.phase = .running → 0 ≤ after.selection.param.retry)
    hrt fun after hr ht hp => ?_
  obtain ⟨-, param, he, hg⟩ := ht.progress.running hp
  have ha := selected_advance cfg att h.tokenGroup
  have hl := hrt hr
  obtain ⟨-, -, hi⟩ := increaseRetry_cases param
  rw [he]
  generalize after.smartRouterFallback = chain at hg
  cases hg with
  | retried =>
    rcases ha.shape with ⟨-, hs⟩ | ⟨-, -, hz⟩
    · rw [hs] at hi ⊢
      omega
    · omega
  | @fellBack nextModel chain err fallback failed exhausted =>
    have hf : (selected cfg request state att).param.resetNextTry = false := by
      by_cases hs : att.setupError = some err
      · exact hk err hs exhausted (by simp [fallback])
      · exact (ha.resetNextTry fun h => hs (h err failed)).trans (h.free hr)
    rw [RetryParam.increaseRetry, hf]
    exact le_rfl

theorem queried_range {source : ChannelSource} {modelName : String} {ags : List String}
    {pr last : Int} (hl : 0 ≤ pr) (hu : pr ≤ last) :
    ∀ retry ∈ queried source modelName ags pr, 0 ≤ retry ∧ retry ≤ last := by
  induction ags generalizing pr with
  | nil => simp [queried]
  | cons autoGroup ags ih =>
    intro retry hm
    rw [queried] at hm
    rcases mem_cons.mp hm with rfl | hr
    · exact ⟨hl, hu⟩
    · split at hr
      · cases hr
      · exact ih le_rfl (hl.trans hu) retry hr

theorem Looping.queriedRetries_range (h : Looping cfg request state)
    (hrt : state.phase = .running → 0 ≤ state.selection.param.retry) (att : Attempt) :
    ∀ retry ∈ queriedRetries cfg request state att,
      0 ≤ retry ∧ retry ≤ cfg.retryTimes := by
  simp only [queriedRetries]
  by_cases hr : state.phase = .running
  · split
    · simp
    split
    · split
      · simp
      · exact queried_range (hrt hr) (h.upper hr)
    · intro retry hm
      rw [mem_singleton.mp hm]
      exact ⟨hrt hr, h.upper hr⟩
  · simp [hr]

section

variable (billing : RequestBilling) (usingGroup : String) (priced : Priced)

variable (request) in
theorem enterLoop_running (ht : 0 ≤ cfg.retryTimes) :
    enterLoop cfg request billing usingGroup priced =
      { phase := .running
        selection :=
          { param := { tokenGroup := request.tokenGroup, modelName := request.modelName }
            autoGroup := request.autoGroup
            autoGroupIndex := request.autoGroupIndex }
        usingGroup
        info := enteredInfo request billing priced
        channel := request.channel
        channelGroup := request.autoGroup
        smartRouterFallback := request.smartRouterFallback } := by
  rw [enterLoop, turn, if_pos ht]

theorem Looping.enterLoop (ht : 0 ≤ cfg.retryTimes) :
    Looping cfg request (Relay.enterLoop cfg request billing usingGroup priced) := by
  rw [enterLoop_running request billing usingGroup priced ht]
  exact ⟨rfl, fun _ => rfl, fun _ => (by decide : (-1 : Int) ≤ 0), fun _ => ht⟩

theorem remaining_enterLoop_le (ht : 0 ≤ cfg.retryTimes) :
    remaining cfg request (Relay.enterLoop cfg request billing usingGroup priced) ≤
      (request.groupCount cfg + request.smartRouterFallback.length + 1) *
        (cfg.retryTimes.toNat + 1) := by
  rw [enterLoop_running request billing usingGroup priced ht, remaining, if_pos rfl]
  have hm : ∀ index, (request.groupCount cfg - index + request.smartRouterFallback.length) *
      (cfg.retryTimes.toNat + 1) ≤ (request.groupCount cfg +
        request.smartRouterFallback.length) * (cfg.retryTimes.toNat + 1) :=
    fun index => Nat.mul_le_mul_right _ (by omega)
  have hi := hm (request.autoGroupIndex.getD 0)
  simp only [Selection.groupIndex]
  rw [Nat.succ_mul]
  omega

end

end RelayState

/-- The loop uses no more channels than there are tries and ends; the retry indices stay within
bounds where no key is missing at the end of a group. -/
theorem retry_loop_within_budget (cfg : RetrySettings) (request : RelayRequest)
    (billing : RequestBilling) (usingGroup : String) (priced : Priced)
    (hTimes : 0 ≤ cfg.retryTimes) (attempts : List Attempt) :
    let step := step cfg request
    let start := enterLoop cfg request billing usingGroup priced
    let budget := (request.groupCount cfg + request.smartRouterFallback.length + 1) *
      (cfg.retryTimes.toNat + 1)
    let final := run step start attempts
    final.usedChannels.length ≤ budget ∧
      (budget ≤ attempts.length → final.phase ≠ .running) ∧
      Along step (fun state attempt =>
        state.selection.groupIndex ≤ (step state attempt).selection.groupIndex) start attempts ∧
      (Along step (KeyFoundAtGroupEnd cfg request) start attempts →
        Along step (fun state attempt =>
          ∀ retry ∈ queriedRetries cfg request state attempt,
            0 ≤ retry ∧ retry ≤ cfg.retryTimes) start attempts) := by
  intro step start budget final
  have hst : Looping cfg request start :=
    Looping.enterLoop billing usingGroup priced hTimes
  have hb : start.remaining cfg request ≤ budget :=
    remaining_enterLoop_le billing usingGroup priced hTimes
  have he := enterLoop_running request billing usingGroup priced hTimes
  have ht : Along step (fun _ _ => True) start attempts :=
    along_of_forall_mem (C := fun _ => True) start fun _ _ => trivial
  refine ⟨?_, fun hl hru => ?_, ?_, fun hke => ?_⟩
  · obtain ⟨_, hu⟩ := run_preserves (I := fun state => Looping cfg request state ∧
        state.usedChannels.length + state.remaining cfg request ≤ budget)
      (fun state attempt h => ⟨h.1.step attempt, (h.1.used_remaining_step attempt).trans h.2⟩)
      ⟨hst, by
        rw [show start.usedChannels = [] from congrArg usedChannels he]
        simpa using hb⟩ attempts
    exact (Nat.le_add_right _ _).trans hu
  · have hle : attempts.length + final.remaining cfg request ≤
        start.remaining cfg request := length_le_of_active (I := Looping cfg request)
      (fun state attempt h => h.step attempt)
      (fun state attempt h hr => h.remaining_lt hr (step_turned cfg request attempt hr))
      (fun state attempt h => by
        have hs : step state attempt = state := step_of_not_running attempt h
        rwa [hs]) hst hru
    have hf : Looping cfg request final :=
      run_preserves (I := Looping cfg request)
        (fun state attempt h => h.step attempt) hst attempts
    have hup := hf.upper hru
    have hso : 0 < final.remaining cfg request := by
      rw [remaining, if_pos hru]
      omega
    omega
  · exact along_imp (I := Looping cfg request)
      (fun state attempt h _ => h.step attempt) (fun state attempt h _ => h.groupIndex_step attempt)
      hst ht
  · refine along_imp (I := fun state => Looping cfg request state ∧
        (state.phase = .running → 0 ≤ state.selection.param.retry))
      (fun state attempt h hk => ⟨h.1.step attempt, h.1.retry_step hk h.2⟩)
      (fun state attempt h _ => h.1.queriedRetries_range h.2 attempt) ⟨hst, fun _ => ?_⟩ hke
    rw [show start.selection.param.retry = 0 from
      congrArg (fun state => state.selection.param.retry) he]

def crossGroupRequest : RelayRequest :=
  { sampleRequest "small" with crossGroupRetry := true, smartRouterFallback := ["big"] }

def sampleStart (request : RelayRequest) : RelayState :=
  enterLoop sampleSettings request sampleBilling "a" { priceData := {} }

def refusedAttempts : List Attempt :=
  List.replicate 8 { source := fun _ _ _ => .ok (some ⟨2, 1⟩), reply := refused }

theorem retry_loop_within_budget_refused :
    let step := step sampleSettings crossGroupRequest
    let final := run step (sampleStart crossGroupRequest) refusedAttempts
    final.usedChannels.length ≤ 8 ∧ final.phase ≠ .running ∧
      Along step (fun state attempt =>
        ∀ retry ∈ queriedRetries sampleSettings crossGroupRequest state attempt,
          0 ≤ retry ∧ retry ≤ 1) (sampleStart crossGroupRequest) refusedAttempts := by
  obtain ⟨hu, he, _, hr⟩ := retry_loop_within_budget sampleSettings crossGroupRequest
    sampleBilling "a" { priceData := {} } (by decide) refusedAttempts
  refine ⟨hu, he (by decide), hr ?_⟩
  refine along_mono (C := fun _ attempt => attempt.setupError = none) ?_
    (along_of_forall_mem _ fun attempt hm => ?_)
  · intro state attempt hn err hs
    rw [hn] at hs
    cases hs
  · rw [(mem_replicate.mp hm).2]

def missingKeyAttempts : List Attempt :=
  [{ source := fun _ _ _ => .ok none, reply := refused },
    { source := fun _ _ _ => .ok (some ⟨2, 1⟩)
      setupError := some (.final "get_channel_failed" "渠道# 2，已不存在" 500) }]

theorem retry_index_below_zero :
    let state := run (step sampleSettings crossGroupRequest)
      (sampleStart crossGroupRequest) missingKeyAttempts
    state.phase = .running ∧ state.queriedRetries sampleSettings crossGroupRequest
      { source := fun _ _ _ => .ok (some ⟨3, 1⟩) } = [-1] := by
  decide +kernel

end DeepRouter.Relay
