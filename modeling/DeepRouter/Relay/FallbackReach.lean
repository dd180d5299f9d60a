import DeepRouter.Channels.Selection
import DeepRouter.Relay.RetryBudget

/-! # Reach of the model fallback -/

namespace DeepRouter.Relay

open Store Runs Channels List RelayState

def channelMetaOf (channel : Channel) : ChannelMeta := ⟨channel.id, channel.type⟩

def tableSource (table : ChannelTable) (random : String → String → Int → Nat) : ChannelSource :=
  fun group model retry =>
    (table.lookup (random group model retry) group model retry).map (Option.map channelMetaOf)

theorem tableSource_ok {table : ChannelTable} {group model : String}
    (h : table.pool group model ≠ []) (rn : String → String → Int → Nat) {retry : Int}
    (hr : 0 ≤ retry) :
    ∃ ch pr, tableSource table rn group model retry =
        .ok (some (channelMetaOf ch)) ∧
      WeightedChoice.clamped (table.priorities group model) retry.toNat = some pr ∧
      (ch.id, pr) ∈ table.pool group model := by
  obtain ⟨ch, pr, hl, hp, hpo⟩ := table.lookup_ok hr (rn group model retry) h
  exact ⟨ch, pr, by rw [tableSource, hl]; rfl, hp, hpo⟩

namespace RelayState

variable (cfg : RetrySettings) (request : RelayRequest)

def channelFound (state : RelayState) (attempt : Attempt) : Bool :=
  decide (state.phase = .running) && (decide (state.info.channelMeta = none) ||
    match (cacheGetRandomSatisfiedChannel cfg request.crossGroupRetry attempt.source
      request.userGroup state.selection).1 with
    | .ok (some _) => true
    | _ => false)

def reachedModels : RelayState → List Attempt → List String
  | _, [] => []
  | state, attempt :: attempts =>
    (if channelFound cfg request state attempt then [state.selection.param.modelName] else []) ++
      reachedModels (state.step cfg request attempt) attempts

def exhausted : Except ApiError ChannelMeta → Bool
  | .error err => isChannelExhaustionError err
  | .ok _ => false

def GivesUp (state : RelayState) (attempt : Attempt) : Prop :=
  state.phase = .running ∧ state.smartRouterFallback = [] ∧
    exhausted (getChannel cfg request attempt state).1 = true
deriving Decidable

variable {state : RelayState} {attempt : Attempt}

def Usable (table : ChannelTable) (model : String) : Prop :=
  if request.tokenGroup = "auto" then
    ∃ group ∈ cfg.getUserAutoGroup request.userGroup, table.pool group model ≠ []
  else table.pool request.tokenGroup model ≠ []

variable {cfg request} {table : ChannelTable}

theorem increaseRetry_modelName (param : RetryParam) :
    param.increaseRetry.modelName = param.modelName := by
  rw [RetryParam.increaseRetry]
  split <;> rfl

def Accounted (cfg : RetrySettings) (request : RelayRequest) (table : ChannelTable)
    (seen : List String) (state : RelayState) : Prop :=
  ∀ model ∈ request.smartRouterFallback, model ∈ state.smartRouterFallback ∨
    model = state.selection.param.modelName ∨ model ∈ seen ∨ ¬Usable cfg request table model

theorem run_of_not_running (atts : List Attempt)
    (h : state.phase ≠ .running) : run (step cfg request) state atts = state := by
  induction atts with
  | nil => rfl
  | cons attempt atts ih => rw [run_cons, step_of_not_running attempt h, ih]

variable (hg : request.tokenGroup = "auto" → cfg.getUserAutoGroup request.userGroup = [])

include hg

theorem channelFound_of_usable (hl : Looping cfg request state) (hru : state.phase = .running)
    (hr : 0 ≤ state.selection.param.retry)
    {rn : String → String → Int → Nat} (hs : attempt.source = tableSource table rn)
    (hu : Usable cfg request table state.selection.param.modelName) :
    channelFound cfg request state attempt = true := by
  rw [Usable] at hu
  split at hu
  · rename_i ha
    rw [hg ha] at hu
    obtain ⟨_, hm, _⟩ := hu
    cases hm
  · rename_i hf
    obtain ⟨channel, _, hfn, _⟩ := tableSource_ok hu rn hr
    simp only [channelFound, cacheGetRandomSatisfiedChannel, hl.tokenGroup, if_neg hf, hs, hfn, hru,
      decide_true, Bool.true_and, Bool.or_true]

theorem keyFoundAtGroupEnd (hlo : Looping cfg request state) (hr : state.phase = .running)
    (attempt : Attempt) : KeyFoundAtGroupEnd cfg request state attempt := by
  intro _ _ _ _
  have hc : request.groupCount cfg = 0 := by
    rw [RelayRequest.groupCount]
    split
    · rename_i ha
      rw [hg ha]
      rfl
    · rfl
  rcases (selected_advance cfg attempt hlo.tokenGroup).shape with ⟨_, hp⟩ | ⟨hl, hb, _⟩
  · rw [hp]
    exact hlo.free hr
  · omega

theorem Accounted.step {seen : List String}
    (h : Accounted cfg request table seen state) (hlo : Looping cfg request state)
    (hr : state.phase = .running) (hrt : 0 ≤ state.selection.param.retry)
    {rn : String → String → Int → Nat} (hsr : attempt.source = tableSource table rn)
    (hn : (state.step cfg request attempt).phase = .running) :
    Accounted cfg request table
      ((if channelFound cfg request state attempt then [state.selection.param.modelName]
        else []) ++ seen) (state.step cfg request attempt) := by
  intro model hm
  obtain ⟨-, param, he, hg'⟩ := (step_turned cfg request attempt hr).progress.running hn
  rw [he, increaseRetry_modelName]
  generalize (state.step cfg request attempt).smartRouterFallback = chain at hg'
  cases hg' with
  | retried =>
    rw [(selected_advance cfg attempt hlo.tokenGroup).modelName]
    rcases h model hm with hl | hc | hs | hun
    · exact .inl hl
    · exact .inr (.inl hc)
    · exact .inr (.inr (.inl (mem_append_right _ hs)))
    · exact .inr (.inr (.inr hun))
  | fellBack fallback failed exhausted =>
    rcases h model hm with hl | ho | hs | hun
    · rw [fallback] at hl
      rcases mem_cons.mp hl with hh | ht
      · exact .inr (.inl hh)
      · exact .inl ht
    · -- the model that is given up was reached or has no channel
      subst ho
      by_cases hu : Usable cfg request table state.selection.param.modelName
      · have hf := channelFound_of_usable hg hlo hr hrt hsr hu
        rw [hf]
        exact .inr (.inr (.inl mem_cons_self))
      · exact .inr (.inr (.inr hu))
    · exact .inr (.inr (.inl (mem_append_right _ hs)))
    · exact .inr (.inr (.inr hun))

theorem reached_or_unusable {last : Attempt} {atts : List Attempt}
    (ht : ∀ attempt ∈ atts ++ [last], ∃ rn, attempt.source = tableSource table rn)
    {seen : List String} (h : Accounted cfg request table seen state)
    (hlo : Looping cfg request state)
    (hrt : state.phase = .running → 0 ≤ state.selection.param.retry)
    (hla : GivesUp cfg request (run (step cfg request) state atts) last) :
    ∀ model ∈ request.smartRouterFallback, model ∈ seen ∨
      model ∈ reachedModels cfg request state (atts ++ [last]) ∨
      ¬Usable cfg request table model := by
  induction atts generalizing seen state with
  | nil =>
    obtain ⟨hru, hc, _⟩ := hla
    obtain ⟨rn, hsr⟩ := ht last mem_cons_self
    intro model hm
    rcases h model hm with hl | ho | hse | hun
    · rw [show state.smartRouterFallback = [] from hc] at hl
      cases hl
    · subst ho
      by_cases hu : Usable cfg request table state.selection.param.modelName
      · have hf := channelFound_of_usable hg hlo hru (hrt hru) hsr hu
        rw [nil_append, reachedModels, hf]
        exact .inr (.inl mem_cons_self)
      · exact .inr (.inr hu)
    · exact .inl hse
    · exact .inr (.inr hun)
  | cons attempt atts ih =>
    have hn : (state.step cfg request attempt).phase = .running := by
      by_contra hs
      rw [run_cons, run_of_not_running atts hs] at hla
      exact hs hla.1
    have hru : state.phase = .running := by
      by_contra hs
      rw [step_of_not_running attempt hs] at hn
      exact hs hn
    obtain ⟨rn, hsr⟩ := ht attempt mem_cons_self
    have hr := ih (fun a ha => ht a (mem_cons_of_mem _ ha))
      (h.step hg hlo hru (hrt hru) hsr hn) (hlo.step attempt)
      (hlo.retry_step (keyFoundAtGroupEnd hg hlo hru attempt) hrt) hla
    intro model hm
    rw [cons_append, reachedModels]
    rcases hr model hm with hse | hre | hun
    · rcases mem_append.mp hse with hh | hb
      · exact .inr (.inl (mem_append_left _ hh))
      · exact .inl hb
    · exact .inr (.inl (mem_append_right _ hre))
    · exact .inr (.inr hun)

end RelayState

/-- Where the loop gives up for want of a channel, every model of the chain with an enabled channel
has been reached. -/
theorem fallback_reaches_usable_models (cfg : RetrySettings) (request : RelayRequest)
    (billing : RequestBilling) (usingGroup : String) (priced : Priced) (table : ChannelTable)
    (hGroup : request.tokenGroup = "auto" → cfg.getUserAutoGroup request.userGroup = [])
    (attempts : List Attempt) (last : Attempt)
    (hTable : ∀ attempt ∈ attempts ++ [last], ∃ random, attempt.source = tableSource table random) :
    let start := enterLoop cfg request billing usingGroup priced
    GivesUp cfg request (run (step cfg request) start attempts) last →
      ∀ model ∈ request.smartRouterFallback,
        model ∉ reachedModels cfg request start (attempts ++ [last]) →
        ¬Usable cfg request table model := by
  intro start hl model hm hn
  by_cases ht : 0 ≤ cfg.retryTimes
  · have hen := enterLoop_running request billing usingGroup priced ht
    have hc : start.smartRouterFallback = request.smartRouterFallback :=
      congrArg smartRouterFallback hen
    have hrt : start.selection.param.retry = 0 :=
      congrArg (fun state => state.selection.param.retry) hen
    have ha : Accounted cfg request table [] start := fun model hm => .inl (hc ▸ hm)
    have hr := reached_or_unusable hGroup hTable ha
      (Looping.enterLoop billing usingGroup priced ht) (fun _ => hrt.ge) hl
    rcases hr model hm with hs | hre | hu
    · cases hs
    · exact absurd hre hn
    · exact hu
  · have he : start.phase ≠ .running := by
      rw [show start = turn cfg _ from rfl, turn, if_neg ht]
      exact fun h => by cases h
    rw [run_of_not_running attempts he] at hl
    exact absurd hl.1 he

def oneChannelTable (models : String) : ChannelTable :=
  .cached (initChannelCache
    ⟨[{ id := 1, type := 1, status := statusEnabled, models, group := "a" }],
      List.nodup_singleton _⟩)

def tableAttempt (table : ChannelTable) (setupError reply : Option ApiError) : Attempt :=
  { source := tableSource table fun _ _ _ => 0, setupError, reply }

theorem fallback_reaches_usable_models_lost_key :
    let table := oneChannelTable "small"
    let attempts := [tableAttempt table none refused,
      tableAttempt table (some (.final "get_channel_failed" "渠道# 1，已不存在" 500)) none]
    let last := tableAttempt table none none
    GivesUp sampleSettings (chainedRequest "big")
        (run (step sampleSettings (chainedRequest "big"))
          (sampleStart (chainedRequest "big")) attempts) last ∧
      ¬Usable sampleSettings (chainedRequest "big") table "big" := by
  intro table attempts last
  have hl : GivesUp sampleSettings (chainedRequest "big")
      (run (step sampleSettings (chainedRequest "big"))
        (sampleStart (chainedRequest "big")) attempts) last := by
    decide +kernel
  refine ⟨hl, ?_⟩
  refine fallback_reaches_usable_models sampleSettings (chainedRequest "big") sampleBilling "a"
    { priceData := {} } table (fun h => absurd h (by decide)) attempts last ?_ hl "big"
    mem_cons_self (by decide +kernel)
  intro attempt hm
  simp only [attempts, last, cons_append, nil_append, mem_cons, not_mem_nil, or_false] at hm
  rcases hm with rfl | rfl | rfl <;> exact ⟨_, rfl⟩

theorem usable_model_never_reached :
    let table := oneChannelTable "small,big"
    let attempts := List.replicate 3 (tableAttempt table none refused)
    let last := tableAttempt table none none
    let start := sampleStart crossGroupRequest
    GivesUp sampleSettings crossGroupRequest
        (run (step sampleSettings crossGroupRequest) start attempts) last ∧
      reachedModels sampleSettings crossGroupRequest start (attempts ++ [last]) =
        ["small", "small"] ∧
      "big" ∈ crossGroupRequest.smartRouterFallback ∧
      Usable sampleSettings crossGroupRequest table "big" := by
  refine ⟨by decide +kernel, by decide +kernel, by decide, ?_⟩
  exact ⟨"a", by decide, by decide +kernel⟩

end DeepRouter.Relay
