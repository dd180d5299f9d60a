import DeepRouter.Relay.FallbackReach

/-! # Order of the retries over groups and priorities -/

namespace DeepRouter.Relay

open Store Runs Channels WeightedChoice List RelayState

def priorityOf (table : ChannelTable) (group model : String) (id : Int) : Int :=
  ((table.pool group model).find? (·.1 = id)).elim 0 Prod.snd

theorem priorityOf_eq {table : ChannelTable} {group model : String} {id priority : Int}
    (h : (id, priority) ∈ table.pool group model) : priorityOf table group model id = priority := by
  rw [priorityOf]
  cases hf : (table.pool group model).find? (·.1 = id) with
  | none =>
    have hn := find?_eq_none.mp hf _ h
    simp at hn
  | some entry =>
    have hm := mem_of_find?_eq_some hf
    have hi : entry.1 = id := by simpa using find?_some hf
    exact ChannelTable.pool_functional (hi ▸ hm : (id, entry.2) ∈ table.pool group model) h

def InOrder (priorities : String → List Int) : List String → List (String × Int) → Prop
  | [], trace => trace = []
  | group :: groups, trace => ∃ (levels : List Int) (rest : List (String × Int)),
      trace = levels.map (group, ·) ++ rest ∧ levels.Pairwise (· ≥ ·) ∧ (∀ priority, priority ∈ levels ↔ priority ∈ priorities group) ∧
      InOrder priorities groups rest

namespace RelayState

variable (cfg : RetrySettings) (request : RelayRequest)

def tried (state : RelayState) (attempt : Attempt) : List (Option String × ChannelMeta) :=
  if state.phase = .running then
    match getChannel cfg request attempt state with
    | (.ok _, after) => [(after.channelGroup, after.channel)]
    | (.error _, _) => []
  else []

def attempted : RelayState → List Attempt → List (Option String × ChannelMeta)
  | _, [] => []
  | state, attempt :: attempts =>
    tried cfg request state attempt ++
      attempted (state.step cfg request attempt) attempts

end RelayState

def ranked (table : ChannelTable) (model : String) (tried : Option String × ChannelMeta) :
    String × Int :=
  let group := tried.1.getD ""
  (group, priorityOf table group model tried.2.channelId)

def attemptedPriorities (cfg : RetrySettings) (request : RelayRequest) (table : ChannelTable)
    (start : RelayState) (attempts : List Attempt) : List (String × Int) :=
  (RelayState.attempted cfg request start attempts).map (ranked table request.modelName)

structure Refused (cfg : RetrySettings) (request : RelayRequest) (table : ChannelTable)
    (attempt : Attempt) : Prop where
  source : ∃ random, attempt.source = tableSource table random
  setupError : attempt.setupError = none
  bodyError : attempt.bodyError = none
  reply : ∃ err, attempt.reply = some err ∧ shouldRetry cfg request attempt err 1 = true

def Distributed (cfg : RetrySettings) (request : RelayRequest) (table : ChannelTable) : Prop :=
  ∃ random,
    let (found, _, selection) := cacheGetRandomSatisfiedChannel cfg request.crossGroupRetry
      (tableSource table random) request.userGroup
      { param := { tokenGroup := request.tokenGroup, modelName := request.modelName } }
    found = .ok (some request.channel) ∧ request.autoGroup = selection.autoGroup ∧
      request.autoGroupIndex = selection.autoGroupIndex

variable {groups : List String}

section

variable (table : ChannelTable) (model : String) (times : Nat)

def level (group : String) (retry : Nat) : Int :=
  (clamped (table.priorities group model) retry).getD 0

def schedule : List String → Nat → List (String × Int)
  | [], _ => []
  | group :: groups, retry =>
    (List.range' retry (times + 1 - retry)).map (fun k => (group, level table model group k)) ++
      schedule groups 0

variable {table model times} {group : String}

theorem schedule_cons {retry : Nat} (h : retry ≤ times) :
    schedule table model times (group :: groups) retry =
      (group, level table model group retry) ::
        if retry < times then schedule table model times (group :: groups) (retry + 1)
        else schedule table model times groups 0 := by
  have hr : times + 1 - retry = (times - retry) + 1 := by omega
  rw [schedule, hr, List.range'_succ, map_cons, cons_append]
  split
  · rw [schedule]
    congr 4
    omega
  · rw [show times - retry = 0 by omega]
    rfl

theorem mem_schedule {priority : Int}
    (h : (group, priority) ∈ schedule table model times groups 0) :
    ∃ k ≤ times, level table model group k = priority := by
  induction groups with
  | nil => cases h
  | cons first groups ih =>
    rw [schedule] at h
    rcases mem_append.mp h with hf | hre
    · obtain ⟨k, hr, he⟩ := mem_map.mp hf
      cases he
      rw [mem_range'_1] at hr
      exact ⟨k, by omega, rfl⟩
    · exact ih hre

theorem InOrder.mem {priorities : String → List Int}
    {trace : List (String × Int)} (h : InOrder priorities groups trace)
    (hg : group ∈ groups) {pr : Int} (hp : pr ∈ priorities group) : (group, pr) ∈ trace := by
  induction groups generalizing trace with
  | nil => cases hg
  | cons first groups ih =>
    obtain ⟨levels, rest, rfl, _, hl, hr⟩ := h
    rcases mem_cons.mp hg with rfl | hla
    · exact mem_append_left _ (mem_map.mpr ⟨pr, (hl pr).mpr hp, rfl⟩)
    · exact mem_append_right _ (ih hr hla)

theorem level_eq {k : Nat} (h : k < (table.priorities group model).length) :
    level table model group k = (table.priorities group model)[k] := by
  rw [level, clamped, Nat.min_eq_left (by omega), getElem?_eq_getElem h, Option.getD_some]

theorem level_last {k : Nat} (h : table.priorities group model ≠ [])
    (hk : (table.priorities group model).length ≤ k + 1) :
    level table model group k =
      level table model group ((table.priorities group model).length - 1) := by
  have hl := length_pos_iff.mpr h
  rw [level, level, clamped, clamped, Nat.min_eq_right (by omega), Nat.min_self]

theorem priorities_ne_nil (h : table.pool group model ≠ []) : table.priorities group model ≠ [] :=
  distinctDesc_ne_nil (by simpa using h)

variable (table model) in
theorem priorities_getElem_lt (group : String) {i j : Nat} (hij : i < j)
    (hj : j < (table.priorities group model).length) :
    (table.priorities group model)[j] < (table.priorities group model)[i] :=
  pairwise_iff_getElem.mp (distinctDesc_pairwise _) i j (hij.trans hj) hj hij

theorem level_antitone (h : table.priorities group model ≠ []) {k k' : Nat}
    (hLe : k ≤ k') : level table model group k' ≤ level table model group k := by
  have hle := length_pos_iff.mpr h
  have hid (i : Nat) : level table model group i = level table model group
      (min i ((table.priorities group model).length - 1)) := by
    rcases Nat.lt_or_ge i (table.priorities group model).length with hi | hi
    · rw [Nat.min_eq_left (by omega)]
    · rw [Nat.min_eq_right (by omega), level_last h (by omega)]
  rw [hid k, hid k', level_eq (by omega), level_eq (by omega)]
  rcases Nat.lt_or_ge (min k ((table.priorities group model).length - 1))
      (min k' ((table.priorities group model).length - 1)) with hl | hg
  · exact (priorities_getElem_lt table model group hl (by omega)).le
  · have hs : min k' ((table.priorities group model).length - 1) =
        min k ((table.priorities group model).length - 1) := by omega
    simp only [hs, le_refl]

theorem schedule_inOrder (hu : ∀ group ∈ groups, table.pool group model ≠ [])
    (h : ∀ group ∈ groups, (table.priorities group model).length ≤ times + 1) :
    InOrder (table.priorities · model) groups (schedule table model times groups 0) := by
  induction groups with
  | nil => rfl
  | cons group groups ih =>
    have hn := priorities_ne_nil (hu group mem_cons_self)
    have hle := length_pos_iff.mpr hn
    have hf := h group mem_cons_self
    refine ⟨(List.range' 0 (times + 1)).map (level table model group), schedule table model times
      groups 0, ?_, ?_, fun pr => ?_,
      ih (fun g hg => hu g (mem_cons_of_mem _ hg))
        (fun g hg => h g (mem_cons_of_mem _ hg))⟩
    · rw [schedule, Nat.sub_zero, map_map]
      rfl
    · rw [pairwise_map]
      exact (pairwise_lt_range' 1).imp fun hl => level_antitone hn (Nat.le_of_lt hl)
    rw [mem_map]
    constructor
    · rintro ⟨k, _, rfl⟩
      obtain ⟨pr, hc⟩ := clamped_isSome hn k
      rw [level, hc]
      exact clamped_mem hc
    · intro hm
      change pr ∈ table.priorities group model at hm
      obtain ⟨k, hk, rfl⟩ := getElem_of_mem hm
      exact ⟨k, mem_range'_1.mpr (by omega), level_eq hk⟩

theorem few_of_inOrder
    (h : InOrder (table.priorities · model) groups (schedule table model times groups 0))
    (hg : group ∈ groups) : (table.priorities group model).length ≤ times + 1 := by
  by_contra hm
  have hl : times + 1 < (table.priorities group model).length := by omega
  obtain ⟨k, hk, hle⟩ := mem_schedule (h.mem hg (getElem_mem hl))
  have hGt := priorities_getElem_lt table model group (by omega : k < times + 1) hl
  rw [level_eq (by omega)] at hle
  exact absurd hle (ne_of_gt hGt)

end

section

variable {cfg : RetrySettings} {request : RelayRequest} {table : ChannelTable}
  {attempt : Attempt}

theorem shouldRetry_of_pos {err : ApiError} {rt : Int}
    (h : shouldRetry cfg request attempt err 1 = true) (hp : 0 < rt) :
    shouldRetry cfg request attempt err rt = true := by
  simp only [shouldRetry, if_neg (by omega : ¬(1 : Int) ≤ 0)] at h
  simp only [shouldRetry, if_neg (by omega : ¬rt ≤ 0)]
  exact h

def foundSelection (cfg : RetrySettings) (group : String) (selection : Selection) : Selection :=
  if cfg.retryTimes ≤ selection.param.retry then
    { selection with
      autoGroup := some group
      autoGroupIndex := some (selection.groupIndex + 1)
      param := { selection.param with retry := 0, resetNextTry := true } }
  else { selection with autoGroup := some group, autoGroupIndex := some selection.groupIndex }

theorem cacheGetRandomSatisfiedChannel_found {src : ChannelSource} {sel : Selection}
    {ug group : String} {rest : List String} {ch : ChannelMeta}
    (ha : sel.param.tokenGroup = "auto") (hg : cfg.autoGroups ≠ [])
    (hr : (cfg.getUserAutoGroup ug).drop sel.groupIndex = group :: rest)
    (hf : src group sel.param.modelName sel.param.retry = .ok (some ch)) :
    cacheGetRandomSatisfiedChannel cfg true src ug sel =
      (.ok (some ch), group, foundSelection cfg group sel) := by
  rw [Selection.groupIndex] at hr
  have hs : selectAutoGroup cfg true src (group :: rest)
      (sel.autoGroupIndex.getD 0) sel.param.retry sel =
      (some (ch, group), foundSelection cfg group sel) := by
    simp only [selectAutoGroup, hf, Bool.true_and, decide_eq_true_eq, foundSelection]
    split <;> rfl
  simp only [cacheGetRandomSatisfiedChannel, if_pos ha, if_neg hg, hr, hs]

theorem cacheGetRandomSatisfiedChannel_left {src : ChannelSource} {sel : Selection}
    {ug : String} (ha : sel.param.tokenGroup = "auto") (hg : cfg.autoGroups ≠ [])
    (hr : (cfg.getUserAutoGroup ug).drop sel.groupIndex = []) :
    cacheGetRandomSatisfiedChannel cfg true src ug sel = (.ok none, "auto", sel) := by
  rw [Selection.groupIndex] at hr
  simp only [cacheGetRandomSatisfiedChannel, if_pos ha, if_neg hg, hr, selectAutoGroup]
  rw [ha]

structure Waiting (cfg : RetrySettings) (request : RelayRequest) (groups : List String)
    (retry : Nat) (state : RelayState) : Prop where
  running : state.phase = .running
  entered : state.info.channelMeta ≠ none
  tokenGroup : state.selection.param.tokenGroup = "auto"
  free : state.selection.param.resetNextTry = false
  left : (cfg.getUserAutoGroup request.userGroup).drop state.selection.groupIndex = groups
  counter : groups ≠ [] → state.selection.param.retry = retry
  modelName : groups ≠ [] → state.selection.param.modelName = request.modelName

section

variable {retry : Nat} {sel : Selection} {after : RelayState} (hs : after.selection = sel)
  (ht : sel.param.tokenGroup = "auto")
  (hl : (cfg.getUserAutoGroup request.userGroup).drop sel.groupIndex = groups)
  (hb : sel.param.increaseRetry.retry ≤ cfg.retryTimes)
  (hc : groups ≠ [] → sel.param.increaseRetry.retry = retry)
  (hmo : groups ≠ [] → sel.param.modelName = request.modelName)

include hs ht hl hb hc hmo

theorem Waiting.next (hm : after.info.channelMeta ≠ none) :
    Waiting cfg request groups retry (after.next cfg) := by
  subst hs
  obtain ⟨hk, hf, _⟩ := increaseRetry_cases after.selection.param
  have hn := increaseRetry_modelName after.selection.param
  rw [RelayState.next, RelayState.turn, if_pos hb]
  exact ⟨rfl, hm, hk.trans ht, hf, hl, hc, fun hg => hn.trans (hmo hg)⟩

theorem Waiting.refused {state : RelayState} {ch : ChannelMeta} (hru : state.phase = .running)
    (hg : getChannel cfg request attempt state = (.ok ch, after))
    (hr : Refused cfg request table attempt) (hlt : sel.param.retry < cfg.retryTimes) :
    Waiting cfg request groups retry (state.step cfg request attempt) := by
  obtain ⟨err, hre, hrt⟩ := hr.reply
  have hh : (after.handled attempt).selection = sel := hs
  have ha := shouldRetry_of_pos hrt (by omega : 0 < cfg.retryTimes - sel.param.retry)
  simp only [RelayState.step, hru, ne_eq, not_true_eq_false, if_false, hg, relay, hr.bodyError, hre,
    hh, ha, if_true]
  exact Waiting.next rfl ht hl hb hc hmo (Option.some_ne_none _)

end

section

variable {group : String} {groups : List String} {retry : Nat} {state : RelayState} {attempt : Attempt}

theorem attempted_of_not_running (atts : List Attempt) (h : state.phase ≠ .running) :
    attempted cfg request state atts = [] := by
  induction atts with
  | nil => rfl
  | cons attempt atts ih =>
    rw [attempted, step_of_not_running attempt h, ih, tried, if_neg h]
    rfl

variable (hcr : request.crossGroupRetry = true) (hgr : cfg.autoGroups ≠ [])

include hcr hgr

theorem Waiting.getChannel (h : Waiting cfg request (group :: groups) retry state)
    (hu : table.pool group request.modelName ≠ []) (hre : Refused cfg request table attempt) :
    ∃ channel after, getChannel cfg request attempt state = (.ok channel, after) ∧
      after.selection = foundSelection cfg group state.selection ∧
      ranked table request.modelName (after.channelGroup, after.channel) =
        (group, level table request.modelName group retry) := by
  obtain ⟨random, hs⟩ := hre.source
  have hr := h.counter (cons_ne_nil _ _)
  have hm := h.modelName (cons_ne_nil _ _)
  obtain ⟨channel, priority, hf, hp, hpo⟩ := tableSource_ok hu random (by omega : (0 : Int) ≤ retry)
  rw [← hr, ← hm] at hf
  have hc := cacheGetRandomSatisfiedChannel_found h.tokenGroup hgr h.left hf
  refine ⟨channelMetaOf channel, { reselected cfg request
    (foundSelection cfg group state.selection) state with
      channel := channelMetaOf channel, channelGroup := some group }, ?_, ?_⟩
  · rw [RelayState.getChannel, if_neg h.entered, hcr, hs, hc]
    simp only [hre.setupError]
  refine ⟨rfl, ?_⟩
  rw [Int.toNat_natCast] at hp
  have hl : level table request.modelName group retry = priority := by
    rw [level, hp, Option.getD_some]
  rw [hl]
  exact congrArg (Prod.mk group) (priorityOf_eq hpo)

theorem Waiting.step (h : Waiting cfg request (group :: groups) retry state)
    (htm : 1 ≤ cfg.retryTimes) (hrt : retry ≤ cfg.retryTimes.toNat)
    (hu : table.pool group request.modelName ≠ []) (hre : Refused cfg request table attempt) :
    (tried cfg request state attempt).map (ranked table request.modelName) =
        [(group, level table request.modelName group retry)] ∧
      if retry < cfg.retryTimes.toNat then
        Waiting cfg request (group :: groups) (retry + 1) (state.step cfg request attempt)
      else Waiting cfg request groups 0 (state.step cfg request attempt) := by
  obtain ⟨channel, after, hge, hse, hr⟩ := h.getChannel hcr hgr hu hre
  have hco := h.counter (cons_ne_nil _ _)
  refine ⟨?_, ?_⟩
  · simp only [tried, if_pos h.running, hge, map_cons, map_nil, hr]
  have hfr := h.free
  have hmo := h.modelName (cons_ne_nil _ _)
  split
  · -- the counter goes up within the group
    rename_i hb
    have hn : state.selection.param.increaseRetry.retry = retry + 1 := by
      rw [RetryParam.increaseRetry, if_neg (by simp [hfr])]
      exact congrArg (· + 1) hco
    rw [foundSelection, if_neg (by omega)] at hse
    exact Waiting.refused hse h.tokenGroup h.left
      (by omega : state.selection.param.increaseRetry.retry ≤ _) (fun _ => hn) (fun _ => hmo)
      h.running hge hre (by omega : state.selection.param.retry < _)
  · -- the last try of the group: the next turn starts over in the group after it
    rw [foundSelection, if_pos (by omega)] at hse
    have ht := congrArg (List.drop 1) h.left
    rw [drop_drop] at ht
    exact Waiting.refused hse h.tokenGroup ht (by omega : (0 : Int) ≤ _) (fun _ => rfl)
      (fun _ => hmo) h.running hge hre htm

theorem Waiting.step_left (h : Waiting cfg request [] retry state) (attempt : Attempt)
    (ht : 0 ≤ cfg.retryTimes) :
    tried cfg request state attempt = [] ∧
      ((state.step cfg request attempt).phase ≠ .running ∨
        Waiting cfg request [] retry (state.step cfg request attempt)) := by
  let err := ApiError.final "get_channel_failed" ("分组 " ++ "auto" ++ " 下模型 " ++
    state.info.originModelName ++ " 的可用渠道不存在（retry）") 500
  have he : isChannelExhaustionError err = true := rfl
  have hg : RelayState.getChannel cfg request attempt state =
      (.error err, RelayState.reselected cfg request state.selection state) := by
    rw [RelayState.getChannel, if_neg h.entered, hcr,
      cacheGetRandomSatisfiedChannel_left h.tokenGroup hgr h.left]
    rfl
  refine ⟨by simp only [RelayState.tried, if_pos h.running, hg], ?_⟩
  rw [RelayState.step, if_neg (not_not_intro h.running), hg]
  dsimp only
  rw [if_pos he, RelayState.tryCrossModelFallback]
  cases hch : (reselected cfg request state.selection state).smartRouterFallback with
  | nil => exact .inl (by simp [fail])
  | cons nextModel chain =>
    refine .inr (Waiting.next rfl h.tokenGroup h.left ?_ (absurd rfl) (absurd rfl) h.entered)
    rw [RetryParam.increaseRetry, if_neg (by simp [reselected, h.free])]
    exact ht

theorem Waiting.attempted_left (h : Waiting cfg request [] retry state)
    (htm : 0 ≤ cfg.retryTimes) (atts : List Attempt) : attempted cfg request state atts = [] := by
  induction atts generalizing state with
  | nil => rfl
  | cons attempt atts ih =>
    obtain ⟨ht, hs⟩ := h.step_left hcr hgr attempt htm
    rw [attempted, ht, nil_append]
    rcases hs with hst | hw
    · exact attempted_of_not_running atts hst
    · exact ih hw

theorem Waiting.attempted (h : Waiting cfg request groups retry state)
    (htm : 1 ≤ cfg.retryTimes) (hrt : retry ≤ cfg.retryTimes.toNat)
    (hu : ∀ group ∈ groups, table.pool group request.modelName ≠ []) {atts : List Attempt}
    (hr : ∀ attempt ∈ atts, Refused cfg request table attempt) :
    attemptedPriorities cfg request table state atts =
        (schedule table request.modelName cfg.retryTimes.toNat groups retry).take
          atts.length ∧
      ((run (RelayState.step cfg request) state atts).phase ≠ .running →
        (schedule table request.modelName cfg.retryTimes.toNat groups retry).length ≤
          atts.length) := by
  induction atts generalizing groups retry state with
  | nil => exact ⟨rfl, fun hs => absurd h.running hs⟩
  | cons attempt atts ih =>
    have hre : ∀ later ∈ atts, Refused cfg request table later :=
      fun later hla => hr later (mem_cons_of_mem _ hla)
    cases groups with
    | nil =>
      rw [attemptedPriorities, h.attempted_left hcr hgr (by omega)]
      exact ⟨rfl, fun _ => Nat.zero_le _⟩
    | cons group groups =>
      obtain ⟨ht, hst⟩ := h.step hcr hgr htm hrt (hu group mem_cons_self) (hr attempt mem_cons_self)
      rw [attemptedPriorities, attempted, map_append, ht, run_cons, schedule_cons hrt, length_cons,
        take_succ_cons, length_cons]
      split at hst
      · rename_i hb
        obtain ⟨htr, hle⟩ := ih hst (by omega) hu hre
        rw [if_pos hb]
        exact ⟨congrArg (List.cons _) htr, fun hs => Nat.succ_le_succ (hle hs)⟩
      · rename_i hl
        obtain ⟨htr, hle⟩ := ih hst (Nat.zero_le _) (fun g hg => hu g (mem_cons_of_mem _ hg)) hre
        rw [if_neg hl]
        exact ⟨congrArg (List.cons _) htr, fun hs => Nat.succ_le_succ (hle hs)⟩

end

theorem Distributed.first (h : Distributed cfg request table)
    (ha : request.tokenGroup = "auto") (hcr : request.crossGroupRetry = true)
    (ht : 1 ≤ cfg.retryTimes) (hu : ∀ group ∈ cfg.getUserAutoGroup request.userGroup,
      table.pool group request.modelName ≠ []) :
    ∃ group groups, cfg.getUserAutoGroup request.userGroup = group :: groups ∧
      cfg.autoGroups ≠ [] ∧ request.autoGroup = some group ∧ request.autoGroupIndex = some 0 ∧
      ranked table request.modelName (some group, request.channel) =
        (group, level table request.modelName group 0) := by
  obtain ⟨random, hs⟩ := h
  have hgr : cfg.autoGroups ≠ [] := by
    intro hn
    simp only [cacheGetRandomSatisfiedChannel, ha, hn, if_true] at hs
    cases hs.1
  cases hli : cfg.getUserAutoGroup request.userGroup with
  | nil =>
    rw [hcr, cacheGetRandomSatisfiedChannel_left ha hgr (by rw [hli]; rfl)] at hs
    cases hs.1
  | cons group groups =>
    obtain ⟨channel, priority, hf, hp, hpo⟩ := tableSource_ok
      (hu group (by rw [hli]; exact mem_cons_self)) random (le_refl (0 : Int))
    rw [hcr, cacheGetRandomSatisfiedChannel_found ha hgr (by rw [hli]; rfl) hf] at hs
    obtain ⟨hc, hg, hi⟩ := hs
    rw [foundSelection, if_neg (show ¬cfg.retryTimes ≤ 0 by omega)] at hg hi
    refine ⟨group, groups, rfl, hgr, hg, hi, ?_⟩
    have hm : channelMetaOf channel = request.channel := Option.some.inj (Except.ok.inj hc)
    have hl : level table request.modelName group 0 = priority := by
      rw [level, show clamped (table.priorities group request.modelName) 0 = some priority from
        hp, Option.getD_some]
    rw [hl, ← hm]
    exact congrArg (Prod.mk group) (priorityOf_eq hpo)

theorem Distributed.step (h : Distributed cfg request table)
    (bil : RequestBilling) (ug : String) (priced : Priced)
    (ha : request.tokenGroup = "auto") (hc : request.crossGroupRetry = true)
    (ht : 1 ≤ cfg.retryTimes) (hu : ∀ group ∈ cfg.getUserAutoGroup request.userGroup,
      table.pool group request.modelName ≠ []) (hre : Refused cfg request table attempt) :
    let start := enterLoop cfg request bil ug priced
    ∃ group groups, cfg.getUserAutoGroup request.userGroup = group :: groups ∧
      cfg.autoGroups ≠ [] ∧
      (tried cfg request start attempt).map (ranked table request.modelName) =
        [(group, level table request.modelName group 0)] ∧
      Waiting cfg request (group :: groups) 1 (start.step cfg request attempt) := by
  obtain ⟨group, groups, hl, hgr, hGrp, hi, hr⟩ := h.first ha hc ht hu
  rw [enterLoop_running request bil ug priced (by omega)]
  intro start
  have hg : getChannel cfg request attempt start = (.ok request.channel, start) :=
    if_pos rfl
  refine ⟨group, groups, hl, hgr, ?_, ?_⟩
  · simp only [tried, hg]
    rw [if_pos (by rfl), map_singleton]
    rw [← hGrp] at hr
    exact congrArg (fun first => [first]) hr
  · refine Waiting.refused (rfl : start.selection = _) ha ?_ ht (fun _ => rfl)
      (fun _ => rfl) rfl hg hre ht
    rw [Selection.groupIndex, show start.selection.autoGroupIndex = some 0 from hi]
    exact hl

end

/-- The refused attempts go through the groups and their priorities in order just when no group has
more priorities than tries. -/
theorem documented_order_iff (cfg : RetrySettings) (request : RelayRequest)
    (billing : RequestBilling) (usingGroup : String) (priced : Priced) (table : ChannelTable)
    (attempts : List Attempt) (hAuto : request.tokenGroup = "auto")
    (hCross : request.crossGroupRetry = true) (hTimes : 1 ≤ cfg.retryTimes)
    (hUsable : ∀ group ∈ cfg.getUserAutoGroup request.userGroup,
      table.pool group request.modelName ≠ []) (hDistributed : Distributed cfg request table)
    (hRefused : ∀ attempt ∈ attempts, Refused cfg request table attempt)
    (hEnded : (run (RelayState.step cfg request)
      (enterLoop cfg request billing usingGroup priced) attempts).phase ≠ .running) :
    InOrder (table.priorities · request.modelName) (cfg.getUserAutoGroup request.userGroup)
        (attemptedPriorities cfg request table
          (enterLoop cfg request billing usingGroup priced) attempts) ↔
      ∀ group ∈ cfg.getUserAutoGroup request.userGroup,
        (table.priorities group request.modelName).length ≤ cfg.retryTimes.toNat + 1 := by
  have htr : attemptedPriorities cfg request table
      (enterLoop cfg request billing usingGroup priced) attempts =
      schedule table request.modelName cfg.retryTimes.toNat
        (cfg.getUserAutoGroup request.userGroup) 0 := by
    cases attempts with
    | nil =>
      have he := enterLoop_running request billing usingGroup priced (by omega : 0 ≤ cfg.retryTimes)
      exact absurd (congrArg phase he) hEnded
    | cons attempt attempts =>
      obtain ⟨group, groups, hg, hs, ht, hw⟩ := hDistributed.step billing usingGroup
        priced hAuto hCross hTimes hUsable (hRefused attempt mem_cons_self)
      rw [hg] at hUsable
      obtain ⟨hr, hl⟩ := hw.attempted hCross hs hTimes (by omega) hUsable
        fun later hla => hRefused later (mem_cons_of_mem _ hla)
      rw [attemptedPriorities, RelayState.attempted, map_append, ht, hg,
        schedule_cons (Nat.zero_le _), if_pos (by omega)]
      refine congrArg (List.cons _) (hr.trans (take_of_length_le (hl hEnded)))
  rw [htr]
  constructor
  · intro ho group hgr
    exact few_of_inOrder ho hgr
  · exact schedule_inOrder hUsable

def smallChannel (id : Int) (group : String) (priority : Int) : Channel :=
  { id, type := 1, status := statusEnabled, models := "small", group, priority := some priority }

def twoPriorities : ChannelTable :=
  .cached (initChannelCache ⟨[smallChannel 1 "a" 2, smallChannel 2 "a,b" 1], by decide⟩)

def threePriorities : ChannelTable :=
  .cached (initChannelCache
    ⟨[smallChannel 1 "a" 3, smallChannel 2 "a" 2, smallChannel 3 "a,b" 1], by decide⟩)

def allGroupsRequest : RelayRequest := { sampleRequest "small" with crossGroupRetry := true }

theorem refused_tableAttempt (table : ChannelTable) (count : Nat) :
    ∀ attempt ∈ List.replicate count (tableAttempt table none refused),
      Refused sampleSettings allGroupsRequest table attempt := by
  intro attempt hm
  rw [(mem_replicate.mp hm).2]
  have hr : shouldRetry sampleSettings allGroupsRequest { source := fun _ _ _ => .ok none }
      (refused.get rfl) 1 = true := by
    decide +kernel
  exact ⟨⟨_, rfl⟩, rfl, rfl, _, rfl, hr⟩

theorem documented_order_iff_two_priorities :
    Distributed sampleSettings allGroupsRequest twoPriorities ∧
      InOrder (twoPriorities.priorities · "small") ["a", "b"]
        (attemptedPriorities sampleSettings allGroupsRequest twoPriorities
          (sampleStart allGroupsRequest)
          (List.replicate 5 (tableAttempt twoPriorities none refused))) := by
  have hd : Distributed sampleSettings allGroupsRequest twoPriorities :=
    ⟨fun _ _ _ => 0, by decide +kernel⟩
  refine ⟨hd, ?_⟩
  exact (documented_order_iff sampleSettings allGroupsRequest sampleBilling "a" { priceData := {} }
    twoPriorities (List.replicate 5 (tableAttempt twoPriorities none refused)) rfl rfl (by decide)
    (by decide +kernel) hd (refused_tableAttempt twoPriorities 5) (by decide +kernel)).mpr
    (by decide +kernel)

theorem lowest_priority_never_tried :
    let attempts := List.replicate 5 (tableAttempt threePriorities none refused)
    let trace := attemptedPriorities sampleSettings allGroupsRequest threePriorities
      (sampleStart allGroupsRequest) attempts
    Distributed sampleSettings allGroupsRequest threePriorities ∧
      (run (step sampleSettings allGroupsRequest) (sampleStart allGroupsRequest)
        attempts).phase = .ended ∧
      threePriorities.priorities "a" "small" = [3, 2, 1] ∧
      trace = [("a", 3), ("a", 2), ("b", 1), ("b", 1)] ∧
      ¬InOrder (threePriorities.priorities · "small") ["a", "b"] trace := by
  intro attempts trace
  have ht : trace = [("a", 3), ("a", 2), ("b", 1), ("b", 1)] := by decide +kernel
  refine ⟨⟨fun _ _ _ => 0, by decide +kernel⟩, by decide +kernel, by decide +kernel, ht, ?_⟩
  intro ho
  have hm : ("a", (1 : Int)) ∈ trace := ho.mem mem_cons_self (by decide +kernel)
  rw [ht] at hm
  exact absurd hm (by decide)

end DeepRouter.Relay
