import DeepRouter.Channels.Schema
import DeepRouter.Library.WeightedChoice

/-! # Selection of a channel -/

namespace DeepRouter.Channels

open GoStrings KeyedTable WeightedChoice List

abbrev Err := String

def handleThinkingBudgetModel (name start wildcard : String) : String :=
  if hasPrefix name start && contains name "-thinking-" then wildcard else name

def formatMatchingModelName (name : String) : String :=
  let name :=
    if hasPrefix name "gemini-2.5-flash-lite" then
      handleThinkingBudgetModel name "gemini-2.5-flash-lite" "gemini-2.5-flash-lite-thinking-*"
    else if hasPrefix name "gemini-2.5-flash" then
      handleThinkingBudgetModel name "gemini-2.5-flash" "gemini-2.5-flash-thinking-*"
    else if hasPrefix name "gemini-2.5-pro" then
      handleThinkingBudgetModel name "gemini-2.5-pro" "gemini-2.5-pro-thinking-*"
    else name
  let name := if hasPrefix name "gpt-4-gizmo" then "gpt-4-gizmo-*" else name
  if hasPrefix name "gpt-4o-gizmo" then "gpt-4o-gizmo-*" else name

structure ChannelCache where
  group2model2channels : String → String → List Int
  channelsIDM : Int → Option Channel
  known : ∀ group model, ∀ id ∈ group2model2channels group model,
    ∃ channel, channelsIDM id = some channel
  named : ∀ id channel, channelsIDM id = some channel → channel.id = id

def Channel.listed (group model : String) (channel : Channel) : List Int :=
  if channel.status = statusEnabled then
    (channel.groupList.filter (· = group)).flatMap fun _ =>
      (channel.modelList.filter (· = model)).map fun _ => channel.id
  else []

theorem Channel.mem_listed {group model : String} {channel : Channel} {id : Int} :
    id ∈ channel.listed group model ↔ id = channel.id ∧ channel.status = statusEnabled ∧
      group ∈ channel.groupList ∧ model ∈ channel.modelList := by
  rw [Channel.listed]
  split
  · rename_i hs
    simp only [mem_flatMap, mem_filter, decide_eq_true_eq, mem_map]
    constructor
    · rintro ⟨_, ⟨hg, rfl⟩, _, ⟨hm, rfl⟩, rfl⟩
      exact ⟨rfl, hs, hg, hm⟩
    · rintro ⟨rfl, _, hg, hm⟩
      exact ⟨group, ⟨hg, rfl⟩, model, ⟨hm, rfl⟩, rfl⟩
  · rename_i hs
    simp [hs]

theorem mem_flatMap_listed {chs : Table Channel.id} {group model : String} {id : Int} :
    id ∈ chs.rows.flatMap (Channel.listed group model) ↔
      ∃ channel, chs.find? id = some channel ∧ channel.status = statusEnabled ∧
        group ∈ channel.groupList ∧ model ∈ channel.modelList := by
  simp only [mem_flatMap, Channel.mem_listed]
  constructor
  · rintro ⟨channel, hr, rfl, hl⟩
    exact ⟨channel, Table.find?_of_mem hr, hl⟩
  · rintro ⟨channel, hf, hl⟩
    exact ⟨channel, Table.mem_of_find? hf, (Table.key_of_find? hf).symm, hl⟩

def initChannelCache (channels : Table Channel.id) : ChannelCache where
  group2model2channels group model :=
    (channels.rows.flatMap (Channel.listed group model)).insertionSort fun id id' =>
      ((channels.find? id).map Channel.getPriority).getD 0 ≥
        ((channels.find? id').map Channel.getPriority).getD 0
  channelsIDM := channels.find?
  known := by
    intro group model id hm
    rw [List.mem_insertionSort, List.mem_flatMap] at hm
    obtain ⟨channel, hr, hl⟩ := hm
    obtain ⟨rfl, _⟩ := Channel.mem_listed.mp hl
    exact ⟨channel, Table.find?_of_mem hr⟩
  named id channel hf := Table.key_of_find? hf

/-- The priority for a retry index, the lowest for an index past the end. A negative index is out of
range. -/
def priorityAt (priorities : List Int) (retry : Int) : Option Int :=
  if retry < 0 then none else clamped priorities retry.toNat

namespace ChannelCache

variable (cache : ChannelCache)

def channelIds (group model : String) : List Int :=
  match cache.group2model2channels group model with
  | [] => cache.group2model2channels group (formatMatchingModelName model)
  | ids => ids

def load (id : Int) : Except Err Channel :=
  match cache.channelsIDM id with
  | some channel => .ok channel
  | none => .error ("数据库一致性错误，渠道# " ++ toString id ++ " 不存在，请联系管理员修复")

structure Smoothing where
  sumWeight : Nat
  smoothingFactor : Nat := 1
  smoothingAdjustment : Nat := 0

def smoothing (targetChannels : List Channel) : Smoothing :=
  let sumWeight := (targetChannels.map Channel.getWeight).sum
  if sumWeight = 0 then
    { sumWeight := targetChannels.length * 100, smoothingAdjustment := 100 }
  else if sumWeight / targetChannels.length < 10 then { sumWeight, smoothingFactor := 100 }
  else { sumWeight }

def Smoothing.effective (smoothing : Smoothing) (channel : Channel) : Nat :=
  channel.getWeight * smoothing.smoothingFactor + smoothing.smoothingAdjustment

def Smoothing.totalWeight (smoothing : Smoothing) : Nat :=
  smoothing.sumWeight * smoothing.smoothingFactor

def chooseByWeight (random : Nat) (targetChannels : List Channel) : Except Err (Option Channel) :=
  let smoothing := smoothing targetChannels
  match choose smoothing.effective (-1) targetChannels
      ((random % smoothing.totalWeight : Nat) : Int) with
  | some channel => .ok (some channel)
  | none => .error "channel not found"

def getRandomSatisfiedChannel (random : Nat) (group model : String) (retry : Int) :
    Except Err (Option Channel) :=
  match cache.channelIds group model with
  | [] => .ok none
  | [id] => (cache.load id).map some
  | ids => do
    let channels ← ids.mapM cache.load
    let priorities := distinctDesc (channels.map Channel.getPriority)
    match priorityAt priorities retry with
    | none => .error "index out of range"
    | some targetPriority =>
      let targetChannels := channels.filter (·.getPriority = targetPriority)
      if targetChannels = [] then
        .error ("no channel found, group: " ++ group ++ ", model: " ++ model ++ ", priority: " ++
          toString targetPriority)
      else chooseByWeight random targetChannels

end ChannelCache

namespace ChannelStore

variable (store : ChannelStore)

def enabledAbilities (group model : String) : List Ability :=
  store.abilities.rows.filter fun ability =>
    ability.group = group ∧ ability.model = model ∧ ability.enabled = true

def queryPriority (group model : String) (retry : Int) : Except Err (Option Int) :=
  let priorities := distinctDesc ((store.enabledAbilities group model).map Ability.getPriority)
  if retry = 0 then .ok priorities.head?
  else if priorities = [] then .error "数据库一致性被破坏"
  else
    match priorityAt priorities retry with
    | none => .error "index out of range"
    | some priority => .ok (some priority)

def queryAbilities (group model : String) (priority : Option Int) : List Ability :=
  ((store.enabledAbilities group model).filter fun ability =>
    some ability.getPriority = priority).insertionSort fun ability ability' =>
      ability.weight ≥ ability'.weight

def chooseAbility (random : Nat) (abilities : List Ability) : Option Ability :=
  choose (fun ability => ability.weight + 10) 0 abilities
    ((random % (abilities.map fun ability => ability.weight + 10).sum : Nat) : Int)

def getChannel (random : Nat) (group model : String) (retry : Int) :
    Except Err (Option Channel) := do
  let priority ← store.queryPriority group model retry
  let abilities := store.queryAbilities group model priority
  if abilities = [] then .ok none
  else
    match store.channel? (((chooseAbility random abilities).map Ability.channelId).getD 0) with
    | some channel => .ok (some channel)
    | none => .error "record not found"

end ChannelStore

inductive ChannelTable where
  | cached (cache : ChannelCache)
  | database (store : ChannelStore)
      (known : ∀ ability ∈ store.abilities.rows, ability.enabled = true →
        ∃ channel, store.channel? ability.channelId = some channel)

namespace ChannelTable

def lookup (random : Nat) (group model : String) (retry : Int) :
    ChannelTable → Except Err (Option Channel)
  | cached cache => cache.getRandomSatisfiedChannel random group model retry
  | database store _ => store.getChannel random group model retry

def pool (group model : String) : ChannelTable → List (Int × Int)
  | cached cache => (cache.channelIds group model).filterMap fun id =>
      (cache.channelsIDM id).map fun channel => (id, channel.getPriority)
  | database store _ => (store.enabledAbilities group model).map fun ability =>
      (ability.channelId, ability.getPriority)

def priorities (table : ChannelTable) (group model : String) : List Int :=
  distinctDesc ((table.pool group model).map Prod.snd)

end ChannelTable

section

variable {cache : ChannelCache} {store : ChannelStore} {group model : String}

variable (cache group model) in
theorem ChannelCache.known_channelIds {id : Int} (h : id ∈ cache.channelIds group model) :
    ∃ channel, cache.channelsIDM id = some channel := by
  simp only [channelIds] at h
  split at h
  · exact cache.known _ _ id h
  · exact cache.known _ _ id h

theorem ChannelCache.mapM_load_eq {ids : List Int}
    (h : ∀ id ∈ ids, ∃ channel, cache.channelsIDM id = some channel) :
    ids.mapM cache.load = .ok (ids.filterMap cache.channelsIDM) := by
  induction ids with
  | nil => rfl
  | cons id ids ih =>
    obtain ⟨channel, hf⟩ := h id mem_cons_self
    rw [mapM_cons, load, hf, ih fun id' hm => h id' (mem_cons_of_mem _ hm), filterMap_cons, hf]
    rfl

theorem ChannelCache.mapM_load {ids : List Int}
    (h : ∀ id ∈ ids, ∃ channel, cache.channelsIDM id = some channel) :
    ∃ chs, ids.mapM cache.load = .ok chs ∧
      ids.filterMap (fun id => (cache.channelsIDM id).map fun channel => (id, channel.getPriority)) =
        chs.map fun channel => (channel.id, channel.getPriority) := by
  refine ⟨_, mapM_load_eq h, ?_⟩
  rw [map_filterMap]
  apply filterMap_congr
  intro id _
  cases hf : cache.channelsIDM id with
  | none => rfl
  | some channel => rw [Option.map_some, Option.map_some, cache.named id channel hf]

theorem sum_map_scaled (factor adjustment : Nat) (chs : List Channel) :
    (chs.map fun channel => channel.getWeight * factor + adjustment).sum =
      (chs.map Channel.getWeight).sum * factor + chs.length * adjustment := by
  induction chs with
  | nil => simp
  | cons channel chs ih =>
    simp only [map_cons, sum_cons, length_cons, ih, Nat.add_mul]
    omega

theorem choose_drawn {α : Type} {weight : α → Nat} {stop : Int} (hst : -1 ≤ stop) {l : List α}
    {total : Nat} (hl : l ≠ []) (ht : (l.map weight).sum = total) (hp : 0 < total)
    (rn : Nat) : ∃ a ∈ l, choose weight stop l ((rn % total : Nat) : Int) = some a := by
  have hd : rn % total < total := Nat.mod_lt _ hp
  have hs : ((rn % total : Nat) : Int) - ((l.map weight).sum : Nat) ≤ stop := by
    rw [ht]
    omega
  obtain ⟨a, hc⟩ := choose_isSome hl hs
  exact ⟨a, choose_mem hc, hc⟩

theorem ChannelCache.smoothing_total (targets : List Channel) :
    (targets.map (smoothing targets).effective).sum = (smoothing targets).totalWeight ∧
      (targets ≠ [] → 0 < (smoothing targets).totalWeight) := by
  have hs : (targets.map (smoothing targets).effective).sum = _ := sum_map_scaled _ _ targets
  rw [hs]
  clear hs
  simp only [smoothing, Smoothing.totalWeight]
  split
  · rename_i hz
    dsimp only
    refine ⟨by rw [hz]; omega, fun h => ?_⟩
    have hl := length_pos_iff.mpr h
    omega
  · split
    · dsimp only
      exact ⟨by omega, fun _ => by omega⟩
    · dsimp only
      exact ⟨by omega, fun _ => by omega⟩

theorem ChannelCache.chooseByWeight_ok (rn : Nat) {targets : List Channel} (h : targets ≠ []) :
    ∃ channel ∈ targets, chooseByWeight rn targets = .ok (some channel) := by
  obtain ⟨ht, hp⟩ := smoothing_total targets
  obtain ⟨channel, hm, hc⟩ := choose_drawn (le_refl (-1 : Int)) h ht (hp h) rn
  refine ⟨channel, hm, ?_⟩
  simp only [chooseByWeight, hc]

theorem priorityAt_of_nonneg {priorities : List Int} {retry : Int} (h : 0 ≤ retry) :
    priorityAt priorities retry = clamped priorities retry.toNat := by
  rw [priorityAt, if_neg (by omega)]

open ChannelTable

theorem ChannelCache.getRandomSatisfiedChannel_ok {retry : Int} (hr : 0 ≤ retry) (rn : Nat)
    (hpoo : (cached cache).pool group model ≠ []) :
    ∃ channel pr, cache.getRandomSatisfiedChannel rn group model retry =
        .ok (some channel) ∧
      clamped ((cached cache).priorities group model) retry.toNat = some pr ∧
      (channel.id, pr) ∈ (cached cache).pool group model := by
  obtain ⟨channels, hlo, hc⟩ := mapM_load fun id hm => known_channelIds cache group model hm
  have hpo : (cached cache).pool group model =
      channels.map fun channel => (channel.id, channel.getPriority) := hc
  have hp : (cached cache).priorities group model =
      distinctDesc (channels.map Channel.getPriority) := by
    rw [priorities, hpo, map_map]
    rfl
  rw [hp, hpo]
  have hchs : channels ≠ [] := by
    rintro rfl
    exact hpoo hpo
  simp only [getRandomSatisfiedChannel]
  split
  · rename_i hid
    rw [hid] at hlo
    cases hlo
    exact absurd rfl hchs
  · rename_i id hid
    rw [hid] at hlo
    have hl : id ∈ cache.channelIds group model := by simp [hid]
    obtain ⟨channel, hf⟩ := known_channelIds cache group model hl
    rw [mapM_cons, load, hf] at hlo
    cases hlo
    refine ⟨channel, channel.getPriority, by rw [load, hf]; rfl, ?_, mem_singleton.mpr rfl⟩
    simp [clamped, distinctDesc]
  · rw [hlo]
    have hn : channels.map Channel.getPriority ≠ [] := by simpa using hchs
    obtain ⟨pr, hpr⟩ := clamped_isSome (distinctDesc_ne_nil hn) retry.toNat
    obtain ⟨channel, hm, he⟩ := mem_map.mp (mem_distinctDesc.mp (clamped_mem hpr))
    have ht : channels.filter (·.getPriority = pr) ≠ [] :=
      ne_nil_of_mem (mem_filter.mpr ⟨hm, by simpa using he⟩)
    obtain ⟨chosen, hch, ho⟩ := chooseByWeight_ok rn ht
    obtain ⟨hi, ha⟩ := mem_filter.mp hch
    refine ⟨chosen, pr, ?_, hpr, mem_map.mpr ⟨chosen, hi, ?_⟩⟩
    · simp only [priorityAt_of_nonneg hr, hpr, if_neg ht, bind, Except.bind, ho]
    · simpa using ha

section

variable {known : ∀ ability ∈ store.abilities.rows, ability.enabled = true →
  ∃ channel, store.channel? ability.channelId = some channel}

theorem ChannelStore.queryPriority_ok {retry : Int} (hr : 0 ≤ retry)
    (hpo : (database store known).pool group model ≠ []) :
    ∃ priority, store.queryPriority group model retry = .ok (some priority) ∧
      clamped ((database store known).priorities group model) retry.toNat = some priority := by
  have hp : (database store known).priorities group model =
      distinctDesc ((store.enabledAbilities group model).map Ability.getPriority) := by
    rw [priorities, pool, map_map]
    rfl
  have hn : (store.enabledAbilities group model).map Ability.getPriority ≠ [] := by
    simpa [pool] using hpo
  have hl := distinctDesc_ne_nil hn
  obtain ⟨priority, hpr⟩ := clamped_isSome hl retry.toNat
  rw [hp]
  refine ⟨priority, ?_, hpr⟩
  simp only [queryPriority]
  split
  · rename_i hz
    subst hz
    rw [clamped, Int.toNat_zero, Nat.zero_min] at hpr
    rw [head?_eq_getElem?, hpr]
  · rw [priorityAt_of_nonneg hr, hpr]

theorem ChannelStore.chooseAbility_ok (rn : Nat) {abilities : List Ability}
    (h : abilities ≠ []) : ∃ ability ∈ abilities, chooseAbility rn abilities = some ability := by
  obtain ⟨first, rest, rfl⟩ := exists_cons_of_ne_nil h
  exact choose_drawn (by omega) h rfl (by rw [map_cons, sum_cons]; omega) rn

theorem ChannelStore.getChannel_ok {retry : Int} (hrt : 0 ≤ retry) (rn : Nat)
    (hp : (database store known).pool group model ≠ []) :
    ∃ channel pr, store.getChannel rn group model retry = .ok (some channel) ∧
      clamped ((database store known).priorities group model) retry.toNat =
        some pr ∧
      (channel.id, pr) ∈ (database store known).pool group model := by
  obtain ⟨pr, hq, hpr⟩ := queryPriority_ok hrt hp
  -- an ability of this pr exists, the drawn number chooses one, and its channel is known
  obtain ⟨⟨id, level⟩, hi, hl⟩ := mem_map.mp (mem_distinctDesc.mp (clamped_mem hpr))
  obtain ⟨ability, he, hEq⟩ := mem_map.mp hi
  cases hEq
  have hm : ability ∈ store.queryAbilities group model (some pr) :=
    (mem_insertionSort _).mpr (mem_filter.mpr ⟨he, by simpa using hl⟩)
  have hn := ne_nil_of_mem hm
  obtain ⟨chosen, hc, hd⟩ := chooseAbility_ok rn hn
  obtain ⟨hr, ha⟩ := mem_filter.mp ((mem_insertionSort _).mp hc)
  obtain ⟨hs, hf⟩ := mem_filter.mp hr
  rw [decide_eq_true_eq] at ha hf
  obtain ⟨channel, hfn⟩ := known chosen hs hf.2.2
  refine ⟨channel, pr, ?_, hpr, mem_map.mpr ⟨chosen, hr, ?_⟩⟩
  · simp only [getChannel, hq, bind, Except.bind, if_neg hn, hd, Option.map_some, Option.getD_some,
      hfn]
  · rw [show channel.id = chosen.channelId from Table.key_of_find? hfn, Option.some.inj ha]

theorem ChannelStore.getChannel_empty (rn : Nat) (retry : Int)
    (hp : (database store known).pool group model = []) (channel : Channel) :
    store.getChannel rn group model retry ≠ .ok (some channel) := by
  have hr : store.enabledAbilities group model = [] := by
    simpa [pool] using hp
  have hq (pr : Option Int) : store.queryAbilities group model pr = [] := by
    rw [queryAbilities, hr]
    rfl
  rw [getChannel]
  cases store.queryPriority group model retry with
  | error e => exact fun h => by cases h
  | ok pr =>
    simp only [bind, Except.bind, hq, if_true]
    exact fun h => by cases h

end

theorem ChannelTable.lookup_ok (table : ChannelTable) {retry : Int} (hr : 0 ≤ retry)
    (rn : Nat) (hp : table.pool group model ≠ []) :
    ∃ channel pr, table.lookup rn group model retry = .ok (some channel) ∧
      clamped (table.priorities group model) retry.toNat = some pr ∧
      (channel.id, pr) ∈ table.pool group model := by
  cases table with
  | cached cache => exact ChannelCache.getRandomSatisfiedChannel_ok hr rn hp
  | database store known => exact ChannelStore.getChannel_ok hr rn hp

theorem ChannelTable.pool_functional {table : ChannelTable} {id p p' : Int}
    (h : (id, p) ∈ table.pool group model) (h' : (id, p') ∈ table.pool group model) : p = p' := by
  cases table with
  | cached cache =>
    obtain ⟨_, _, hl⟩ := mem_filterMap.mp h
    obtain ⟨_, _, hr⟩ := mem_filterMap.mp h'
    obtain ⟨channel, hChannel, hEq⟩ := Option.map_eq_some_iff.mp hl
    obtain ⟨channel', hChannel', hEq'⟩ := Option.map_eq_some_iff.mp hr
    cases hEq
    cases hEq'
    rw [hChannel] at hChannel'
    cases hChannel'
    rfl
  | database store known =>
    obtain ⟨ability, hRow, hEq⟩ := mem_map.mp h
    obtain ⟨ability', hRow', hEq'⟩ := mem_map.mp h'
    cases hEq
    obtain ⟨hi, rfl⟩ := Prod.mk.inj hEq'
    obtain ⟨hStored, hFlags⟩ := mem_filter.mp hRow
    obtain ⟨hStored', hFlags'⟩ := mem_filter.mp hRow'
    rw [decide_eq_true_eq] at hFlags hFlags'
    have hk : ability'.key = ability.key := by
      rw [Ability.key, Ability.key, hFlags.1, hFlags.2.1, hFlags'.1, hFlags'.2.1, hi]
    rw [store.abilities.eq_of_key_eq hStored' hStored hk]

end

end DeepRouter.Channels
