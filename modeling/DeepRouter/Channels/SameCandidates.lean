import DeepRouter.Channels.AbilityProjection
import DeepRouter.Channels.DrawCounts
import DeepRouter.Channels.StatusUpdate

/-! # The candidates of the cache and of the abilities -/

namespace DeepRouter.Channels

open KeyedTable WeightedChoice List ChannelStore ChannelCache

abbrev Lookup := Nat → Except Err (Option Channel)

namespace Lookup

def CanReturn (lookup : Lookup) (id : Int) : Prop :=
  ∃ random channel, lookup random = .ok (some channel) ∧ channel.id = id

def ReturnsNothing (lookup : Lookup) (random : Nat) : Prop :=
  ∀ channel, lookup random ≠ .ok (some channel)

structure SameCandidates (lookup lookup' : Lookup) : Prop where
  channels : ∀ id, lookup.CanReturn id ↔ lookup'.CanReturn id
  nothing : ∀ random random', lookup.ReturnsNothing random ↔ lookup'.ReturnsNothing random'

end Lookup

namespace ChannelStore

variable (store : ChannelStore) (group model : String)

def Written : Prop :=
  ∀ ability, ability ∈ store.abilities.rows ↔
    ∃ channel ∈ store.channels.rows, ability ∈ channel.listedAbilities

def serving : List Channel :=
  store.channels.rows.filter fun channel =>
    channel.status = statusEnabled ∧ channel.Lists group model

def servingOrMatching : List Channel :=
  if store.serving group model = [] then store.serving group (formatMatchingModelName model)
  else store.serving group model

end ChannelStore

variable {channel : Channel}

section

variable {store : ChannelStore} {group model : String} {sorter : PrioritySort}
  {old : Int → Option Channel} {cache : ChannelCache} {retry : Int}

theorem eq_nil_iff_of_mem {α β : Type} {l : List α} {l' : List β} {f : β → α}
    (h : ∀ a, a ∈ l ↔ ∃ b ∈ l', a = f b) : l = [] ↔ l' = [] := by
  simp only [eq_nil_iff_forall_not_mem, h, not_exists, not_and]
  exact ⟨fun h b hb => h _ b hb rfl, fun h _ b hb _ => h b hb⟩

theorem mem_serving :
    channel ∈ store.serving group model ↔ store.channels.find? channel.id = some channel ∧
      channel.status = statusEnabled ∧ channel.Lists group model := by
  rw [serving, mem_filter, decide_eq_true_eq, Table.find?_eq_some_iff]
  simp

theorem Channel.continued_eq (old : Int → Option Channel) (channel : Channel) :
    ∃ channelInfo, channel.continued old = { channel with channelInfo } := by
  rw [continued]
  split
  · split
    · split
      · exact ⟨_, rfl⟩
      · exact ⟨_, rfl⟩
    · exact ⟨_, rfl⟩
  · exact ⟨_, rfl⟩

theorem Channel.continued_getPriority (old : Int → Option Channel) (channel : Channel) :
    (channel.continued old).getPriority = channel.getPriority := by
  obtain ⟨_, he⟩ := channel.continued_eq old
  rw [he]
  rfl

theorem Channel.continued_getWeight (old : Int → Option Channel) (channel : Channel) :
    (channel.continued old).getWeight = channel.getWeight := by
  obtain ⟨_, he⟩ := channel.continued_eq old
  rw [he]
  rfl

variable (hCache : rebuildChannelCache sorter old store.channels store.abilities = .ok cache)

include hCache

theorem mem_lists {id : Int} : id ∈ cache.group2model2channels group model ↔
    ∃ channel ∈ store.serving group model, channel.id = id := by
  rw [mem_rebuildChannelCache hCache]
  constructor
  · rintro ⟨channel, hf, hl⟩
    obtain rfl : channel.id = id := Table.key_of_find? hf
    exact ⟨channel, mem_serving.mpr ⟨hf, hl⟩, rfl⟩
  · rintro ⟨channel, hm, rfl⟩
    exact ⟨channel, mem_serving.mp hm⟩

theorem mem_channelIds {id : Int} : id ∈ cache.channelIds group model ↔
    ∃ channel ∈ store.servingOrMatching group model, channel.id = id := by
  have hn : cache.group2model2channels group model = [] ↔ store.serving group model = [] :=
    eq_nil_iff_of_mem (f := Channel.id) fun id => by simp only [mem_lists hCache, eq_comm]
  rw [channelIds, servingOrMatching]
  split
  · rename_i he
    rw [if_pos (hn.mp he), mem_lists hCache]
  · rename_i hs
    rw [if_neg (mt hn.mpr hs), mem_lists hCache]

theorem mem_candidates : channel ∈ cache.candidates group model ↔
    ∃ row ∈ store.servingOrMatching group model, channel = row.continued old := by
  have hr : ∀ row ∈ store.servingOrMatching group model,
      cache.channelsIDM row.id = some (row.continued old) := by
    intro row hm
    have hf : store.channels.find? row.id = some row := by
      rw [servingOrMatching] at hm
      split at hm
      · exact (mem_serving.mp hm).1
      · exact (mem_serving.mp hm).1
    rw [(rebuildChannelCache_ok hCache).2.2, hf, Option.map_some]
  rw [candidates, mem_filterMap]
  constructor
  · rintro ⟨id, hm, hf⟩
    obtain ⟨row, hs, rfl⟩ := (mem_channelIds hCache).mp hm
    rw [hr row hs] at hf
    exact ⟨row, hs, (Option.some.inj hf).symm⟩
  · rintro ⟨row, hs, rfl⟩
    exact ⟨row.id, (mem_channelIds hCache).mpr ⟨row, hs, rfl⟩, hr row hs⟩

theorem mem_tier : channel ∈ cache.tier group model retry ↔
    ∃ row ∈ level Channel.getPriority (store.servingOrMatching group model) retry.toNat,
      channel = row.continued old :=
  mem_level_image (fun row _ => row.continued_getPriority old) fun _ => mem_candidates hCache

omit hCache in
theorem effectiveWeight_ne_zero {channels : List Channel} :
    effectiveWeight channels channel ≠ 0 ↔
      (channel.getWeight = 0 → ∀ other ∈ channels, other.getWeight = 0) := by
  rw [effectiveWeight]
  by_cases ha : ∀ other ∈ channels, other.getWeight = 0
  · rw [if_pos ha]
    exact ⟨fun _ _ => ha, fun _ => by decide⟩
  rw [if_neg ha, Nat.mul_ne_zero_iff]
  constructor
  · exact fun h hz => absurd hz h.1
  · refine fun h => ⟨fun hz => ha (h hz), ?_⟩
    split <;> decide

omit hCache in
theorem exists_chooseByWeight {channels : List Channel} :
    (∃ rn, chooseByWeight rn channels = .ok (some channel)) ↔
      channel ∈ channels ∧ effectiveWeight channels channel ≠ 0 := by
  have he : channel ∈ channels ∧ effectiveWeight channels channel ≠ 0 ↔
      channel ∈ channels ∧ (smoothing channels).effective channel ≠ 0 :=
    and_congr_right fun hm => by rw [effective_eq hm]
  obtain ⟨ht, hp⟩ := smoothing_total channels
  rw [he, ← exists_choose_iff, ht]
  have hc : ∀ rn, chooseByWeight rn channels = .ok (some channel) ↔
      choose (smoothing channels).effective (-1) channels
        ((rn % (smoothing channels).totalWeight : Nat) : Int) = some channel := by
    intro rn
    simp only [chooseByWeight]
    split
    · rename_i chosen hch
      rw [hch]
      simp
    · rename_i hch
      rw [hch]
      simp
  simp only [hc]
  constructor
  · rintro ⟨rn, hch⟩
    have hs : channels ≠ [] := ne_nil_of_mem (choose_mem hch)
    exact ⟨_, Nat.mod_lt _ (hp hs), hch⟩
  · rintro ⟨drawn, hd, hch⟩
    exact ⟨drawn, by rw [Nat.mod_eq_of_lt hd, hch]⟩

theorem candidates_eq_nil : cache.candidates group model = [] ↔
    store.servingOrMatching group model = [] :=
  eq_nil_iff_of_mem fun _ => mem_candidates hCache

theorem cached_nothing (hrt : 0 ≤ retry) (rn : Nat) :
    Lookup.ReturnsNothing (cache.getRandomSatisfiedChannel · group model retry) rn ↔
      store.servingOrMatching group model = [] := by
  rw [← candidates_eq_nil hCache]
  by_cases hn : cache.candidates group model = []
  · refine ⟨fun _ => hn, fun _ channel hr => ?_⟩
    have hl := mem_of_getRandomSatisfiedChannel hr
    obtain ⟨loaded, hlo⟩ := known_channelIds cache group model hl
    have hm : loaded ∈ cache.candidates group model := mem_filterMap.mpr ⟨_, hl, hlo⟩
    rw [hn] at hm
    cases hm
  · refine ⟨fun h => ?_, fun h => absurd h hn⟩
    have ht : cache.tier group model retry ≠ [] := level_ne_nil hn _
    obtain ⟨channel, _, ho⟩ := chooseByWeight_ok rn ht
    rw [← getRandomSatisfiedChannel_eq hrt hn] at ho
    exact absurd ho (h channel)

theorem cached_canReturn (hrt : 0 ≤ retry) {id : Int} :
    Lookup.CanReturn (cache.getRandomSatisfiedChannel · group model retry) id ↔
      ∃ channel ∈ level Channel.getPriority (store.servingOrMatching group model) retry.toNat,
        channel.id = id ∧ (channel.getWeight = 0 →
          ∀ other ∈ level Channel.getPriority (store.servingOrMatching group model) retry.toNat,
            other.getWeight = 0) := by
  have hr : ∀ channel, (∃ rn, cache.getRandomSatisfiedChannel rn group model retry =
      .ok (some channel)) ↔ channel ∈ cache.tier group model retry ∧
        effectiveWeight (cache.tier group model retry) channel ≠ 0 := by
    intro channel
    by_cases hn : cache.candidates group model = []
    · have ht : cache.tier group model retry = [] := by rw [tier, hn]; rfl
      rw [ht]
      refine ⟨?_, fun h => by cases h.1⟩
      rintro ⟨rn, ho⟩
      exact absurd ho ((cached_nothing hCache hrt rn).mpr
        ((candidates_eq_nil hCache).mp hn) channel)
    · simp only [getRandomSatisfiedChannel_eq hrt hn]
      exact exists_chooseByWeight
  constructor
  · rintro ⟨rn, channel, ho, rfl⟩
    obtain ⟨ht, hw⟩ := (hr channel).mp ⟨rn, ho⟩
    obtain ⟨row, hRow, rfl⟩ := (mem_tier hCache).mp ht
    refine ⟨row, hRow, (row.continued_id old).symm, fun hz other hot => ?_⟩
    rw [effectiveWeight_ne_zero, row.continued_getWeight] at hw
    have ha := hw hz (other.continued old) ((mem_tier hCache).mpr ⟨other, hot, rfl⟩)
    rwa [other.continued_getWeight] at ha
  · rintro ⟨row, hRow, rfl, hw⟩
    obtain ⟨rn, ho⟩ := (hr (row.continued old)).mpr ⟨(mem_tier hCache).mpr ⟨row, hRow, rfl⟩, by
        rw [effectiveWeight_ne_zero, row.continued_getWeight]
        intro hz other hot
        obtain ⟨row', hRow', rfl⟩ := (mem_tier hCache).mp hot
        rw [row'.continued_getWeight]
        exact hw hz row' hRow'⟩
    exact ⟨rn, row.continued old, ho, row.continued_id old⟩

end

section

variable {store : ChannelStore} {group model : String} {retry : Int}

theorem of_mem_listedAbilities {ability : Ability} (h : ability ∈ channel.listedAbilities) :
    channel.Lists ability.group ability.model ∧
      ability = channel.ability ability.group ability.model := by
  have hc : ∀ pairs abilitySet, ability ∈ channel.collectAbilities pairs abilitySet →
      ∃ pair ∈ pairs, ability = channel.ability pair.2 pair.1 := by
    intro pairs
    induction pairs with
    | nil => exact fun _ hme => by cases hme
    | cons pair pairs ih =>
      intro abilitySet hme
      rw [Channel.collectAbilities] at hme
      split at hme
      · obtain ⟨found, hf, he⟩ := ih _ hme
        exact ⟨found, mem_cons_of_mem _ hf, he⟩
      obtain rfl | hme := mem_cons.mp hme
      · exact ⟨_, mem_cons_self, rfl⟩
      · obtain ⟨found, hf, he⟩ := ih _ hme
        exact ⟨found, mem_cons_of_mem _ hf, he⟩
  obtain ⟨⟨model, group⟩, hp, rfl⟩ := hc _ _ h
  simp only [mem_flatMap, mem_map, Prod.mk.injEq] at hp
  obtain ⟨_, hm, _, hg, rfl, rfl⟩ := hp
  exact ⟨⟨hg, hm⟩, rfl⟩

variable (hWritten : store.Written)

include hWritten

theorem known_of_written : ∀ ability ∈ store.abilities.rows, ability.enabled = true →
    ∃ channel, store.channel? ability.channelId = some channel := by
  intro ability hm _
  obtain ⟨channel, hr, hl⟩ := (hWritten ability).mp hm
  rw [(of_mem_listedAbilities hl).2]
  exact ⟨channel, Table.find?_of_mem hr⟩

variable (hKept : ∀ channel ∈ store.serving group model,
  channel.ability group model ∈ channel.listedAbilities)

include hKept

theorem mem_enabledAbilities {ability : Ability} : ability ∈ store.enabledAbilities group model ↔
    ∃ channel ∈ store.serving group model, ability = channel.ability group model := by
  rw [enabledAbilities, mem_filter, decide_eq_true_eq, hWritten]
  constructor
  · rintro ⟨⟨channel, hr, hls⟩, rfl, rfl, he⟩
    obtain ⟨hl, hEq⟩ := of_mem_listedAbilities hls
    rw [hEq] at he
    exact ⟨channel, mem_serving.mpr ⟨Table.find?_of_mem hr, of_decide_eq_true he, hl⟩, hEq⟩
  · rintro ⟨channel, hs, rfl⟩
    obtain ⟨hf, hSt, _⟩ := mem_serving.mp hs
    exact ⟨⟨channel, Table.mem_of_find? hf, hKept channel hs⟩, rfl, rfl, decide_eq_true hSt⟩

theorem enabledAbilities_eq_nil :
    store.enabledAbilities group model = [] ↔ store.serving group model = [] :=
  eq_nil_iff_of_mem fun _ => mem_enabledAbilities hWritten hKept

theorem getChannel_level (hr : 0 ≤ retry) (hs : store.serving group model ≠ []) :
    ∃ abilities, (∀ ability, ability ∈ abilities ↔
        ∃ channel ∈ level Channel.getPriority (store.serving group model) retry.toNat,
          ability = channel.ability group model) ∧ abilities ≠ [] ∧
      ∀ rn, ∃ channel ∈ level Channel.getPriority (store.serving group model) retry.toNat,
        chooseAbility rn abilities = some (channel.ability group model) ∧
          store.getChannel rn group model retry = .ok (some channel) := by
  have he := mt (enabledAbilities_eq_nil hWritten hKept).mp hs
  have hpo : (ChannelTable.database store (known_of_written hWritten)).pool group model ≠ [] := by
    simpa [ChannelTable.pool] using he
  obtain ⟨priority, hq, hp⟩ := queryPriority_ok hr hpo
  have hc : clamped (distinctDesc ((store.enabledAbilities group model).map
      Ability.getPriority)) retry.toNat = some priority := by
    rw [ChannelTable.priorities, ChannelTable.pool, map_map] at hp
    exact hp
  have hm : ∀ ability, ability ∈ store.queryAbilities group model (some priority) ↔
      ∃ channel ∈ level Channel.getPriority (store.serving group model) retry.toNat,
        ability = channel.ability group model := by
    intro ability
    have hle : ability ∈ level Ability.getPriority (store.enabledAbilities group model)
        retry.toNat ↔ ∃ channel ∈ level Channel.getPriority (store.serving group model) retry.toNat,
          ability = channel.ability group model :=
      mem_level_image (fun _ _ => rfl) fun _ => mem_enabledAbilities hWritten hKept
    rw [← hle, level_eq hc, queryAbilities, mem_insertionSort, mem_filter, mem_filter]
    simp
  have hn : store.queryAbilities group model (some priority) ≠ [] := by
    have hl : level Channel.getPriority (store.serving group model) retry.toNat ≠ [] :=
      level_ne_nil hs _
    obtain ⟨channel, hle⟩ := exists_mem_of_ne_nil _ hl
    exact ne_nil_of_mem ((hm _).mpr ⟨channel, hle, rfl⟩)
  refine ⟨_, hm, hn, fun rn => ?_⟩
  obtain ⟨ability, hch, hd⟩ := chooseAbility_ok rn hn
  obtain ⟨channel, hle, rfl⟩ := (hm ability).mp hch
  have hf : store.channel? channel.id = some channel :=
    (mem_serving.mp (mem_filter.mp hle).1).1
  refine ⟨channel, hle, hd, ?_⟩
  simp only [getChannel, hq, bind, Except.bind, if_neg hn, hd, Option.map_some, Option.getD_some,
    Channel.ability, hf]

theorem stored_nothing (hr : 0 ≤ retry) (rn : Nat) :
    Lookup.ReturnsNothing (store.getChannel · group model retry) rn ↔
      store.serving group model = [] := by
  by_cases hn : store.serving group model = []
  · refine ⟨fun _ => hn, fun _ channel => ?_⟩
    have hp : (ChannelTable.database store (known_of_written hWritten)).pool group model = [] := by
      simpa [ChannelTable.pool] using (enabledAbilities_eq_nil hWritten hKept).mpr hn
    exact getChannel_empty rn retry hp channel
  · refine ⟨fun h => ?_, fun h => absurd h hn⟩
    obtain ⟨_, _, _, ha⟩ := getChannel_level hWritten hKept hr hn
    obtain ⟨channel, _, _, ho⟩ := ha rn
    exact absurd ho (h channel)

theorem stored_canReturn (hr : 0 ≤ retry) {id : Int} :
    Lookup.CanReturn (store.getChannel · group model retry) id ↔
      ∃ channel ∈ level Channel.getPriority (store.serving group model) retry.toNat,
        channel.id = id := by
  by_cases hn : store.serving group model = []
  · constructor
    · rintro ⟨random, channel, ho, _⟩
      exact absurd ho ((stored_nothing hWritten hKept hr random).mpr hn channel)
    · rintro ⟨channel, hLevel, _⟩
      rw [hn] at hLevel
      cases hLevel
  · obtain ⟨abilities, hm, hso, ha⟩ := getChannel_level hWritten hKept hr hn
    constructor
    · rintro ⟨random, channel, ho, rfl⟩
      obtain ⟨returned, hLevel, _, hre⟩ := ha random
      obtain rfl : returned = channel := by
        have hs := hre.symm.trans ho
        cases hs
        rfl
      exact ⟨returned, hLevel, rfl⟩
    · rintro ⟨channel, hLevel, rfl⟩
      have hw : ∀ ability ∈ abilities, 2 ≤ ability.weight + 10 := fun _ _ => by omega
      obtain ⟨drawn, hDrawn, hc⟩ := (exists_choose_zero_iff hw).mpr
        ((hm _).mpr ⟨channel, hLevel, rfl⟩)
      obtain ⟨returned, hLevel', hDrawn', hre⟩ := ha drawn
      rw [chooseAbility, Nat.mod_eq_of_lt hDrawn, hc] at hDrawn'
      have hi : channel.id = returned.id := congrArg Ability.channelId (Option.some.inj hDrawn')
      exact ⟨drawn, returned, hre, hi.symm⟩

end

/-- A model that no channel lists is not matched by another name, and all channels of the priority
have a weight or none has. -/
structure Alike (store : ChannelStore) (group model : String) (retry : Int) : Prop where
  matched : store.serving group model = [] →
    store.serving group (formatMatchingModelName model) = []
  weighed : ∀ channel ∈ level Channel.getPriority (store.serving group model) retry.toNat,
    channel.getWeight = 0 →
      ∀ other ∈ level Channel.getPriority (store.serving group model) retry.toNat,
        other.getWeight = 0

theorem servingOrMatching_eq {store : ChannelStore} {group model : String}
    (h : store.serving group model = [] →
      store.serving group (formatMatchingModelName model) = []) :
    store.servingOrMatching group model = store.serving group model := by
  rw [servingOrMatching]
  split
  · rename_i hn
    rw [h hn, hn]
  · rfl

/-- The two lookups have the same candidates exactly when they are alike. -/
theorem same_candidates {store : ChannelStore} {group model : String} {sorter : PrioritySort}
    {old : Int → Option Channel} {cache : ChannelCache} {retry : Int} (hWritten : store.Written)
    (hKept : ∀ channel ∈ store.serving group model,
      channel.ability group model ∈ channel.listedAbilities)
    (hCache : rebuildChannelCache sorter old store.channels store.abilities = .ok cache)
    (hRetry : 0 ≤ retry) :
    Lookup.SameCandidates (cache.getRandomSatisfiedChannel · group model retry)
      (store.getChannel · group model retry) ↔ Alike store group model retry := by
  constructor
  · intro h
    have hm : store.serving group model = [] →
        store.serving group (formatMatchingModelName model) = [] := by
      intro hni
      have hn := h.nothing 0 0
      rw [cached_nothing hCache hRetry, stored_nothing hWritten hKept hRetry] at hn
      have ho := hn.mpr hni
      rwa [servingOrMatching, if_pos hni] at ho
    refine ⟨hm, fun channel hl hz => ?_⟩
    have hs : Lookup.CanReturn (store.getChannel · group model retry) channel.id :=
      (stored_canReturn hWritten hKept hRetry).mpr ⟨channel, hl, rfl⟩
    obtain ⟨row, hr, hi, hw⟩ := (cached_canReturn hCache hRetry).mp ((h.channels channel.id).mpr hs)
    rw [servingOrMatching_eq hm] at hr hw
    -- the channel of this id is the one without weight
    have hFound := (mem_serving.mp (mem_filter.mp hr).1).1
    have hFound' := (mem_serving.mp (mem_filter.mp hl).1).1
    rw [hi, hFound'] at hFound
    cases hFound
    exact hw hz
  · rintro ⟨hm, hwe⟩
    constructor
    · intro id
      rw [cached_canReturn hCache hRetry, stored_canReturn hWritten hKept hRetry,
        servingOrMatching_eq hm]
      constructor
      · rintro ⟨channel, hl, hi, _⟩
        exact ⟨channel, hl, hi⟩
      · rintro ⟨channel, hl, hi⟩
        exact ⟨channel, hl, hi, hwe channel hl⟩
    · intro random random'
      rw [cached_nothing hCache hRetry, stored_nothing hWritten hKept hRetry,
        servingOrMatching_eq hm]

theorem written_of_rows {store : ChannelStore}
    (h : store.abilities.rows = store.channels.rows.flatMap Channel.listedAbilities) :
    store.Written := by
  intro ability
  rw [h, mem_flatMap]

def weightedStore : ChannelStore :=
  ChannelStore.fixAbility ⟨⟨[
    { id := 1, status := 1, weight := some 3, models := "gpt-4o", group := "default" },
    { id := 2, status := 1, weight := some 1, models := "gpt-4o", group := "default" },
    { id := 3, status := 1, models := "gpt-4o", group := "default", priority := some (-1) }],
    by decide⟩, .empty _⟩

theorem same_candidates_weighted :
    ∃ cache, rebuildChannelCache stableSort (fun _ => none) weightedStore.channels
        weightedStore.abilities = .ok cache ∧
      Lookup.SameCandidates (cache.getRandomSatisfiedChannel · "default" "gpt-4o" 1)
        (weightedStore.getChannel · "default" "gpt-4o" 1) := by
  obtain ⟨cache, hCache⟩ : ∃ cache, rebuildChannelCache stableSort (fun _ => none)
      weightedStore.channels weightedStore.abilities = .ok cache :=
    exists_rebuildChannelCache (by decide +kernel)
  refine ⟨cache, hCache, (same_candidates (written_of_rows (by decide +kernel)) (by decide +kernel)
    hCache (by decide)).mpr ⟨by decide +kernel, by decide +kernel⟩⟩

def gizmoStore : ChannelStore :=
  ChannelStore.fixAbility ⟨⟨[
    { id := 1, status := 1, models := "gpt-4-gizmo-*", group := "default" }], by decide⟩, .empty _⟩

theorem matching_name_only_cached :
    ∃ cache, rebuildChannelCache stableSort (fun _ => none) gizmoStore.channels
        gizmoStore.abilities = .ok cache ∧ gizmoStore.Written ∧
      ¬Lookup.SameCandidates (cache.getRandomSatisfiedChannel · "default" "gpt-4-gizmo-abc" 0)
        (gizmoStore.getChannel · "default" "gpt-4-gizmo-abc" 0) := by
  obtain ⟨cache, hCache⟩ : ∃ cache, rebuildChannelCache stableSort (fun _ => none)
      gizmoStore.channels gizmoStore.abilities = .ok cache :=
    exists_rebuildChannelCache (by decide +kernel)
  have hWritten : gizmoStore.Written := written_of_rows (by decide +kernel)
  refine ⟨cache, hCache, hWritten, fun h => ?_⟩
  have hn := h.nothing 0 0
  rw [cached_nothing hCache (by decide), stored_nothing hWritten (by decide +kernel) (by decide)]
    at hn
  exact absurd (hn.mpr (by decide +kernel)) (by decide +kernel)

end DeepRouter.Channels
