import DeepRouter.Channels.Cache

/-! # A channel out of service -/

namespace DeepRouter.Channels

open KeyedTable GoStrings List

section

variable {group model : String} {channels : Table Channel.id}

theorem Channel.count_listed {ch : Channel} (h : ch.status = statusEnabled) :
    (ch.listed group model).count ch.id = ch.groupList.count group * ch.modelList.count model := by
  have hm : ((ch.modelList.filter (· = model)).map fun _ => ch.id).count ch.id =
      ch.modelList.count model := by
    rw [map_const', count_replicate_self, ← countP_eq_length_filter, List.count]
    rfl
  rw [listed, if_pos h, count_flatMap]
  simp only [Function.comp_def, hm]
  rw [map_const', sum_replicate_nat, ← countP_eq_length_filter, List.count]
  rfl

theorem count_flatMap_listed {ch : Channel} (hf : channels.find? ch.id = some ch) :
    (channels.rows.flatMap (Channel.listed group model)).count ch.id =
      (ch.listed group model).count ch.id := by
  obtain ⟨before, after, hr⟩ := append_of_mem (Table.mem_of_find? hf)
  have hNd := channels.nodup
  rw [hr, map_append, map_cons, nodup_middle, nodup_cons, mem_append] at hNd
  have ho : ∀ rows : List Channel, ch.id ∉ rows.map Channel.id →
      (rows.flatMap (Channel.listed group model)).count ch.id = 0 := by
    intro rows hn
    rw [count_eq_zero, mem_flatMap]
    rintro ⟨row, hro, hl⟩
    rw [(Channel.mem_listed.mp hl).1] at hn
    exact hn (mem_map_of_mem hro)
  rw [hr, flatMap_append, flatMap_cons, count_append, count_append,
    ho before fun h => hNd.1 (.inl h), ho after fun h => hNd.1 (.inr h),
    Nat.zero_add, Nat.add_zero]

end

theorem mem_erase_self_iff {ids : List Int} {id : Int} : id ∈ ids.erase id ↔ 2 ≤ ids.count id := by
  rw [← count_pos_iff, count_erase_self]
  omega

theorem filter_erase_self (ids : List Int) (id : Int) :
    (ids.erase id).filter (· ≠ id) = ids.filter (· ≠ id) := by
  induction ids with
  | nil => rfl
  | cons head ids ih =>
    by_cases hh : head = id
    · subst hh
      simp
    · rw [erase_cons_tail (by simpa using hh), filter_cons, filter_cons, ih]

namespace ChannelCache

variable {cache : ChannelCache} {group model : String} {retry : Int}

theorem chooseByWeight_mem {rn : Nat} {targets : List Channel} {ch : Channel}
    (h : chooseByWeight rn targets = .ok (some ch)) : ch ∈ targets := by
  simp only [chooseByWeight] at h
  split at h
  · rename_i hc
    cases h
    exact WeightedChoice.choose_mem hc
  · cases h

theorem mem_of_getRandomSatisfiedChannel {rn : Nat} {ch : Channel}
    (h : cache.getRandomSatisfiedChannel rn group model retry = .ok (some ch)) :
    ch.id ∈ cache.channelIds group model := by
  suffices hl : ch ∈ (cache.channelIds group model).filterMap cache.channelsIDM by
    obtain ⟨id, hm, hf⟩ := mem_filterMap.mp hl
    rw [cache.named id ch hf]
    exact hm
  have ha := mapM_load_eq fun id hm => known_channelIds cache group model hm
  rw [getRandomSatisfiedChannel] at h
  split at h
  · cases h
  · rename_i id hi
    rw [hi, load] at *
    split at h
    · rename_i hf
      cases h
      simp [hf]
    · cases h
  · rw [ha] at h
    simp only [bind, Except.bind] at h
    split at h
    · cases h
    · split at h
      · cases h
      · exact (mem_filter.mp (chooseByWeight_mem h)).1

structure OutOfService (cache updated : ChannelCache) (id : Int) : Prop where
  unlisted : ∀ group model, id ∉ updated.group2model2channels group model
  others : ∀ group model, (updated.group2model2channels group model).filter (· ≠ id) =
    (cache.group2model2channels group model).filter (· ≠ id)
  unselected : ∀ random group model retry channel,
    updated.getRandomSatisfiedChannel random group model retry = .ok (some channel) → channel.id ≠ id

theorem outOfService_iff {id st : Int} (hs : st ≠ statusEnabled) :
    OutOfService cache (cache.cacheUpdateChannelStatus id st) id ↔
      ∀ group model, (cache.group2model2channels group model).count id ≤ 1 := by
  have hl : ∀ group model, (cache.cacheUpdateChannelStatus id st).group2model2channels
      group model = (cache.group2model2channels group model).erase id :=
    fun _ _ => if_pos hs
  constructor
  · intro h group model
    have hg := h.unlisted group model
    rw [hl, mem_erase_self_iff] at hg
    omega
  · intro h
    have hg : ∀ group model,
        id ∉ (cache.cacheUpdateChannelStatus id st).group2model2channels group model := by
      intro group model
      rw [hl, mem_erase_self_iff]
      have hc := h group model
      omega
    refine ⟨hg, fun group model => by rw [hl, filter_erase_self], ?_⟩
    rintro random group model retry channel hr rfl
    have hls := mem_of_getRandomSatisfiedChannel hr
    rw [channelIds] at hls
    split at hls
    · exact hg _ _ hls
    · exact hg _ _ hls

end ChannelCache

theorem Channel.count_listed_le_one {ch : Channel} (hs : ch.status = statusEnabled) :
    (∀ group model, (ch.listed group model).count ch.id ≤ 1) ↔
      ch.groupList.Nodup ∧ ch.modelList.Nodup := by
  simp only [Channel.count_listed hs, nodup_iff_count_le_one]
  constructor
  · intro h
    constructor
    · intro group
      obtain ⟨model, hmo⟩ := exists_mem_of_ne_nil ch.modelList (split_ne_nil _ _)
      have hp := count_pos_iff.mpr hmo
      exact (Nat.le_mul_of_pos_right _ hp).trans (h group model)
    · intro model
      obtain ⟨group, hgr⟩ := exists_mem_of_ne_nil ch.groupList (split_ne_nil _ _)
      have hp := count_pos_iff.mpr hgr
      exact (Nat.le_mul_of_pos_left _ hp).trans (h group model)
  · rintro ⟨hg, hm⟩ group model
    exact Nat.mul_le_mul (hg group) (hm model)

/-- The channel has disappeared from routing exactly when it was not enabled or its lists repeat no
entry. -/
theorem disabled_channel_disappears {sorter : PrioritySort} {old : Int → Option Channel}
    {channels : Table Channel.id} {abilities : Table Ability.key} {cache : ChannelCache}
    (hCache : rebuildChannelCache sorter old channels abilities = .ok cache) (id : Int) {status : Int}
    (hStatus : status ≠ statusEnabled) :
    ChannelCache.OutOfService cache (cache.cacheUpdateChannelStatus id status) id ↔
      ∀ channel, channels.find? id = some channel → channel.status = statusEnabled →
        channel.groupList.Nodup ∧ channel.modelList.Nodup := by
  have hc : ∀ group model, (cache.group2model2channels group model).count id =
      (channels.rows.flatMap (Channel.listed group model)).count id := by
    intro group model
    rw [(rebuildChannelCache_ok hCache).2.1]
    exact (sorter.perm _ _).count_eq id
  rw [ChannelCache.outOfService_iff hStatus]
  simp only [hc]
  constructor
  · intro h channel hf he
    obtain rfl : channel.id = id := Table.key_of_find? hf
    simp only [count_flatMap_listed hf] at h
    exact (Channel.count_listed_le_one he).mp h
  · intro h group model
    by_cases hm : id ∈ channels.rows.flatMap (Channel.listed group model)
    · obtain ⟨channel, hf, he, _⟩ := mem_flatMap_listed.mp hm
      obtain rfl : channel.id = id := Table.key_of_find? hf
      rw [count_flatMap_listed hf]
      exact (Channel.count_listed_le_one he).mpr (h channel hf he) group model
    · rw [count_eq_zero.mpr hm]
      omega

def plainChannels : Table Channel.id :=
  ⟨[{ id := 1, status := 1, models := "gpt-4o,gpt-4o-mini", group := "default,vip" },
    { id := 2, status := 1, models := "gpt-4o", group := "default" }], by decide⟩

def plainAbilities : Table Ability.key :=
  ⟨[⟨"default", "gpt-4o", 1, true, some 0, 0, none⟩, ⟨"vip", "gpt-4o", 1, true, some 0, 0, none⟩,
    ⟨"default", "gpt-4o-mini", 1, true, some 0, 0, none⟩,
    ⟨"vip", "gpt-4o-mini", 1, true, some 0, 0, none⟩,
    ⟨"default", "gpt-4o", 2, true, some 0, 0, none⟩], by decide⟩

theorem disabled_channel_disappears_plain :
    ∃ cache, rebuildChannelCache stableSort (fun _ => none) plainChannels plainAbilities = .ok cache ∧
      ChannelCache.OutOfService cache (cache.cacheUpdateChannelStatus 1 statusAutoDisabled) 1 := by
  obtain ⟨cache, hc⟩ : ∃ cache, rebuildChannelCache stableSort (fun _ => none) plainChannels
      plainAbilities = .ok cache := exists_rebuildChannelCache (by decide +kernel)
  refine ⟨cache, hc, (disabled_channel_disappears hc 1 (by decide)).mpr ?_⟩
  rintro channel ⟨⟩ _
  decide +kernel

def doubledChannels : Table Channel.id :=
  ⟨[{ id := 1, status := 1, models := "gpt-4o,gpt-4o", group := "default" }], by decide⟩

def doubledAbilities : Table Ability.key :=
  ⟨[⟨"default", "gpt-4o", 1, true, some 0, 0, none⟩], by decide⟩

theorem disabled_channel_still_listed :
    ∃ cache, rebuildChannelCache stableSort (fun _ => none) doubledChannels doubledAbilities =
        .ok cache ∧
      ¬ChannelCache.OutOfService cache (cache.cacheUpdateChannelStatus 1 statusAutoDisabled) 1 := by
  obtain ⟨cache, hc⟩ : ∃ cache, rebuildChannelCache stableSort (fun _ => none) doubledChannels
      doubledAbilities = .ok cache := exists_rebuildChannelCache (by decide +kernel)
  refine ⟨cache, hc, fun h => ?_⟩
  have hl : cache.group2model2channels "default" "gpt-4o" = [1, 1] := by
    rw [(rebuildChannelCache_ok hc).2.1]
    decide +kernel
  have ho := (ChannelCache.outOfService_iff (by decide)).mp h "default" "gpt-4o"
  rw [hl] at ho
  exact absurd ho (by decide)

end DeepRouter.Channels
