import DeepRouter.Channels.Selection

/-! # The memory cache of the channels -/

namespace DeepRouter.Channels

open KeyedTable GoStrings List

def multiKeyModePolling : String := "polling"

structure PrioritySort where
  sort : (Int → Int) → List Int → List Int
  perm : ∀ priority ids, (sort priority ids).Perm ids
  ordered : ∀ priority ids, (sort priority ids).Pairwise fun id id' => priority id ≥ priority id'

def stableSort : PrioritySort where
  sort priority ids := ids.insertionSort fun id id' => priority id ≥ priority id'
  perm _ _ := List.perm_insertionSort _ _
  ordered priority ids := by
    have : Std.Total fun id id' : Int => priority id ≥ priority id' := ⟨fun id id' => by omega⟩
    have : IsTrans Int fun id id' => priority id ≥ priority id' := ⟨fun _ _ _ h h' => by omega⟩
    exact List.pairwise_insertionSort _ ids

abbrev ChannelLists := String → String → List Int

def Channel.entries (channel : Channel) : List (String × String × Int) :=
  if channel.status = statusEnabled then
    channel.groupList.flatMap fun group => channel.modelList.map fun model =>
      (group, model, channel.id)
  else []

def ChannelLists.append (lists : ChannelLists) (group model : String) (id : Int) : ChannelLists :=
  fun group' model' =>
    if group' = group ∧ model' = model then lists group' model' ++ [id] else lists group' model'

def listEntry (groups : List String) (lists : ChannelLists) (entry : String × String × Int) :
    Except Err ChannelLists :=
  if entry.1 ∈ groups then .ok (lists.append entry.1 entry.2.1 entry.2.2)
  else .error "assignment to entry in nil map"

def buildLists (groups : List String) (channels : List Channel) : Except Err ChannelLists :=
  (channels.flatMap Channel.entries).foldlM (listEntry groups) fun _ _ => []

def Channel.continued (old : Int → Option Channel) (channel : Channel) : Channel :=
  if channel.channelInfo.isMultiKey && channel.channelInfo.multiKeyMode = multiKeyModePolling then
    match old channel.id with
    | some oldChannel =>
      if oldChannel.channelInfo.isMultiKey &&
          oldChannel.channelInfo.multiKeyMode = multiKeyModePolling then
        { channel with channelInfo := { channel.channelInfo with
            multiKeyPollingIndex := oldChannel.channelInfo.multiKeyPollingIndex } }
      else channel
    | none => channel
  else channel

section

variable {groups : List String}

theorem foldlM_listEntry {entries : List (String × String × Int)} {lists lists' : ChannelLists} :
    entries.foldlM (listEntry groups) lists = .ok lists' ↔
      (∀ entry ∈ entries, entry.1 ∈ groups) ∧
        lists' = fun group model => lists group model ++
          (entries.filter fun entry => group = entry.1 ∧ model = entry.2.1).map (·.2.2) := by
  induction entries generalizing lists with
  | nil => simp [pure, Except.pure, eq_comm]
  | cons entry entries ih =>
    rw [foldlM_cons, listEntry]
    by_cases hg : entry.1 ∈ groups
    · rw [if_pos hg]
      simp only [bind, Except.bind, ih, forall_mem_cons, hg, true_and]
      apply and_congr_right
      intro _
      apply Eq.congr rfl
      funext group model
      rw [ChannelLists.append, filter_cons]
      by_cases hh : group = entry.1 ∧ model = entry.2.1
      · simp [hh]
      · simp [hh]
    · rw [if_neg hg]
      simp [bind, Except.bind, hg]

theorem Channel.filter_entries (ch : Channel) (group model : String) :
    (ch.entries.filter fun entry => group = entry.1 ∧ model = entry.2.1).map (·.2.2) =
      ch.listed group model := by
  rw [entries, listed]
  split
  · generalize ch.groupList = groups
    induction groups with
    | nil => rfl
    | cons head groups ih =>
      have hm : (((ch.modelList.map fun model => (head, model, ch.id)).filter
          fun entry => group = entry.1 ∧ model = entry.2.1).map (·.2.2)) =
            if head = group then (ch.modelList.filter (· = model)).map fun _ => ch.id
            else [] := by
        rw [filter_map, map_map]
        by_cases hh : head = group
        · subst hh
          rw [if_pos rfl]
          simp [Function.comp_def, eq_comm]
        · have ho : ¬group = head := Ne.symm hh
          simp [Function.comp_def, hh, ho]
      rw [flatMap_cons, filter_append, map_append, ih, hm, filter_cons]
      by_cases hh : head = group
      · simp [hh]
      · simp [hh]
  · rfl

def Covers (groups : List String) (channels : List Channel) : Prop :=
  ∀ channel ∈ channels, channel.status = statusEnabled → ∀ group ∈ channel.groupList, group ∈ groups
deriving Decidable

theorem buildLists_eq_ok {channels : List Channel} {lists : ChannelLists} :
    buildLists groups channels = .ok lists ↔
      Covers groups channels ∧ lists = fun group model => channels.flatMap (Channel.listed group model) := by
  have hl : (fun group model => ([] : List Int) ++ ((channels.flatMap Channel.entries).filter
      fun entry => group = entry.1 ∧ model = entry.2.1).map (·.2.2)) =
        fun group model => channels.flatMap (Channel.listed group model) := by
    funext group model
    rw [nil_append, filter_flatMap, map_flatMap]
    simp only [Channel.filter_entries]
  rw [buildLists, foldlM_listEntry, hl]
  apply and_congr_left
  intro _
  simp only [mem_flatMap, Covers]
  constructor
  · intro h ch hme hs group hg
    obtain ⟨model, hm⟩ := exists_mem_of_ne_nil ch.modelList (split_ne_nil _ _)
    refine h (group, model, ch.id) ⟨ch, hme, ?_⟩
    rw [Channel.entries, if_pos hs]
    exact mem_flatMap.mpr ⟨group, hg, mem_map.mpr ⟨model, hm, rfl⟩⟩
  · rintro h entry ⟨ch, hme, he⟩
    rw [Channel.entries] at he
    split at he
    · rename_i hs
      obtain ⟨group, hg, he⟩ := mem_flatMap.mp he
      obtain ⟨model, _, rfl⟩ := mem_map.mp he
      exact h ch hme hs group hg
    · cases he

end

theorem Channel.continued_id (old : Int → Option Channel) (ch : Channel) :
    (ch.continued old).id = ch.id := by
  rw [continued]
  split
  · split
    · split <;> rfl
    · rfl
  · rfl

section

variable (sorter : PrioritySort) (old : Int → Option Channel) (channels : Table Channel.id)
  (abilities : Table Ability.key)

def publish (lists : ChannelLists)
    (known : ∀ group model, ∀ id ∈ lists group model, ∃ channel, channels.find? id = some channel) :
    ChannelCache where
  group2model2channels group model :=
    sorter.sort (fun id => ((channels.find? id).map Channel.getPriority).getD 0) (lists group model)
  channelsIDM id := (channels.find? id).map (Channel.continued old)
  known group model id hm := by
    obtain ⟨channel, hf⟩ := known group model id ((sorter.perm _ _).mem_iff.mp hm)
    exact ⟨channel.continued old, by rw [hf, Option.map_some]⟩
  named id channel hf := by
    obtain ⟨row, hr, rfl⟩ := Option.map_eq_some_iff.mp hf
    rw [Channel.continued_id, Table.key_of_find? hr]

def rebuildChannelCache : Except Err ChannelCache :=
  match h : buildLists (abilities.rows.map Ability.group) channels.rows with
  | .error e => .error e
  | .ok lists => .ok (publish sorter old channels lists (by
      intro group model id hm
      rw [(buildLists_eq_ok.mp h).2] at hm
      obtain ⟨channel, hf, _⟩ := mem_flatMap_listed.mp hm
      exact ⟨channel, hf⟩))

variable {sorter old channels abilities}

theorem rebuildChannelCache_ok {cache : ChannelCache}
    (h : rebuildChannelCache sorter old channels abilities = .ok cache) :
    Covers (abilities.rows.map Ability.group) channels.rows ∧
      (∀ group model, cache.group2model2channels group model =
        sorter.sort (fun id => ((channels.find? id).map Channel.getPriority).getD 0)
          (channels.rows.flatMap (Channel.listed group model))) ∧
      ∀ id, cache.channelsIDM id = (channels.find? id).map (Channel.continued old) := by
  rw [rebuildChannelCache] at h
  split at h
  · cases h
  rename_i lists hl
  cases h
  obtain ⟨hc, rfl⟩ := buildLists_eq_ok.mp hl
  exact ⟨hc, fun _ _ => rfl, fun _ => rfl⟩

theorem exists_rebuildChannelCache (h : Covers (abilities.rows.map Ability.group) channels.rows) :
    ∃ cache, rebuildChannelCache sorter old channels abilities = .ok cache := by
  rw [rebuildChannelCache]
  split
  · rename_i e hl
    rw [buildLists_eq_ok.mpr ⟨h, rfl⟩] at hl
    cases hl
  · exact ⟨_, rfl⟩

theorem mem_rebuildChannelCache {cache : ChannelCache}
    (h : rebuildChannelCache sorter old channels abilities = .ok cache) {group model : String}
    {id : Int} : id ∈ cache.group2model2channels group model ↔
      ∃ ch, channels.find? id = some ch ∧ ch.status = statusEnabled ∧
        group ∈ ch.groupList ∧ model ∈ ch.modelList := by
  rw [(rebuildChannelCache_ok h).2.1, (sorter.perm _ _).mem_iff, mem_flatMap_listed]

end

namespace ChannelCache

def cacheUpdateChannelStatus (cache : ChannelCache) (id status : Int) : ChannelCache where
  group2model2channels group model :=
    if status ≠ statusEnabled then (cache.group2model2channels group model).erase id
    else cache.group2model2channels group model
  channelsIDM id' := (cache.channelsIDM id').map fun channel =>
    if id' = id then { channel with status } else channel
  known group model id' hm := by
    have hl : id' ∈ cache.group2model2channels group model := by
      split at hm
      · exact List.mem_of_mem_erase hm
      · exact hm
    obtain ⟨channel, hf⟩ := cache.known group model id' hl
    exact ⟨_, by rw [hf, Option.map_some]⟩
  named id' channel hf := by
    obtain ⟨row, hr, rfl⟩ := Option.map_eq_some_iff.mp hf
    rw [← cache.named id' row hr]
    split <;> rfl

end ChannelCache

end DeepRouter.Channels
