import DeepRouter.Channels.Abilities
import DeepRouter.Library.Runs

/-! # The enabled abilities are the projection of the enabled channels

The rows of a stored channel are those that its lists give, disabled or not. -/

namespace DeepRouter.Channels

open KeyedTable Runs List Table ChannelStore Channel

variable {channel : Channel}

namespace Channel

def Lists (channel : Channel) (group model : String) : Prop :=
  group ∈ channel.groupList ∧ model ∈ channel.modelList
deriving Decidable

def Separable (channel : Channel) : Prop :=
  ∀ group ∈ channel.groupList, ∀ model ∈ channel.modelList,
    ∀ group' ∈ channel.groupList, ∀ model' ∈ channel.modelList,
      group ++ "|" ++ model = group' ++ "|" ++ model' → group = group' ∧ model = model'
deriving Decidable

theorem Separable.congr {channel other : Channel} (h : channel.Separable)
    (hm : other.models = channel.models) (hg : other.group = channel.group) : other.Separable := by
  rw [Separable, groupList, modelList, hm, hg]
  exact h

theorem some_getPriority (h : channel.priority ≠ none) :
    some channel.getPriority = channel.priority := by
  obtain ⟨priority, hp⟩ := Option.ne_none_iff_exists'.mp h
  rw [getPriority, hp, Option.getD_some]

end Channel

def Projected (store : ChannelStore) : Prop :=
  ∀ (group model : String) (id : Int),
    ((∃ ability, store.ability? group model id = some ability ∧ ability.enabled = true) ↔
      ∃ channel, store.channel? id = some channel ∧ channel.status = statusEnabled ∧
        channel.Lists group model) ∧
    ∀ ability channel, store.ability? group model id = some ability → ability.enabled = true →
      store.channel? id = some channel →
      ability.priority = channel.priority ∧ ability.weight = channel.getWeight ∧
        ability.tag = channel.tag

def Describes (abilities : Table Ability.key) (channel : Channel) : Prop :=
  ∀ group model, abilities.find? (group, model, channel.id) =
    if channel.Lists group model then some (channel.ability group model) else none

structure RowMirrored (abilities : Table Ability.key) (channel : Channel) : Prop where
  described : Describes abilities channel
  prioritised : channel.priority ≠ none
  separable : channel.Separable

def Owned (store : ChannelStore) : Prop :=
  ∀ ability ∈ store.abilities.rows, ability.enabled = true →
    store.channel? ability.channelId ≠ none

structure Mirrored (store : ChannelStore) : Prop where
  owned : Owned store
  row : ∀ channel ∈ store.channels.rows, RowMirrored store.abilities channel

theorem channelId_of_find? {abilities : Table Ability.key} {ability : Ability}
    {group model : String} {id : Int} (h : abilities.find? (group, model, id) = some ability) :
    ability.channelId = id :=
  congrArg (·.2.2) (key_of_find? h)

theorem mirrored_empty : Mirrored .empty := by
  constructor <;> intro _ h <;> cases h

theorem Mirrored.projected {store : ChannelStore} (h : Mirrored store) : Projected store := by
  intro group model id
  have hr : ∀ channel, store.channel? id = some channel → store.ability? group model id =
        if channel.Lists group model then some (channel.ability group model) else none := by
    intro channel hc
    have hd := (h.row channel (mem_of_find? hc)).described group model
    rw [key_of_find? hc] at hd
    exact hd
  refine ⟨⟨?_, ?_⟩, ?_⟩
  · rintro ⟨ability, ha, he⟩
    obtain ⟨channel, hc⟩ := Option.ne_none_iff_exists'.mp (h.owned ability (mem_of_find? ha) he)
    rw [channelId_of_find? ha] at hc
    rw [hr channel hc] at ha
    split at ha
    · rename_i hl
      cases ha
      exact ⟨channel, hc, of_decide_eq_true he, hl⟩
    · cases ha
  · rintro ⟨channel, hc, hs, hl⟩
    refine ⟨channel.ability group model, ?_, decide_eq_true hs⟩
    rw [hr channel hc, if_pos hl]
  · intro ability channel ha _ hc
    rw [hr channel hc] at ha
    split at ha
    · cases ha
      exact ⟨some_getPriority (h.row channel (mem_of_find? hc)).prioritised, rfl, rfl⟩
    · cases ha

variable {ability : Ability}

section

variable {channel : Channel}

theorem mem_collectAbilities (h : channel.Separable) {pairs : List (String × String)}
    {abilitySet : List String} (hpa : ∀ pair ∈ pairs, channel.Lists pair.2 pair.1) :
    ability ∈ channel.collectAbilities pairs abilitySet ↔
      ∃ pair ∈ pairs, pair.2 ++ "|" ++ pair.1 ∉ abilitySet ∧
        ability = channel.ability pair.2 pair.1 := by
  induction pairs generalizing abilitySet with
  | nil => simp [collectAbilities]
  | cons head pairs ih =>
    obtain ⟨model, group⟩ := head
    have hh := hpa (model, group) mem_cons_self
    have hr := fun pair hpai => hpa pair (mem_cons_of_mem _ hpai)
    rw [collectAbilities]
    by_cases hse : group ++ "|" ++ model ∈ abilitySet
    · simp [hse, ih hr]
    simp only [hse, if_false, mem_cons, ih hr, not_or]
    constructor
    · rintro (rfl | ⟨pair, hpai, ⟨_, hn⟩, rfl⟩)
      · exact ⟨(model, group), .inl rfl, hse, rfl⟩
      · exact ⟨pair, .inr hpai, hn, rfl⟩
    rintro ⟨pair, rfl | hpai, hn, rfl⟩
    · exact .inl rfl
    -- a pair that was skipped has the same row as the one that was taken
    by_cases hs : pair.2 ++ "|" ++ pair.1 = group ++ "|" ++ model
    · have hp := hr pair hpai
      obtain ⟨hg, hm⟩ := h pair.2 hp.1 pair.1 hp.2 group hh.1 model hh.2 hs
      exact .inl (by rw [hg, hm])
    · exact .inr ⟨pair, hpai, ⟨hs, hn⟩, rfl⟩

theorem mem_listedAbilities (h : channel.Separable) :
    ability ∈ channel.listedAbilities ↔
      ∃ group model, channel.Lists group model ∧ ability = channel.ability group model := by
  rw [listedAbilities, mem_collectAbilities h]
  · constructor
    · rintro ⟨⟨model, group⟩, hp, _, rfl⟩
      simp only [mem_flatMap, mem_map, Prod.mk.injEq] at hp
      obtain ⟨model', hm, group', hg, rfl, rfl⟩ := hp
      exact ⟨group', model', ⟨hg, hm⟩, rfl⟩
    · rintro ⟨group, model, ⟨hg, hm⟩, rfl⟩
      refine ⟨(model, group), ?_, not_mem_nil, rfl⟩
      exact mem_flatMap.mpr ⟨model, hm, mem_map.mpr ⟨group, hg, rfl⟩⟩
  · intro pair hp
    simp only [mem_flatMap, mem_map] at hp
    obtain ⟨model, hm, group, hg, rfl⟩ := hp
    exact ⟨hg, hm⟩

theorem find?_listedAbilities (h : channel.Separable) (group model : String) :
    channel.listedAbilities.find? (fun ability => ability.key = (group, model, channel.id)) =
      if channel.Lists group model then some (channel.ability group model) else none := by
  cases hf : channel.listedAbilities.find?
      (fun ability => ability.key = (group, model, channel.id)) with
  | some ability =>
    obtain ⟨group', model', hl, rfl⟩ := (mem_listedAbilities h).mp (mem_of_find?_eq_some hf)
    have hk : (channel.ability group' model').key = (group, model, channel.id) := by
      simpa using find?_some hf
    simp only [Ability.key, ability, Prod.mk.injEq] at hk
    obtain ⟨rfl, rfl, _⟩ := hk
    rw [if_pos hl]
  | none =>
    rw [if_neg]
    intro hl
    have hn := find?_eq_none.mp hf _ ((mem_listedAbilities h).mpr ⟨group, model, hl, rfl⟩)
    exact hn (decide_eq_true rfl)

end

variable {channels : Table Channel.id} {tag : String} {f : Channel → Channel}

section

variable {abilities : Table Ability.key} {channel other : Channel}

open ChannelStore

def Clear (abilities : Table Ability.key) (id : Int) : Prop :=
  ∀ group model, abilities.find? (group, model, id) = none

def SameRows (id : Int) (abilities abilities' : Table Ability.key) : Prop :=
  ∀ group model, abilities'.find? (group, model, id) = abilities.find? (group, model, id)

theorem clear_deleteAbilities (id : Int) (abilities : Table Ability.key) :
    Clear (deleteAbilities id abilities) id := by
  intro group model
  rw [deleteAbilities, find?_keep]
  cases hf : abilities.find? (group, model, id) with
  | none => rfl
  | some ability => simp [channelId_of_find? hf]

variable {id : Int}

theorem deleteAbilities_of_clear (h : Clear abilities id) :
    deleteAbilities id abilities = abilities := by
  apply ext
  rw [deleteAbilities, Table.keep, filter_eq_self]
  intro ability hm
  have hn : ability.channelId ≠ id := by
    rintro rfl
    exact find?_eq_none_iff.mp (h ability.group ability.model) ability hm rfl
  simpa using hn

theorem mem_rows_iff :
    ability ∈ abilities.rows ↔
      abilities.find? (ability.group, ability.model, ability.channelId) = some ability :=
  ⟨fun h => find?_of_mem h, fun h => mem_of_find? h⟩

theorem addAbilities_describes (h : channel.Separable) (hc : Clear abilities channel.id) :
    Describes (addAbilities channel abilities) channel := by
  intro group model
  rw [addAbilities, find?_insertMissing, hc, Option.none_or]
  exact find?_listedAbilities h group model

theorem updateAbilities_describes (h : channel.Separable) :
    Describes (updateAbilities abilities channel) channel :=
  addAbilities_describes h (clear_deleteAbilities _ _)

theorem collectAbilities_channelId {pairs : List (String × String)} {abilitySet : List String}
    (h : ability ∈ channel.collectAbilities pairs abilitySet) : ability.channelId = channel.id := by
  induction pairs generalizing abilitySet with
  | nil => cases h
  | cons pair pairs ih =>
    simp only [collectAbilities] at h
    split at h
    · exact ih h
    · obtain rfl | h := mem_cons.mp h
      · rfl
      · exact ih h

theorem sameRows_addAbilities (h : id ≠ channel.id) :
    SameRows id abilities (addAbilities channel abilities) := by
  intro group model
  have hn : channel.listedAbilities.find? (fun ability => ability.key = (group, model, id)) =
      none := by
    rw [find?_eq_none]
    intro ability hm hk
    have hi : ability.channelId = id := congrArg (·.2.2) (of_decide_eq_true hk)
    exact h (hi.symm.trans (collectAbilities_channelId hm))
  rw [addAbilities, find?_insertMissing, hn, Option.or_none]

theorem sameRows_deleteAbilities {deleted : Int} (h : id ≠ deleted) :
    SameRows id abilities (deleteAbilities deleted abilities) := by
  intro group model
  rw [deleteAbilities, find?_keep]
  cases hf : abilities.find? (group, model, id) with
  | none => rfl
  | some ability => simp [channelId_of_find? hf, h]

theorem sameRows_updateAbilityStatus {channelId : Int} (h : id ≠ channelId) (st : Bool) :
    SameRows id abilities (updateAbilityStatus channelId st abilities) := by
  intro group model
  rw [updateAbilityStatus, find?_mapRows_eq]
  cases hf : abilities.find? (group, model, id) with
  | none => rfl
  | some ability => simp [channelId_of_find? hf, h]

theorem sameRows_updateAbilities (h : id ≠ channel.id) :
    SameRows id abilities (updateAbilities abilities channel) := by
  intro group model
  rw [updateAbilities, sameRows_addAbilities h, sameRows_deleteAbilities h]

theorem Describes.congr {abilities' : Table Ability.key} (h : Describes abilities channel)
    (hs : SameRows channel.id abilities abilities') : Describes abilities' channel := by
  intro group model
  rw [hs]
  exact h group model

theorem RowMirrored.congr {abilities' : Table Ability.key} (h : RowMirrored abilities channel)
    (hs : SameRows channel.id abilities abilities') : RowMirrored abilities' channel :=
  ⟨h.described.congr hs, h.prioritised, h.separable⟩

variable {rows : List Channel}

theorem sameRows_foldl_updateAbilities (h : ∀ channel ∈ rows, id ≠ channel.id) :
    SameRows id abilities (rows.foldl updateAbilities abilities) := by
  intro group model
  induction rows generalizing abilities with
  | nil => rfl
  | cons channel rows ih =>
    rw [foldl_cons, ih fun c hc => h c (mem_cons_of_mem _ hc)]
    exact sameRows_updateAbilities (h channel mem_cons_self) group model

theorem foldl_updateAbilities_describes
    (hs : ∀ channel ∈ rows, channel.Separable) (hn : (rows.map Channel.id).Nodup)
    (h : channel ∈ rows) : Describes (rows.foldl updateAbilities abilities) channel := by
  induction rows generalizing abilities with
  | nil => cases h
  | cons head rows ih =>
    rw [map_cons, nodup_cons] at hn
    rw [foldl_cons]
    obtain rfl | h := mem_cons.mp h
    · apply (updateAbilities_describes (hs channel mem_cons_self)).congr
      apply sameRows_foldl_updateAbilities
      intro c hc hsa
      exact hn.1 (hsa ▸ mem_map_of_mem hc)
    · exact ih (fun c hc => hs c (mem_cons_of_mem _ hc)) hn.2 h

theorem foldl_addAbilities_eq (hn : (rows.map Channel.id).Nodup)
    (hc : ∀ channel ∈ rows, Clear abilities channel.id) :
    rows.foldl (fun abilities channel => addAbilities channel abilities) abilities =
      rows.foldl updateAbilities abilities := by
  induction rows generalizing abilities with
  | nil => rfl
  | cons head rows ih =>
    rw [map_cons, nodup_cons] at hn
    have hh : updateAbilities abilities head = addAbilities head abilities := by
      rw [updateAbilities, deleteAbilities_of_clear (hc head mem_cons_self)]
    rw [foldl_cons, foldl_cons, hh]
    apply ih hn.2
    intro channel hm group model
    rw [sameRows_addAbilities]
    · exact hc channel (mem_cons_of_mem _ hm) group model
    · intro hs
      exact hn.1 (hs ▸ mem_map_of_mem hm)

theorem handlerMultiKeyUpdate_eq (rawArray : String → Option (List String)) (channel : Channel)
    (uk : String) (status : Int) :
    ∃ info status', handlerMultiKeyUpdate rawArray channel uk status =
        { channel with channelInfo := info, status := status' } ∧
      (status' = status ∨ status' = channel.status ∨ status' = statusAutoDisabled) := by
  rw [handlerMultiKeyUpdate]
  dsimp only
  split
  · exact ⟨channel.channelInfo, status, rfl, .inl rfl⟩
  · exact ⟨_, _, rfl, .inr (ite_eq_or_eq _ _ _).symm⟩

theorem mem_updateChannelsByTag (hf : ∀ channel, (f channel).id = channel.id) :
    other ∈ (updateChannelsByTag tag f hf channels).rows ↔
      ∃ channel ∈ channels.rows,
        (if channel.tag = some tag then f channel else channel) = other := by
  rw [updateChannelsByTag, mem_mapRows]

theorem find?_updateChannelsByTag_eq_none (hf : ∀ channel, (f channel).id = channel.id) :
    (updateChannelsByTag tag f hf channels).find? id = none ↔ channels.find? id = none := by
  rw [updateChannelsByTag, find?_mapRows_eq, Option.map_eq_none_iff]

theorem Describes.mapRows {f : Ability → Ability} {hf : ∀ ability, (f ability).key = ability.key}
    (h : Describes abilities channel) (hi : other.id = channel.id)
    (hm : other.models = channel.models) (hg : other.group = channel.group)
    (hr : ∀ group model, f (channel.ability group model) = other.ability group model) :
    Describes (abilities.mapRows f hf) other := by
  intro group model
  have hl : other.Lists group model ↔ channel.Lists group model := by
    rw [Channel.Lists, Channel.Lists, groupList, groupList, modelList, modelList, hm, hg]
  rw [find?_mapRows_eq, hi, h group model]
  by_cases hls : channel.Lists group model
  · rw [if_pos hls, if_pos (hl.mpr hls), Option.map_some, hr]
  · rw [if_neg hls, if_neg (mt hl.mp hls), Option.map_none]

end

namespace ChannelStore.TagEdit

variable {edit : ChannelStore.TagEdit}

theorem apply_id (edit : TagEdit) (channel : Channel) : (edit.apply channel).id = channel.id := rfl

theorem empty_of_not_recreate (h : edit.shouldReCreateAbilities = false) :
    edit.models.getD "" = "" ∧ edit.group.getD "" = "" := by
  simpa [shouldReCreateAbilities] using h

theorem updateAbility_ability (edit : TagEdit)
    (hp : channel.priority ≠ none) (hw : edit.weight = some 0 → channel.getWeight = 0)
    {group model : String} :
    { channel.ability group model with
      tag := edit.newTag.or (channel.ability group model).tag
      priority := edit.priority.or (channel.ability group model).priority
      weight := if edit.weight.getD 0 = 0 then (channel.ability group model).weight
        else edit.weight.getD 0 } = (edit.apply channel).ability group model := by
  have hr : (edit.apply channel).priority = edit.priority.or channel.priority := rfl
  have hs : (edit.apply channel).priority ≠ none := fun hn => hp (Option.or_eq_none_iff.mp hn).2
  have hl : (if edit.weight.getD 0 = 0 then channel.getWeight else edit.weight.getD 0) =
      (edit.apply channel).getWeight := by
    rw [getWeight, getWeight, apply]
    cases hg : edit.weight with
    | none => simp
    | some weight =>
      cases weight with
      | zero => simpa [getWeight] using hw hg
      | succ weight => simp
  simp only [ability, some_getPriority hp, some_getPriority hs, hr, hl]
  rfl

end ChannelStore.TagEdit

/-- The operation leaves the abilities a projection of the channels. -/
def Faithful (rawArray : String → Option (List String)) (store : ChannelStore) : ChannelOp → Prop
  | .insert channel => store.channel? channel.id = none →
    Clear store.abilities channel.id ∧ channel.withDefaults.Separable
  | .update channel => channel.id ≠ 0 → ∃ row, store.channel? channel.id = some row ∧
    (row.updatedBy channel).Separable
  | .updateChannelStatus channelId usingKey status => status = statusEnabled →
    ∀ channel, store.channel? channelId = some channel → channel.channelInfo.isMultiKey = true →
      channel.getKeys rawArray ≠ [] →
      channel.channelInfo.multiKeySize ≤ channel.listedAfter rawArray usingKey status →
      channel.status = statusAutoDisabled
  | .enableChannelByTag tag => ∀ ability ∈ store.abilities.rows, ability.tag = some tag →
    ∃ channel, store.channel? ability.channelId = some channel
  | .editChannelByTag tag edit =>
    (∀ channel ∈ store.channels.rows, channel.tag = some tag → (edit.apply channel).Separable) ∧
    (edit.shouldReCreateAbilities = false → edit.weight = some 0 →
      ∀ channel ∈ store.channels.rows, channel.tag = some tag → channel.getWeight = 0)
  | .batchSetChannelTag ids tag =>
    ∀ channel ∈ store.channels.rows, channel.id ∈ ids → channel.tag = tag
  | .delete _ | .disableChannelByTag _ | .deleteDisabledChannel | .fixAbility => True

variable {rawArray : String → Option (List String)}

namespace Mirrored

variable {store store' : ChannelStore}

section

variable (h : Mirrored store)

include h

theorem owned_of_frame (hk : ∀ id, store'.channel? id = none → store.channel? id = none)
    (hf : ∀ id, store'.channel? id = none → SameRows id store.abilities store'.abilities) :
    Owned store' := by
  intro ability hm he hn
  rw [mem_rows_iff, hf _ hn, ← mem_rows_iff] at hm
  exact h.owned ability hm he (hk _ hn)

theorem owned_mapRows (hk : ∀ id, store'.channel? id = none → store.channel? id = none)
    {f : Ability → Ability} (hi : ∀ ability, (f ability).channelId = ability.channelId)
    (hr : store'.abilities.rows = store.abilities.rows.map f)
    (he : ∀ ability ∈ store.abilities.rows, (f ability).enabled = true → ability.enabled = true ∨
      store.channel? ability.channelId ≠ none) : Owned store' := by
  intro ability hm ho hn
  rw [hr] at hm
  obtain ⟨old, hOld, rfl⟩ := mem_map.mp hm
  rw [hi] at hn
  obtain hs | hs := he old hOld ho
  · exact h.owned old hOld hs (hk _ hn)
  · exact hs (hk _ hn)

theorem insert (hn : store.channel? channel.id = none → Clear store.abilities channel.id ∧
      channel.withDefaults.Separable) : Mirrored (store.insert channel) := by
  simp only [ChannelStore.insert]
  split
  · exact h
  cases hi : store.channels.insert? channel.withDefaults with
  | none => exact h
  | some channels =>
    have hf := (insert?_eq_some hi).1
    obtain ⟨hcl, hs⟩ := hn hf
    refine ⟨h.owned_of_frame ?_ ?_, ?_⟩
    · intro id hno
      rw [channel?, find?_eq_none_iff] at hno ⊢
      intro c hc
      exact hno c ((mem_insert? hi).mpr (.inl hc))
    · intro id hno
      apply sameRows_addAbilities
      rintro rfl
      rw [channel?, find?_insert?_self hi] at hno
      cases hno
    · intro c hc
      obtain ho | rfl := (mem_insert? hi).mp hc
      · apply (h.row c ho).congr
        exact sameRows_addAbilities (find?_eq_none_iff.mp hf c ho)
      · exact ⟨addAbilities_describes hs hcl, Option.some_ne_none _, hs⟩

theorem save {row old : Channel} {abilities : Table Ability.key}
    (ho : store.channel? row.id = some old) (hr : RowMirrored abilities row)
    (hfr : ∀ id, id ≠ row.id → SameRows id store.abilities abilities) :
    Mirrored ⟨store.channels.save row, abilities⟩ := by
  have hf : ∀ id, (store.channels.save row).find? id =
      if id = row.id then some row else store.channels.find? id := find?_save ho rfl
  refine ⟨h.owned_of_frame ?_ ?_, ?_⟩
  · intro id hno
    rw [channel?, hf] at hno
    split at hno
    · cases hno
    · exact hno
  · intro id hno
    apply hfr
    rintro rfl
    rw [channel?, hf, if_pos rfl] at hno
    cases hno
  · intro c hc
    obtain ⟨hot, hn⟩ | ⟨rfl, _⟩ := mem_save.mp hc
    · exact (h.row c hot).congr (hfr c.id hn)
    · exact hr

theorem delete (id : Int) : Mirrored (store.delete id) := by
  rw [ChannelStore.delete]
  split
  · exact h
  refine ⟨?_, ?_⟩
  · intro ability ha he
    obtain ⟨hs, hn⟩ := mem_keep.mp ha
    obtain ⟨channel, hCh⟩ := Option.ne_none_iff_exists'.mp (h.owned ability hs he)
    rw [channel?] at hCh
    rw [channel?, find?_keep, hCh, Option.filter_some, key_of_find? hCh, if_pos hn]
    exact Option.some_ne_none _
  · intro c hc
    obtain ⟨hs, hn⟩ := mem_keep.mp hc
    exact (h.row c hs).congr (sameRows_deleteAbilities (of_decide_eq_true hn))

theorem deleteDisabledChannel : Mirrored store.deleteDisabledChannel := by
  refine ⟨?_, fun c hc => h.row c (mem_keep.mp hc).1⟩
  intro ability ha he
  -- an enabled row is that of an enabled channel, which is kept
  obtain ⟨channel, hc, ho, _⟩ := (h.projected ability.group ability.model ability.channelId).1.mp
    ⟨ability, mem_rows_iff.mp ha, he⟩
  rw [channel?] at hc
  rw [channel?, ChannelStore.deleteDisabledChannel, find?_keep, hc, Option.filter_some, ho]
  exact Option.some_ne_none _

theorem fixAbility : Mirrored store.fixAbility := by
  have hr : store.fixAbility.abilities = store.channels.rows.foldl updateAbilities (.empty _) :=
    foldl_addAbilities_eq store.channels.nodup fun _ _ _ _ => rfl
  refine ⟨?_, ?_⟩
  · intro ability ha _ hn
    rw [hr, mem_rows_iff, sameRows_foldl_updateAbilities] at ha
    · cases ha
    · intro c hc hs
      exact find?_eq_none_iff.mp hn c hc hs.symm
  · intro c hc
    have hs := h.row c hc
    refine ⟨?_, hs.prioritised, hs.separable⟩
    rw [hr]
    exact foldl_updateAbilities_describes (fun c hc => (h.row c hc).separable) store.channels.nodup hc

theorem update (hr : Faithful rawArray store (.update channel)) :
    Mirrored (store.update rawArray channel) := by
  simp only [ChannelStore.update]
  split
  · exact h
  rename_i hi
  obtain ⟨row, hf, hse⟩ := hr hi
  rw [hf]
  have hk : row.id = channel.id := key_of_find? hf
  have hs : (row.updatedBy (channel.resized rawArray (some row))).Separable := by
    rw [resized]
    split <;> exact hse
  refine h.save (hk ▸ hf) ⟨updateAbilities_describes hs, ?_, hs⟩
    fun id hNe => sameRows_updateAbilities hNe
  intro hn
  exact (h.row row (mem_of_find? hf)).prioritised (Option.or_eq_none_iff.mp hn).2

theorem saveStatus {channelId status status' : Int} {info : ChannelInfo}
    (hf : store.channel? channelId = some channel)
    (hs : status' = statusEnabled ↔ status = statusEnabled) :
    Mirrored ⟨store.channels.save { channel with channelInfo := info, status := status' },
      updateAbilityStatus channelId (status = statusEnabled) store.abilities⟩ := by
  have hr := h.row channel (mem_of_find? hf)
  have hi : channel.id = channelId := key_of_find? hf
  subst hi
  refine h.save hf ⟨?_, hr.prioritised, hr.separable⟩
    fun id hn => sameRows_updateAbilityStatus hn _
  refine hr.described.mapRows rfl rfl rfl ?_
  intro group model
  rw [if_pos (show (channel.ability group model).channelId = channel.id from rfl)]
  simp only [ability, getPriority, getWeight, hs]

theorem updateChannelStatus {channelId : Int} {uk : String} {status : Int}
    (he : Faithful rawArray store (.updateChannelStatus channelId uk status)) :
    Mirrored (store.updateChannelStatus rawArray channelId uk status) := by
  rw [ChannelStore.updateChannelStatus]
  cases hf : store.channel? channelId with
  | none => exact h
  | some channel =>
    have hme := mem_of_find? hf
    have hi : channel.id = channelId := key_of_find? hf
    dsimp only
    split
    · exact h
    split
    · rename_i hm
      obtain ⟨info, status', hu, hc⟩ := handlerMultiKeyUpdate_eq rawArray channel uk status
      have hd : status = statusEnabled → status' = statusEnabled ∨ status' = channel.status := by
        intro ho
        have hs := handlerMultiKeyUpdate_status rawArray channel uk status
        rw [hu] at hs
        split at hs
        · exact .inl (hs.trans ho)
        rename_i hk
        split at hs
        · rename_i hl
          exact .inr (hs.trans (he ho channel hf hm hk hl).symm)
        · exact .inr hs
      rw [hu]
      by_cases hch : status' = channel.status
      · simp only [hm, hch, ne_eq, not_true_eq_false, decide_false, Bool.not_true, Bool.or_self,
          Bool.false_eq_true, if_false]
        subst hch
        have hr := h.row channel hme
        exact h.save (hi ▸ hf) ⟨hr.described, hr.prioritised, hr.separable⟩ fun _ _ _ _ => rfl
      · simp only [ne_eq, hch, not_false_eq_true, decide_true, Bool.or_true, if_true]
        refine h.saveStatus hf ?_
        obtain rfl | hc | rfl := hc
        · exact Iff.rfl
        · exact absurd hc hch
        constructor
        · intro ho
          cases ho
        · intro ho
          exact (hd ho).resolve_right hch
    · rename_i hs
      simp only [hs, Bool.not_false, Bool.true_or, if_true]
      exact h.saveStatus hf Iff.rfl

theorem mapTagged {hf : ∀ channel, (f channel).id = channel.id} {F : Ability → Ability}
    {hF : ∀ ability, (F ability).key = ability.key}
    (hmo : ∀ channel, (f channel).models = channel.models)
    (hg : ∀ channel, (f channel).group = channel.group)
    (hp : ∀ channel, channel.priority ≠ none → (f channel).priority ≠ none)
    (hr : ∀ channel ∈ store.channels.rows, channel.tag = some tag →
      ∀ group model, F (channel.ability group model) = (f channel).ability group model)
    (he : ∀ ability ∈ store.abilities.rows, ability.tag = some tag → (F ability).enabled = true →
      ability.enabled = true ∨ store.channel? ability.channelId ≠ none) :
    Mirrored ⟨updateChannelsByTag tag f hf store.channels,
      updateAbilitiesByTag tag F hF store.abilities⟩ := by
  refine ⟨h.owned_mapRows ?_ ?_ rfl ?_, ?_⟩
  · intro id hn
    exact (find?_updateChannelsByTag_eq_none hf).mp hn
  · intro ability
    split
    · exact congrArg (·.2.2) (hF ability)
    · rfl
  · intro ability hm ho
    split at ho
    · rename_i ht
      exact he ability hm ht ho
    · exact .inl ho
  · intro c hc
    obtain ⟨channel, hm, rfl⟩ := (mem_updateChannelsByTag hf).mp hc
    have hs := h.row channel hm
    by_cases ht : channel.tag = some tag
    · simp only [ht, if_true]
      refine ⟨hs.described.mapRows (hf channel) (hmo channel) (hg channel) ?_,
        hp channel hs.prioritised, hs.separable.congr (hmo channel) (hg channel)⟩
      intro group model
      rw [if_pos (show (channel.ability group model).tag = some tag from ht)]
      exact hr channel hm ht group model
    · simp only [ht, if_false]
      refine ⟨hs.described.mapRows rfl rfl rfl ?_, hs.prioritised, hs.separable⟩
      intro group model
      exact if_neg (show (channel.ability group model).tag ≠ some tag from ht)

theorem enableChannelByTag (hs : Faithful rawArray store (.enableChannelByTag tag)) :
    Mirrored (store.enableChannelByTag tag) :=
  h.mapTagged (fun _ => rfl) (fun _ => rfl) (fun _ hp => hp)
    (fun _ _ _ _ _ => rfl) fun ability hm ht _ =>
      .inr (Option.ne_none_iff_exists'.mpr (hs ability hm ht))

theorem disableChannelByTag (tag : String) : Mirrored (store.disableChannelByTag tag) :=
  h.mapTagged (fun _ => rfl) (fun _ => rfl) (fun _ hp => hp)
    (fun _ _ _ _ _ => rfl) fun _ _ _ ho => absurd ho Bool.false_ne_true

theorem rewritten {p : Channel → Bool}
    (hk : ∀ id, channels.find? id = none → store.channel? id = none)
    (hr : ∀ channel ∈ channels.rows, channel.priority ≠ none ∧ channel.Separable ∧
      (p channel = false → Describes store.abilities channel)) :
    Mirrored ⟨channels, (channels.rows.filter p).foldl updateAbilities store.abilities⟩ := by
  have hNd : ((channels.rows.filter p).map Channel.id).Nodup :=
    (filter_sublist.map Channel.id).nodup channels.nodup
  refine ⟨h.owned_of_frame hk ?_, ?_⟩
  · intro id hn
    apply sameRows_foldl_updateAbilities
    intro c hc hsa
    exact find?_eq_none_iff.mp hn c (mem_filter.mp hc).1 hsa.symm
  · intro channel hm
    obtain ⟨hp, hs, hd⟩ := hr channel hm
    refine ⟨?_, hp, hs⟩
    by_cases hw : p channel = true
    · apply foldl_updateAbilities_describes _ hNd (mem_filter.mpr ⟨hm, hw⟩)
      exact fun c hc => (hr c (mem_filter.mp hc).1).2.1
    apply (hd (Bool.eq_false_iff.mpr hw)).congr
    apply sameRows_foldl_updateAbilities
    intro c hc hsa
    obtain ⟨hst, ho⟩ := mem_filter.mp hc
    rw [channels.eq_of_key_eq hm hst hsa] at hw
    exact hw ho

theorem editChannelByTag {edit : TagEdit}
    (ht : Faithful rawArray store (.editChannelByTag tag edit)) :
    Mirrored (store.editChannelByTag tag edit) := by
  obtain ⟨hse, hw⟩ := ht
  have hp : ∀ channel : Channel, channel.priority ≠ none → (edit.apply channel).priority ≠ none :=
    fun channel hs hno => hs (Option.or_eq_none_iff.mp hno).2
  simp only [ChannelStore.editChannelByTag]
  split
  · rename_i hr
    apply h.rewritten
    · intro id hno
      exact (find?_updateChannelsByTag_eq_none edit.apply_id).mp hno
    intro c hc
    obtain ⟨channel, hm, rfl⟩ := (mem_updateChannelsByTag edit.apply_id).mp hc
    have hs := h.row channel hm
    by_cases ht : channel.tag = some tag
    · rw [if_pos ht]
      refine ⟨hp channel hs.prioritised, hse channel hm ht, ?_⟩
      -- an edited channel carries the tag by which the channels are read
      intro hot
      simp only [TagEdit.apply, ht, decide_eq_false_iff_not] at hot
      cases hn : edit.newTag <;> simp [hn] at hot
    · rw [if_neg ht]
      exact ⟨hs.prioritised, hs.separable, fun _ => hs.described⟩
  · rename_i hk
    have hl := TagEdit.empty_of_not_recreate (Bool.eq_false_iff.mpr hk)
    refine h.mapTagged (fun channel => if_pos hl.1) (fun channel => if_pos hl.2) hp
      ?_ fun _ _ _ ho => .inl ho
    intro channel hm ht group model
    have hz := hw (Bool.eq_false_iff.mpr hk)
    exact edit.updateAbility_ability (h.row channel hm).prioritised fun hno => hz hno channel hm ht

theorem batchSetChannelTag {ids : List Int} {tag : Option String}
    (ht : Faithful rawArray store (.batchSetChannelTag ids tag)) :
    Mirrored (store.batchSetChannelTag ids tag) := by
  have hsa : (store.batchSetChannelTag ids tag).channels = store.channels := by
    apply ext
    rw [ChannelStore.batchSetChannelTag, Table.mapRows]
    conv_rhs => rw [← map_id store.channels.rows]
    apply map_congr_left
    intro channel hm
    split
    · rename_i hl
      rw [← ht channel hm hl]
      rfl
    · rfl
  have hs : store.batchSetChannelTag ids tag =
      ⟨store.channels, (store.batchSetChannelTag ids tag).abilities⟩ :=
    congrArg (ChannelStore.mk · _) hsa
  rw [hs]
  apply h.rewritten
  · exact fun _ hn => hn
  · intro channel hm
    have hr := h.row channel hm
    exact ⟨hr.prioritised, hr.separable, fun _ => hr.described⟩

end

end Mirrored

theorem Mirrored.step {store : ChannelStore}
    {op : ChannelOp} (h : Mirrored store) (ho : Faithful rawArray store op) :
    Mirrored (store.step rawArray op) := by
  cases op with
  | insert channel => exact h.insert ho
  | update channel => exact h.update ho
  | delete id => exact h.delete id
  | updateChannelStatus channelId usingKey status => exact h.updateChannelStatus ho
  | enableChannelByTag tag => exact h.enableChannelByTag ho
  | disableChannelByTag tag => exact h.disableChannelByTag tag
  | editChannelByTag tag edit => exact h.editChannelByTag ho
  | batchSetChannelTag ids tag => exact h.batchSetChannelTag ho
  | deleteDisabledChannel => exact h.deleteDisabledChannel
  | fixAbility => exact h.fixAbility

theorem abilities_project_channels (rawArray : String → Option (List String)) (ops : List ChannelOp)
    (h : Along (ChannelStore.step rawArray) (Faithful rawArray) .empty ops) :
    Projected (run (ChannelStore.step rawArray) .empty ops) :=
  (run_invariant (fun _ _ hs ho => Mirrored.step hs ho) mirrored_empty ops h).projected

def taggedChannel : Channel :=
  { id := 1, models := "small,large", group := "default", tag := some "pool", weight := some 5 }

def reweighed (weight : Nat) : List ChannelOp :=
  [.insert taggedChannel, .editChannelByTag "pool" { weight := some weight }]

theorem abilities_project_channels_reweighed :
    Projected (run (ChannelStore.step fun _ => none) .empty
      (reweighed 7 ++ [.updateChannelStatus 1 "" statusManuallyDisabled, .fixAbility])) := by
  apply abilities_project_channels
  refine ⟨fun _ => ⟨fun _ _ => rfl, ?_⟩, ⟨?_, ?_⟩, ?_, trivial, trivial⟩
  · decide +kernel
  · decide +kernel
  · intro _ hz
    cases hz
  · intro ho
    cases ho

theorem zero_weight_not_projected :
    ¬ Projected (run (ChannelStore.step fun _ => none) .empty (reweighed 0)) := by
  intro h
  have hr := (h "default" "small" 1).2
    { group := "default", model := "small", channelId := 1, enabled := true, priority := some 0
      weight := 5, tag := some "pool" }
    { taggedChannel.withDefaults with weight := some 0 } (by decide +kernel) rfl (by decide +kernel)
  exact absurd hr.2.1 (by decide)

end DeepRouter.Channels
