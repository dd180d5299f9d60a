import DeepRouter.Channels.KeyPolling

/-! # The status of one key -/

namespace DeepRouter.Channels

open KeyedTable List

structure KeyNotes where
  multiKeyDisabledReason : Option (List (Nat × String)) := none
  multiKeyDisabledTime : Option (List (Nat × Int)) := none

def setEntry {α : Type} (entries : List (Nat × α)) (idx : Nat) (value : α) : List (Nat × α) :=
  entries.filter (·.1 ≠ idx) ++ [(idx, value)]

section

variable (rawArray : String → Option (List String))

def KeyNotes.noteDisabled (notes : KeyNotes) (channel : Channel) (usingKey : String) (status : Int)
    (reason : String) (now : Int) : KeyNotes :=
  if channel.getKeys rawArray = [] ∨ status = statusEnabled then notes
  else
    let keyIndex := channel.keyIndex rawArray usingKey
    { multiKeyDisabledReason :=
        some (setEntry (notes.multiKeyDisabledReason.getD []) keyIndex reason)
      multiKeyDisabledTime := some (setEntry (notes.multiKeyDisabledTime.getD []) keyIndex now) }

end

def ChannelCache.updateChannel (cache : ChannelCache) (id : Int) (f : Channel → Channel)
    (hf : ∀ channel, (f channel).id = channel.id) : ChannelCache where
  group2model2channels := cache.group2model2channels
  channelsIDM id' := (cache.channelsIDM id').map fun channel =>
    if id' = id then f channel else channel
  known group model id' hm := by
    obtain ⟨channel, hfn⟩ := cache.known group model id' hm
    exact ⟨_, by rw [hfn, Option.map_some]⟩
  named id' channel hfn := by
    obtain ⟨row, hr, rfl⟩ := Option.map_eq_some_iff.mp hfn
    rw [← cache.named id' row hr]
    split
    · exact hf row
    · rfl

structure StatusState where
  cache : ChannelCache
  store : ChannelStore
  (cachedNotes storedNotes : Int → KeyNotes := fun _ => {})

theorem handlerMultiKeyUpdate_id (rawArray : String → Option (List String)) (channel : Channel)
    (usingKey : String) (status : Int) :
    (handlerMultiKeyUpdate rawArray channel usingKey status).id = channel.id := by
  rw [handlerMultiKeyUpdate]
  split <;> rfl

structure StatusCall where
  channelId : Int
  usingKey : String
  status : Int
  reason : String := ""
  (cacheTime storeTime : Int := 0)

namespace StatusState

variable (rawArray : String → Option (List String))

def updateCachedKey (s : StatusState) (channel : Channel) (call : StatusCall) : StatusState :=
  { s with
    cache := s.cache.updateChannel call.channelId
      (fun channel => handlerMultiKeyUpdate rawArray channel call.usingKey call.status)
      fun channel => handlerMultiKeyUpdate_id rawArray channel call.usingKey call.status
    cachedNotes := Function.update s.cachedNotes call.channelId
      ((s.cachedNotes call.channelId).noteDisabled rawArray channel call.usingKey call.status
        call.reason call.cacheTime) }

def updateStored (s : StatusState) (call : StatusCall) : Bool × StatusState :=
  match s.store.channel? call.channelId with
  | none => (false, s)
  | some channel =>
    if channel.status = call.status then (false, s)
    else (true, { s with
      store := s.store.updateChannelStatus rawArray call.channelId call.usingKey call.status
      storedNotes := if channel.channelInfo.isMultiKey then
          Function.update s.storedNotes call.channelId
            ((s.storedNotes call.channelId).noteDisabled rawArray channel call.usingKey call.status
              call.reason call.storeTime)
        else s.storedNotes })

def updateChannelStatus (s : StatusState) (call : StatusCall) : Bool × StatusState :=
  match s.cache.channelsIDM call.channelId with
  | none => (false, s)
  | some channelCache =>
    if channelCache.channelInfo.isMultiKey then
      (s.updateCachedKey rawArray channelCache call).updateStored rawArray call
    else if channelCache.status = call.status then (false, s)
    else { s with
      cache := s.cache.cacheUpdateChannelStatus call.channelId call.status }.updateStored rawArray call

end StatusState

/-! ## The position that is changed -/

section

variable {rawArray : String → Option (List String)} {channel : Channel} {usingKey : String}
  {status : Int}

theorem lookup_filter_ne {α : Type} (entries : List (Nat × α)) (idx i : Nat) :
    (entries.filter (·.1 ≠ idx)).lookup i = if i = idx then none else entries.lookup i := by
  induction entries with
  | nil => simp
  | cons entry entries ih =>
    obtain ⟨head, value⟩ := entry
    by_cases hh : head = idx
    · rw [filter_cons_of_neg (by simp [hh]), ih, lookup_cons]
      by_cases hi : i = idx
      · rw [if_pos hi, if_pos hi]
      · have hn : (i == head) = false := by simp [hh, hi]
        rw [if_neg hi, if_neg hi, hn]
    · rw [filter_cons_of_pos (by simpa using hh), lookup_cons, lookup_cons, ih]
      by_cases hi : i = head
      · have hn : ¬i = idx := hi ▸ hh
        simp [hi, hh]
      · have hn : (i == head) = false := by simp [hi]
        rw [hn]

theorem lookup_setEntry {α : Type} (entries : List (Nat × α)) (idx : Nat) (value : α) (i : Nat) :
    (setEntry entries idx value).lookup i = if i = idx then some value else entries.lookup i := by
  rw [setEntry, lookup_append, lookup_filter_ne]
  by_cases hi : i = idx
  · simp [hi]
  · have hn : (i == idx) = false := by simpa using hi
    simp only [if_neg hi, lookup_cons, hn, lookup_nil, Option.or_none]

def Channel.keyEntry (channel : Channel) (i : Nat) : Option Int :=
  (channel.channelInfo.multiKeyStatusList.getD []).lookup i

theorem keyStatus_eq (channel : Channel) (i : Nat) :
    channel.keyStatus i = (channel.keyEntry i).getD statusEnabled := by
  rw [Channel.keyStatus, Channel.keyEntry]
  cases channel.channelInfo.multiKeyStatusList <;> rfl

/-- An enabled key has no entry. -/
def entryOf (status : Int) : Option Int := if status = statusEnabled then none else some status

theorem keyEntry_handlerMultiKeyUpdate (h : channel.getKeys rawArray ≠ []) (i : Nat) :
    (handlerMultiKeyUpdate rawArray channel usingKey status).keyEntry i =
      if i = channel.keyIndex rawArray usingKey then entryOf status else channel.keyEntry i := by
  rw [handlerMultiKeyUpdate, if_neg h, entryOf]
  by_cases he : status = statusEnabled
  · simp only [Channel.keyEntry, he, if_true, Option.getD_some]
    exact lookup_filter_ne _ _ _
  · simp only [Channel.keyEntry, he, if_false, Option.getD_some]
    exact lookup_setEntry _ _ _ _

theorem keyStatus_handlerMultiKeyUpdate (h : channel.getKeys rawArray ≠ []) (i : Nat) :
    (handlerMultiKeyUpdate rawArray channel usingKey status).keyStatus i =
      if i = channel.keyIndex rawArray usingKey then status else channel.keyStatus i := by
  rw [keyStatus_eq, keyEntry_handlerMultiKeyUpdate h, keyStatus_eq, entryOf]
  by_cases hi : i = channel.keyIndex rawArray usingKey
  · by_cases he : status = statusEnabled
    · simp [hi, he]
    · simp [hi, he]
  · simp only [if_neg hi]

theorem getElem?_keyIndex (h : usingKey ∈ channel.getKeys rawArray) :
    (channel.getKeys rawArray)[channel.keyIndex rawArray usingKey]? = some usingKey := by
  rw [Channel.keyIndex]
  cases hi : (channel.getKeys rawArray).findIdx? (· = usingKey) with
  | none =>
    rw [findIdx?_eq_none_iff] at hi
    exact absurd (hi usingKey h) (by simp)
  | some idx =>
    obtain ⟨hl, hk, _⟩ := findIdx?_eq_some_iff_getElem.mp hi
    rw [Option.getD_some, getElem?_eq_getElem hl]
    simpa using hk

theorem keyIndex_of_not_mem (h : usingKey ∉ channel.getKeys rawArray) :
    channel.keyIndex rawArray usingKey = 0 := by
  have hn : (channel.getKeys rawArray).findIdx? (· = usingKey) = none := by
    rw [findIdx?_eq_none_iff]
    intro key hk
    simpa using fun he : key = usingKey => h (he ▸ hk)
  rw [Channel.keyIndex, hn, Option.getD_none]

end

def ChangesKey (rawArray : String → Option (List String)) (before after : Channel)
    (usingKey : String) (status : Int) : Prop :=
  ∀ (i : Nat) key, (before.getKeys rawArray)[i]? = some key →
    after.keyStatus i = if key = usingKey then status else before.keyStatus i

structure SinglePosition (rawArray : String → Option (List String)) (channel : Channel)
    (usingKey : String) (status : Int) : Prop where
  repeated : ∀ i : Nat, i ≠ channel.keyIndex rawArray usingKey →
    (channel.getKeys rawArray)[i]? = some usingKey → channel.keyStatus i = status
  unlisted : usingKey ∉ channel.getKeys rawArray → channel.getKeys rawArray ≠ [] →
    channel.keyStatus 0 = status

theorem changesKey_iff {rawArray : String → Option (List String)} {channel : Channel}
    {usingKey : String} {status : Int} :
    ChangesKey rawArray channel (handlerMultiKeyUpdate rawArray channel usingKey status) usingKey
        status ↔ SinglePosition rawArray channel usingKey status := by
  by_cases hke : channel.getKeys rawArray = []
  · have hn : ∀ (i : Nat) key, (channel.getKeys rawArray)[i]? ≠ some key := by simp [hke]
    exact iff_of_true (fun i key hk => absurd hk (hn i key))
      ⟨fun i _ hk => absurd hk (hn i _), fun _ hNe => absurd hke hNe⟩
  simp only [ChangesKey, keyStatus_handlerMultiKeyUpdate hke]
  constructor
  · intro h
    constructor
    · intro i hNe hk
      have ha := h i usingKey hk
      rw [if_neg hNe, if_pos rfl] at ha
      exact ha
    · intro hno _
      obtain ⟨first, rest, hc⟩ := exists_cons_of_ne_nil hke
      have hf := h 0 first (by rw [hc, getElem?_cons_zero])
      have ho : first ≠ usingKey := by
        rintro rfl
        exact hno (hc ▸ mem_cons_self)
      rw [if_pos (keyIndex_of_not_mem hno).symm, if_neg ho] at hf
      exact hf.symm
  · intro h i key hk
    by_cases hi : i = channel.keyIndex rawArray usingKey
    · rw [if_pos hi]
      by_cases hl : usingKey ∈ channel.getKeys rawArray
      · rw [hi, getElem?_keyIndex hl] at hk
        cases hk
        rw [if_pos rfl]
      · have ho : key ≠ usingKey := fun he => hl (he ▸ mem_of_getElem? hk)
        rw [if_neg ho, hi, keyIndex_of_not_mem hl]
        exact (h.unlisted hl hke).symm
    · rw [if_neg hi]
      by_cases he : key = usingKey
      · rw [if_pos he]
        exact h.repeated i hi (he ▸ hk)
      · rw [if_neg he]

/-! ## The cache and the row -/

/-- The maps of the two are the same, as is all else that `ChannelInfo` and the status hold. -/
structure Channel.SameInfo (channel other : Channel) : Prop where
  status : channel.status = other.status
  entries : ∀ i, channel.keyEntry i = other.keyEntry i
  info : { channel.channelInfo with multiKeyStatusList := none } =
    { other.channelInfo with multiKeyStatusList := none }

namespace KeyNotes

def reasonAt (notes : KeyNotes) (i : Nat) : Option String :=
  (notes.multiKeyDisabledReason.getD []).lookup i

def timeAt (notes : KeyNotes) (i : Nat) : Option Int :=
  (notes.multiKeyDisabledTime.getD []).lookup i

def Same (notes other : KeyNotes) : Prop :=
  ∀ i, notes.reasonAt i = other.reasonAt i ∧ notes.timeAt i = other.timeAt i

end KeyNotes

structure KeyUpdated (rawArray : String → Option (List String)) (channel : Channel)
    (call : StatusCall) (after : StatusState) : Prop where
  ofCached : ∃ cached, after.cache.channelsIDM call.channelId = some cached ∧
    ChangesKey rawArray channel cached call.usingKey call.status ∧
    (call.usingKey ∉ channel.getKeys rawArray → cached.status = channel.status) ∧
    ∃ stored, after.store.channel? call.channelId = some stored ∧ stored.SameInfo cached
  storedNotes : (after.storedNotes call.channelId).Same (after.cachedNotes call.channelId)

/-- The position of the key is the only one to change, an unknown key does not change the channel,
and the row is written or had nothing to change, at the same time as the cache. -/
structure ExactInput (rawArray : String → Option (List String)) (channel : Channel)
    (notes : KeyNotes) (call : StatusCall) : Prop where
  position : SinglePosition rawArray channel call.usingKey call.status
  unlisted : call.usingKey ∉ channel.getKeys rawArray →
    if channel.getKeys rawArray = [] then channel.status = call.status
    else channel.channelInfo.multiKeySize ≤ channel.listedAfter rawArray call.usingKey call.status →
      channel.status = statusAutoDisabled
  written : channel.status = call.status → channel.getKeys rawArray ≠ [] →
    let keyIndex := channel.keyIndex rawArray call.usingKey
    channel.keyEntry keyIndex = entryOf call.status ∧
      (channel.channelInfo.multiKeySize ≤ channel.listedAfter rawArray call.usingKey call.status →
        call.status = statusAutoDisabled) ∧
      (call.status ≠ statusEnabled → notes.reasonAt keyIndex = some call.reason ∧
        notes.timeAt keyIndex = some call.cacheTime)
  timed : channel.status ≠ call.status → channel.getKeys rawArray = [] ∨
    call.status = statusEnabled ∨ call.cacheTime = call.storeTime

section

variable {rawArray : String → Option (List String)} {s : StatusState} {call : StatusCall}
  {channel : Channel}

section

variable {notes : KeyNotes} {usingKey reason : String} {status : Int}

theorem noteDisabled_kept (h : channel.getKeys rawArray = [] ∨ status = statusEnabled) (now : Int) :
    notes.noteDisabled rawArray channel usingKey status reason now = notes := if_pos h

theorem noteDisabled_at (h : ¬(channel.getKeys rawArray = [] ∨ status = statusEnabled)) (now : Int)
    (i : Nat) :
    let after := notes.noteDisabled rawArray channel usingKey status reason now
    let keyIndex := channel.keyIndex rawArray usingKey
    after.reasonAt i = (if i = keyIndex then some reason else notes.reasonAt i) ∧
      after.timeAt i = if i = keyIndex then some now else notes.timeAt i := by
  rw [KeyNotes.noteDisabled, if_neg h]
  exact ⟨lookup_setEntry _ _ _ _, lookup_setEntry _ _ _ _⟩

theorem same_noteDisabled_iff {now : Int} :
    notes.Same (notes.noteDisabled rawArray channel usingKey status reason now) ↔
      (channel.getKeys rawArray ≠ [] → status ≠ statusEnabled →
        notes.reasonAt (channel.keyIndex rawArray usingKey) = some reason ∧
          notes.timeAt (channel.keyIndex rawArray usingKey) = some now) := by
  by_cases h : channel.getKeys rawArray = [] ∨ status = statusEnabled
  · rw [noteDisabled_kept h]
    refine iff_of_true (fun _ => ⟨rfl, rfl⟩) fun hk hs => absurd h (not_or.mpr ⟨hk, hs⟩)
  simp only [KeyNotes.Same, noteDisabled_at h]
  constructor
  · intro hs _ _
    simpa using hs (channel.keyIndex rawArray usingKey)
  intro hs i
  by_cases hi : i = channel.keyIndex rawArray usingKey
  · simpa [hi] using hs (not_or.mp h).1 (not_or.mp h).2
  · simp [hi]

theorem noteDisabled_same_iff {now now' : Int} :
    (notes.noteDisabled rawArray channel usingKey status reason now).Same
        (notes.noteDisabled rawArray channel usingKey status reason now') ↔
      channel.getKeys rawArray = [] ∨ status = statusEnabled ∨ now = now' := by
  rw [← or_assoc]
  by_cases h : channel.getKeys rawArray = [] ∨ status = statusEnabled
  · rw [noteDisabled_kept h, noteDisabled_kept h]
    exact iff_of_true (fun _ => ⟨rfl, rfl⟩) (.inl h)
  simp only [KeyNotes.Same, noteDisabled_at h, or_iff_right h]
  constructor
  · intro hs
    simpa using (hs (channel.keyIndex rawArray usingKey)).2
  · rintro rfl i
    exact ⟨trivial, rfl⟩

end

theorem status_kept_iff :
    (handlerMultiKeyUpdate rawArray channel call.usingKey call.status).status = channel.status ↔
      if channel.getKeys rawArray = [] then channel.status = call.status
      else channel.channelInfo.multiKeySize ≤ channel.listedAfter rawArray call.usingKey call.status →
        channel.status = statusAutoDisabled := by
  rw [handlerMultiKeyUpdate_status]
  split
  · exact eq_comm
  split
  · rename_i hl
    simp only [hl, true_imp_iff, eq_comm]
  · rename_i hl
    simp only [hl, false_imp_iff]

theorem sameInfo_handlerMultiKeyUpdate_iff (hs : channel.status = call.status) :
    channel.SameInfo (handlerMultiKeyUpdate rawArray channel call.usingKey call.status) ↔
      (channel.getKeys rawArray ≠ [] →
        channel.keyEntry (channel.keyIndex rawArray call.usingKey) = entryOf call.status ∧
          (channel.channelInfo.multiKeySize ≤
              channel.listedAfter rawArray call.usingKey call.status →
            call.status = statusAutoDisabled)) := by
  by_cases hk : channel.getKeys rawArray = []
  · refine iff_of_true ?_ fun hn => absurd hk hn
    rw [handlerMultiKeyUpdate, if_pos hk]
    exact ⟨hs, fun _ => rfl, rfl⟩
  have hi : { (handlerMultiKeyUpdate rawArray channel call.usingKey call.status).channelInfo with
      multiKeyStatusList := none } = { channel.channelInfo with multiKeyStatusList := none } := by
    rw [handlerMultiKeyUpdate, if_neg hk]
  have hu := @status_kept_iff rawArray call channel
  rw [if_neg hk, hs] at hu
  rw [← hu]
  constructor
  · intro h _
    have he := h.entries (channel.keyIndex rawArray call.usingKey)
    rw [keyEntry_handlerMultiKeyUpdate hk, if_pos rfl] at he
    exact ⟨he, h.status.symm.trans hs⟩
  · intro h
    obtain ⟨he, hst⟩ := h hk
    refine ⟨hs.trans hst.symm, fun i => ?_, hi.symm⟩
    rw [keyEntry_handlerMultiKeyUpdate hk]
    split
    · rename_i hi
      rw [hi, he]
    · rfl

theorem sameInfo_refl (channel : Channel) : channel.SameInfo channel := ⟨rfl, fun _ => rfl, rfl⟩

theorem StatusState.updateChannelStatus_multi (hc : s.cache.channelsIDM call.channelId = some channel)
    (hm : channel.channelInfo.isMultiKey = true) :
    s.updateChannelStatus rawArray call =
      (s.updateCachedKey rawArray channel call).updateStored rawArray call := by
  simp only [updateChannelStatus, hc, hm, if_true]

variable (rawArray) in
theorem StatusState.cached_updateCachedKey
    (hc : s.cache.channelsIDM call.channelId = some channel) :
    (s.updateCachedKey rawArray channel call).cache.channelsIDM call.channelId =
      some (handlerMultiKeyUpdate rawArray channel call.usingKey call.status) := by
  simp only [updateCachedKey, ChannelCache.updateChannel, hc, Option.map_some, if_true]

theorem StatusState.updateStored_same {s : StatusState}
    (hs : s.store.channel? call.channelId = some channel)
    (hSt : channel.status = call.status) : (s.updateStored rawArray call).2 = s := by
  simp only [updateStored, hs, hSt, if_true]

theorem ChannelStore.channel?_updateChannelStatus_multi {store : ChannelStore}
    {usingKey : String} {channelId status : Int}
    (hst : store.channel? channelId = some channel) (hs : channel.status ≠ status)
    (hm : channel.channelInfo.isMultiKey = true) :
    (store.updateChannelStatus rawArray channelId usingKey status).channel? channelId =
      some (handlerMultiKeyUpdate rawArray channel usingKey status) := by
  have hi : (handlerMultiKeyUpdate rawArray channel usingKey status).id = channelId := by
    rw [handlerMultiKeyUpdate_id]
    exact Table.key_of_find? hst
  simp only [updateChannelStatus, hst, if_neg hs, hm, if_true]
  exact Table.find?_save_of_key hst hi

variable (rawArray) in
theorem StatusState.updateStored_other {s : StatusState}
    (hs : s.store.channel? call.channelId = some channel)
    (hSt : channel.status ≠ call.status) (hm : channel.channelInfo.isMultiKey = true) :
    (s.updateStored rawArray call).2.cache = s.cache ∧
      (s.updateStored rawArray call).2.store.channel? call.channelId =
        some (handlerMultiKeyUpdate rawArray channel call.usingKey call.status) ∧
      (s.updateStored rawArray call).2.cachedNotes = s.cachedNotes ∧
      (s.updateStored rawArray call).2.storedNotes call.channelId =
        (s.storedNotes call.channelId).noteDisabled rawArray channel call.usingKey call.status
          call.reason call.storeTime := by
  simp only [updateStored, hs, if_neg hSt, hm, if_true]
  refine ⟨trivial, ChannelStore.channel?_updateChannelStatus_multi hs hSt hm, trivial, ?_⟩
  exact Function.update_self _ _ _

theorem keyUpdated_iff {after : StatusState} {stored : Channel}
    (hca : after.cache.channelsIDM call.channelId =
      some (handlerMultiKeyUpdate rawArray channel call.usingKey call.status))
    (hst : after.store.channel? call.channelId = some stored) :
    KeyUpdated rawArray channel call after ↔
      SinglePosition rawArray channel call.usingKey call.status ∧
      (call.usingKey ∉ channel.getKeys rawArray →
        (handlerMultiKeyUpdate rawArray channel call.usingKey call.status).status = channel.status) ∧
      stored.SameInfo (handlerMultiKeyUpdate rawArray channel call.usingKey call.status) ∧
      (after.storedNotes call.channelId).Same (after.cachedNotes call.channelId) := by
  constructor
  · rintro ⟨⟨cached, hf, hc, hu, row, hr, hs⟩, hn⟩
    rw [hca] at hf
    rw [hst] at hr
    cases hf
    cases hr
    exact ⟨changesKey_iff.mp hc, hu, hs, hn⟩
  · rintro ⟨hp, hu, hs, hn⟩
    exact ⟨⟨_, hca, changesKey_iff.mpr hp, hu, stored, hst, hs⟩, hn⟩

end

def threeKeysState : StatusState where
  cache :=
    { group2model2channels := fun _ _ => []
      channelsIDM := fun id => if id = 1 then some threeKeys else none
      known := fun _ _ _ h => absurd h List.not_mem_nil
      named := by
        intro id channel h
        split at h
        · rename_i hi
          cases h
          exact hi.symm
        · cases h }
  store := ⟨⟨[threeKeys], by decide⟩, .empty _⟩

def StatusState.keyStatuses (s : StatusState) (channelId : Int) (idx : Nat) : Option Int × Option Int :=
  ((s.cache.channelsIDM channelId).map (·.keyStatus idx),
    (s.store.channel? channelId).map (·.keyStatus idx))

end DeepRouter.Channels
