import DeepRouter.Channels.Schema

/-! # Maintenance of the channels and their abilities

The memory cache is off. -/

namespace DeepRouter.Channels

open GoStrings KeyedTable

namespace Channel

def ability (channel : Channel) (group model : String) : Ability :=
  { group, model, channelId := channel.id
    enabled := channel.status = statusEnabled
    priority := some channel.getPriority
    weight := channel.getWeight
    tag := channel.tag }

def collectAbilities (channel : Channel) : List (String × String) → List String → List Ability
  | [], _ => []
  | (model, group) :: pairs, abilitySet =>
    let key := group ++ "|" ++ model
    if key ∈ abilitySet then channel.collectAbilities pairs abilitySet
    else channel.ability group model :: channel.collectAbilities pairs (key :: abilitySet)

def listedAbilities (channel : Channel) : List Ability :=
  channel.collectAbilities
    (channel.modelList.flatMap fun model => channel.groupList.map fun group => (model, group)) []

def withDefaults (channel : Channel) : Channel :=
  { channel with
    status := if channel.status = 0 then 1 else channel.status
    group := if channel.group = "" then "default" else channel.group
    weight := some channel.getWeight
    priority := some channel.getPriority }

def updatedBy (row channel : Channel) : Channel :=
  { row with
    type := if channel.type = 0 then row.type else channel.type
    key := if channel.key = "" then row.key else channel.key
    status := if channel.status = 0 then row.status else channel.status
    weight := channel.weight.or row.weight
    models := if channel.models = "" then row.models else channel.models
    group := if channel.group = "" then row.group else channel.group
    priority := channel.priority.or row.priority
    tag := channel.tag.or row.tag
    channelInfo := if channel.channelInfo = {} then row.channelInfo else channel.channelInfo }

end Channel

section

-- the elements of a key text that is a JSON array
variable (rawArray : String → Option (List String))

def trimNewlines (s : String) : String :=
  String.ofList ((s.toList.dropWhile (· = '\n')).rdropWhile (· = '\n'))

def Channel.getKeys (channel : Channel) : List String :=
  if channel.key = "" then []
  else
    match if hasPrefix (trimSpace channel.key) "[" then rawArray (trimSpace channel.key) else none with
    | some keys => keys
    | none => split (trimNewlines channel.key) '\n'

def countedKeys (keyStr : String) : List String :=
  if keyStr = "" then []
  else
    match if hasPrefix (trimSpace keyStr) "[" then rawArray (trimSpace keyStr) else none with
    | some (key :: keys) => key :: keys
    | _ => split (trimNewlines keyStr) '\n'

def Channel.resized (existing : Option Channel) (channel : Channel) : Channel :=
  if channel.channelInfo.isMultiKey then
    let keyStr := if channel.key = "" then (existing.map Channel.key).getD "" else channel.key
    let multiKeySize := (countedKeys rawArray keyStr).length
    { channel with channelInfo := { channel.channelInfo with
        multiKeySize
        multiKeyStatusList := channel.channelInfo.multiKeyStatusList.map fun list =>
          list.filter fun entry => entry.1 < multiKeySize } }
  else channel

def handlerMultiKeyUpdate (channel : Channel) (usingKey : String) (status : Int) : Channel :=
  let keys := channel.getKeys rawArray
  if keys = [] then { channel with status }
  else
    -- a key that is not listed counts as the first one
    let keyIndex := (keys.findIdx? (· = usingKey)).getD 0
    let list := (channel.channelInfo.multiKeyStatusList.getD []).filter (·.1 ≠ keyIndex)
    let list := if status = statusEnabled then list else list ++ [(keyIndex, status)]
    { channel with
      channelInfo := { channel.channelInfo with multiKeyStatusList := some list }
      status := if channel.channelInfo.multiKeySize ≤ list.length then statusAutoDisabled
        else channel.status }

def Channel.keyIndex (channel : Channel) (usingKey : String) : Nat :=
  ((channel.getKeys rawArray).findIdx? (· = usingKey)).getD 0

/-- The length of the status list once the entry of the key is set or deleted. -/
def Channel.listedAfter (channel : Channel) (usingKey : String) (status : Int) : Nat :=
  ((channel.channelInfo.multiKeyStatusList.getD []).filter
      (·.1 ≠ channel.keyIndex rawArray usingKey)).length +
    if status = statusEnabled then 0 else 1

theorem handlerMultiKeyUpdate_status (channel : Channel) (usingKey : String) (status : Int) :
    (handlerMultiKeyUpdate rawArray channel usingKey status).status =
      if channel.getKeys rawArray = [] then status
      else if channel.channelInfo.multiKeySize ≤ channel.listedAfter rawArray usingKey status then
        statusAutoDisabled
      else channel.status := by
  rw [handlerMultiKeyUpdate, Channel.listedAfter]
  split
  · rfl
  by_cases he : status = statusEnabled
  · simp only [he, if_true, Nat.add_zero]
    rfl
  · simp only [he, if_false, List.length_append, List.length_singleton]
    rfl

end

namespace ChannelStore

def addAbilities (channel : Channel) (abilities : Table Ability.key) : Table Ability.key :=
  abilities.insertMissing channel.listedAbilities

def deleteAbilities (id : Int) (abilities : Table Ability.key) : Table Ability.key :=
  abilities.keep fun ability => ability.channelId ≠ id

def updateAbilities (abilities : Table Ability.key) (channel : Channel) : Table Ability.key :=
  addAbilities channel (deleteAbilities channel.id abilities)

def updateAbilityStatus (channelId : Int) (status : Bool) (abilities : Table Ability.key) :
    Table Ability.key :=
  abilities.mapRows (fun ability =>
    if ability.channelId = channelId then { ability with enabled := status } else ability) (by
    intro ability
    split <;> rfl)

def updateAbilitiesByTag (tag : String) (f : Ability → Ability)
    (hf : ∀ ability, (f ability).key = ability.key) (abilities : Table Ability.key) :
    Table Ability.key :=
  abilities.mapRows (fun ability => if ability.tag = some tag then f ability else ability) (by
    intro ability
    split
    · exact hf ability
    · rfl)

def updateAbilityStatusByTag (tag : String) (status : Bool) (abilities : Table Ability.key) :
    Table Ability.key :=
  updateAbilitiesByTag tag (fun ability => { ability with enabled := status }) (fun _ => rfl) abilities

def updateAbilityByTag (tag : String) (newTag : Option String) (priority : Option Int)
    (weight : Option Nat) (abilities : Table Ability.key) : Table Ability.key :=
  updateAbilitiesByTag tag (fun ability => { ability with
    tag := newTag.or ability.tag
    priority := priority.or ability.priority
    weight := if weight.getD 0 = 0 then ability.weight else weight.getD 0 }) (fun _ => rfl) abilities

def updateChannelsByTag (tag : String) (f : Channel → Channel)
    (hf : ∀ channel, (f channel).id = channel.id) (channels : Table Channel.id) : Table Channel.id :=
  channels.mapRows (fun channel => if channel.tag = some tag then f channel else channel) (by
    intro channel
    split
    · exact hf channel
    · rfl)

variable (store : ChannelStore)

def insert (channel : Channel) : ChannelStore :=
  let channel := channel.withDefaults
  if channel.id = 0 then store
  else
    match store.channels.insert? channel with
    | some channels => ⟨channels, addAbilities channel store.abilities⟩
    | none => store

def update (rawArray : String → Option (List String)) (channel : Channel) : ChannelStore :=
  -- without an id there is no condition to update by, which is refused
  if channel.id = 0 then store
  else
    let existing := store.channel? channel.id
    let channel := channel.resized rawArray existing
    match existing with
    | some row =>
      let row := row.updatedBy channel
      ⟨store.channels.save row, updateAbilities store.abilities row⟩
    | none => { store with abilities := updateAbilities store.abilities channel }

def delete (id : Int) : ChannelStore :=
  if id = 0 then store
  else ⟨store.channels.keep fun channel => channel.id ≠ id, deleteAbilities id store.abilities⟩

def updateChannelStatus (rawArray : String → Option (List String)) (channelId : Int)
    (usingKey : String) (status : Int) : ChannelStore :=
  match store.channel? channelId with
  | none => store
  | some channel =>
    if channel.status = status then store
    else
      let updated := if channel.channelInfo.isMultiKey then
          handlerMultiKeyUpdate rawArray channel usingKey status
        else { channel with status }
      let shouldUpdateAbilities := !channel.channelInfo.isMultiKey || updated.status ≠ channel.status
      { channels := store.channels.save updated
        abilities := if shouldUpdateAbilities then
            updateAbilityStatus channelId (status = statusEnabled) store.abilities
          else store.abilities }

def enableChannelByTag (tag : String) : ChannelStore :=
  { channels := updateChannelsByTag tag (fun channel => { channel with status := statusEnabled })
      (fun _ => rfl) store.channels
    abilities := updateAbilityStatusByTag tag true store.abilities }

def disableChannelByTag (tag : String) : ChannelStore :=
  { channels := updateChannelsByTag tag
      (fun channel => { channel with status := statusManuallyDisabled }) (fun _ => rfl) store.channels
    abilities := updateAbilityStatusByTag tag false store.abilities }

structure TagEdit where
  (newTag models group : Option String := none)
  priority : Option Int := none
  weight : Option Nat := none

def TagEdit.shouldReCreateAbilities (edit : TagEdit) : Bool :=
  edit.models.getD "" ≠ "" || edit.group.getD "" ≠ ""

def TagEdit.apply (edit : TagEdit) (channel : Channel) : Channel :=
  { channel with
    -- a new tag that is the old one is not written, which is the same
    tag := edit.newTag.or channel.tag
    models := if edit.models.getD "" = "" then channel.models else edit.models.getD ""
    group := if edit.group.getD "" = "" then channel.group else edit.group.getD ""
    priority := edit.priority.or channel.priority
    weight := edit.weight.or channel.weight }

def editChannelByTag (tag : String) (edit : TagEdit) : ChannelStore :=
  let channels := updateChannelsByTag tag edit.apply (fun _ => rfl) store.channels
  { channels
    abilities := if edit.shouldReCreateAbilities then
        (channels.rows.filter (·.tag = some (edit.newTag.getD tag))).foldl updateAbilities
          store.abilities
      else updateAbilityByTag tag edit.newTag edit.priority edit.weight store.abilities }

def batchSetChannelTag (ids : List Int) (tag : Option String) : ChannelStore :=
  { channels := store.channels.mapRows (fun channel =>
      if channel.id ∈ ids then { channel with tag } else channel) (by
      intro channel
      split <;> rfl)
    abilities := (store.channels.rows.filter (·.id ∈ ids)).foldl updateAbilities store.abilities }

def deleteDisabledChannel : ChannelStore :=
  { store with channels := store.channels.keep fun channel =>
      ¬(channel.status = statusAutoDisabled ∨ channel.status = statusManuallyDisabled) }

def fixAbility : ChannelStore :=
  { store with abilities :=
      store.channels.rows.foldl (fun abilities channel => addAbilities channel abilities) (.empty _) }

end ChannelStore

inductive ChannelOp where
  | insert (channel : Channel)
  | update (channel : Channel)
  | delete (id : Int)
  | updateChannelStatus (channelId : Int) (usingKey : String) (status : Int)
  | enableChannelByTag (tag : String)
  | disableChannelByTag (tag : String)
  | editChannelByTag (tag : String) (edit : ChannelStore.TagEdit)
  | batchSetChannelTag (ids : List Int) (tag : Option String)
  | deleteDisabledChannel
  | fixAbility

def ChannelStore.step (rawArray : String → Option (List String)) (store : ChannelStore) :
    ChannelOp → ChannelStore
  | .insert channel => store.insert channel
  | .update channel => store.update rawArray channel
  | .delete id => store.delete id
  | .updateChannelStatus channelId usingKey status =>
    store.updateChannelStatus rawArray channelId usingKey status
  | .enableChannelByTag tag => store.enableChannelByTag tag
  | .disableChannelByTag tag => store.disableChannelByTag tag
  | .editChannelByTag tag edit => store.editChannelByTag tag edit
  | .batchSetChannelTag ids tag => store.batchSetChannelTag ids tag
  | .deleteDisabledChannel => store.deleteDisabledChannel
  | .fixAbility => store.fixAbility

end DeepRouter.Channels
