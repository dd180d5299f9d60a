import DeepRouter.Library.GoStrings
import DeepRouter.Library.KeyedTable

/-! # Channels and abilities

The columns are those that the selection and the maintenance read. -/

namespace DeepRouter.Channels

open GoStrings KeyedTable

def statusEnabled : Int := 1

def statusManuallyDisabled : Int := 2

def statusAutoDisabled : Int := 3

structure ChannelInfo where
  isMultiKey : Bool := false
  multiKeySize : Nat := 0
  multiKeyStatusList : Option (List (Nat × Int)) := none
  multiKeyPollingIndex : Int := 0
  multiKeyMode : String := ""
deriving DecidableEq

structure Channel where
  id : Int
  type : Int := 0
  key : String := ""
  status : Int := 0
  weight : Option Nat := none
  (models group : String := "")
  priority : Option Int := none
  tag : Option String := none
  channelInfo : ChannelInfo := {}
deriving DecidableEq

namespace Channel

def getPriority (channel : Channel) : Int := channel.priority.getD 0

def getWeight (channel : Channel) : Nat := channel.weight.getD 0

def modelList (channel : Channel) : List String := split channel.models ','

def groupList (channel : Channel) : List String := split channel.group ','

end Channel

structure Ability where
  (group model : String)
  channelId : Int
  enabled : Bool
  priority : Option Int
  weight : Nat
  tag : Option String
deriving DecidableEq

namespace Ability

def key (ability : Ability) : String × String × Int :=
  (ability.group, ability.model, ability.channelId)

def getPriority (ability : Ability) : Int := ability.priority.getD 0

end Ability

structure ChannelStore where
  channels : Table Channel.id
  abilities : Table Ability.key

namespace ChannelStore

def empty : ChannelStore := ⟨.empty _, .empty _⟩

def channel? (store : ChannelStore) (id : Int) : Option Channel := store.channels.find? id

def ability? (store : ChannelStore) (group model : String) (id : Int) : Option Ability :=
  store.abilities.find? (group, model, id)

end ChannelStore

end DeepRouter.Channels
