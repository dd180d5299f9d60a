import DeepRouter.Channels.Abilities
import DeepRouter.Channels.Cache
import DeepRouter.Library.RoundRobin
import DeepRouter.Library.Runs

/-! # Polling the keys of a channel

A call reads the polling index of the cached channel and moves that of the channel it is called on. -/

namespace DeepRouter.Channels

open RoundRobin Runs List

def multiKeyModeRandom : String := "random"

namespace Channel

def keyStatus (channel : Channel) (idx : Nat) : Int :=
  match channel.channelInfo.multiKeyStatusList with
  | none => statusEnabled
  | some statusList => (statusList.lookup idx).getD statusEnabled

def keyEnabled (channel : Channel) (idx : Nat) : Bool := channel.keyStatus idx = statusEnabled

variable (rawArray : String → Option (List String))

def enabledIdx (channel : Channel) : List Nat :=
  (List.range (channel.getKeys rawArray).length).filter channel.keyEnabled

def keyAt (channel : Channel) (idx : Nat) : String := ((channel.getKeys rawArray)[idx]?).getD ""

def pollStart (info : ChannelInfo) (size : Nat) : Nat :=
  if info.multiKeyPollingIndex < 0 ∨ info.multiKeyPollingIndex ≥ size then 0
  else info.multiKeyPollingIndex.toNat

def withPollingIndex (channel : Channel) (idx : Int) : Channel :=
  { channel with channelInfo := { channel.channelInfo with multiKeyPollingIndex := idx } }

def getNextEnabledKey (cacheGetChannelInfo : Int → Except Err ChannelInfo) (random : Nat)
    (channel : Channel) : Except Err (String × Nat) × Channel :=
  if !channel.channelInfo.isMultiKey then (.ok (channel.key, 0), channel)
  else
    let size := (channel.getKeys rawArray).length
    if size = 0 then (.error "no keys available", channel)
    else
      match channel.enabledIdx rawArray with
      | [] => (.error "no enabled keys", channel)
      | first :: rest =>
        if channel.channelInfo.multiKeyMode = multiKeyModeRandom then
          let selectedIdx := (first :: rest)[random % (first :: rest).length]?.getD first
          (.ok (channel.keyAt rawArray selectedIdx, selectedIdx), channel)
        else if channel.channelInfo.multiKeyMode = multiKeyModePolling then
          match cacheGetChannelInfo channel.id with
          | .error e => (.error e, channel)
          | .ok info =>
            match next channel.keyEnabled size (pollStart info size) with
            | some idx =>
              (.ok (channel.keyAt rawArray idx, idx), channel.withPollingIndex ((idx + 1) % size : Nat))
            | none => (.ok (channel.keyAt rawArray first, first), channel)
        else (.ok (channel.keyAt rawArray first, first), channel)

end Channel

inductive KeyCall where
  | cached (random : Nat)
  | copy (channel : Channel) (random : Nat)

def cacheGetChannelInfo (cached : Channel) (id : Int) : Except Err ChannelInfo :=
  if id = cached.id then .ok cached.channelInfo
  else .error ("渠道# " ++ toString id ++ "，已不存在")

namespace KeyCall

variable (rawArray : String → Option (List String)) (cached : Channel)

def result : KeyCall → Except Err (String × Nat)
  | .cached random => (cached.getNextEnabledKey rawArray (cacheGetChannelInfo cached) random).1
  | .copy channel random =>
    (channel.getNextEnabledKey rawArray (cacheGetChannelInfo cached) random).1

def after : KeyCall → Channel
  | .cached random => (cached.getNextEnabledKey rawArray (cacheGetChannelInfo cached) random).2
  | .copy _ _ => cached

def OnCached : KeyCall → Prop
  | .cached _ => True
  | .copy _ _ => False

end KeyCall

structure FairlyPolled (rawArray : String → Option (List String)) (channel : Channel)
    (calls : List KeyCall) : Prop where
  enabled : ∀ result ∈ outputs (KeyCall.after rawArray) (KeyCall.result rawArray) channel calls,
    ∃ idx ∈ channel.enabledIdx rawArray, ∃ key, (channel.getKeys rawArray)[idx]? = some key ∧
      result = .ok (key, idx)
  once : ∀ i, i + (channel.enabledIdx rawArray).length ≤ calls.length →
    (((outputs (KeyCall.after rawArray) (KeyCall.result rawArray) channel calls).drop i).take
        (channel.enabledIdx rawArray).length).Perm
      ((channel.enabledIdx rawArray).map fun idx => .ok (channel.keyAt rawArray idx, idx))

section

variable {rawArray : String → Option (List String)} {channel : Channel}

@[simp] theorem getKeys_withPollingIndex (index : Int) :
    (channel.withPollingIndex index).getKeys rawArray = channel.getKeys rawArray := by
  have hk : (channel.withPollingIndex index).key = channel.key := rfl
  simp only [Channel.getKeys, hk]

@[simp] theorem keyEnabled_withPollingIndex (index : Int) :
    (channel.withPollingIndex index).keyEnabled = channel.keyEnabled := rfl

@[simp] theorem keyAt_withPollingIndex (index : Int) (idx : Nat) :
    (channel.withPollingIndex index).keyAt rawArray idx = channel.keyAt rawArray idx := by
  rw [Channel.keyAt, Channel.keyAt, getKeys_withPollingIndex]

@[simp] theorem enabledIdx_withPollingIndex (index : Int) :
    (channel.withPollingIndex index).enabledIdx rawArray = channel.enabledIdx rawArray := by
  rw [Channel.enabledIdx, Channel.enabledIdx, getKeys_withPollingIndex, keyEnabled_withPollingIndex]

theorem pollStart_withPollingIndex {size start : Nat} (h : start < size) :
    Channel.pollStart (channel.withPollingIndex start).channelInfo size = start := by
  have hi : (channel.withPollingIndex start).channelInfo.multiKeyPollingIndex = start := rfl
  rw [Channel.pollStart, hi, if_neg (by omega), Int.toNat_natCast]

structure Polls (rawArray : String → Option (List String)) (channel : Channel) : Prop where
  multi : channel.channelInfo.isMultiKey = true
  mode : channel.channelInfo.multiKeyMode = multiKeyModePolling
  enabled : channel.enabledIdx rawArray ≠ []

section

variable (h : Polls rawArray channel)

include h

theorem Polls.withPollingIndex (index : Int) : Polls rawArray (channel.withPollingIndex index) :=
  ⟨h.multi, h.mode, by rw [enabledIdx_withPollingIndex]; exact h.enabled⟩

theorem Polls.size_pos : 0 < (channel.getKeys rawArray).length := by
  rw [Nat.pos_iff_ne_zero]
  intro hz
  have he := h.enabled
  rw [Channel.enabledIdx, hz] at he
  exact he rfl

theorem Polls.getNextEnabledKey (rn : Nat) :
    ∃ idx, next channel.keyEnabled (channel.getKeys rawArray).length
        (Channel.pollStart channel.channelInfo (channel.getKeys rawArray).length) = some idx ∧
      channel.getNextEnabledKey rawArray (cacheGetChannelInfo channel) rn =
        (.ok (channel.keyAt rawArray idx, idx),
          channel.withPollingIndex ((idx + 1) % (channel.getKeys rawArray).length : Nat)) := by
  obtain ⟨idx, hn⟩ := exists_next h.enabled
    (Channel.pollStart channel.channelInfo (channel.getKeys rawArray).length)
  have hs := h.size_pos.ne'
  obtain ⟨first, rest, he⟩ := exists_cons_of_ne_nil h.enabled
  have hm : multiKeyModePolling ≠ multiKeyModeRandom := by decide
  refine ⟨idx, hn, ?_⟩
  simp [Channel.getNextEnabledKey, h.multi, hs, he, h.mode, hm, cacheGetChannelInfo, hn]

theorem Polls.outputs_eq {calls : List KeyCall} (hc : ∀ call ∈ calls, call.OnCached) :
    outputs (KeyCall.after rawArray) (KeyCall.result rawArray) channel calls =
      (serve channel.keyEnabled (channel.getKeys rawArray).length calls.length
          (Channel.pollStart channel.channelInfo (channel.getKeys rawArray).length)).map
        fun idx => .ok (channel.keyAt rawArray idx, idx) := by
  induction calls generalizing channel with
  | nil => rfl
  | cons call calls ih =>
    obtain ⟨hca, hre⟩ := forall_mem_cons.mp hc
    cases call with
    | copy _ _ => exact absurd hca id
    | cached random =>
      obtain ⟨idx, hn, hret⟩ := h.getNextEnabledKey random
      have hs : (idx + 1) % (channel.getKeys rawArray).length <
          (channel.getKeys rawArray).length := Nat.mod_lt _ h.size_pos
      have hr := ih (h.withPollingIndex ((idx + 1) % (channel.getKeys rawArray).length : Nat)) hre
      simp only [getKeys_withPollingIndex, keyEnabled_withPollingIndex, keyAt_withPollingIndex,
        pollStart_withPollingIndex hs] at hr
      rw [outputs, length_cons, serve, hn]
      dsimp only
      rw [map_cons, KeyCall.result, KeyCall.after, hret, ← hr]

theorem Polls.run_cached {calls : List KeyCall} (hc : ∀ call ∈ calls, call.OnCached) :
    ∃ index, run (KeyCall.after rawArray) channel calls = channel.withPollingIndex index := by
  induction calls generalizing channel with
  | nil => exact ⟨channel.channelInfo.multiKeyPollingIndex, rfl⟩
  | cons call calls ih =>
    obtain ⟨hca, hr⟩ := forall_mem_cons.mp hc
    cases call with
    | copy _ _ => exact absurd hca id
    | cached random =>
      obtain ⟨idx, _, hre⟩ := h.getNextEnabledKey random
      obtain ⟨index, hru⟩ := ih (h.withPollingIndex _) hr
      refine ⟨index, ?_⟩
      rw [run_cons, KeyCall.after, hre, hru]
      rfl

end

/-- Calls on the channel of the cache poll its enabled keys fairly, from any polling index. -/
theorem polling_round_robin (h : Polls rawArray channel) (calls : List KeyCall)
    (hCalls : ∀ call ∈ calls, call.OnCached) : FairlyPolled rawArray channel calls := by
  constructor
  · intro result hm
    rw [h.outputs_eq hCalls] at hm
    obtain ⟨idx, hs, rfl⟩ := mem_map.mp hm
    have he : idx ∈ channel.enabledIdx rawArray := mem_serve hs
    have hr : idx < (channel.getKeys rawArray).length := mem_range.mp (mem_filter.mp he).1
    refine ⟨idx, he, _, getElem?_eq_getElem hr, ?_⟩
    rw [Channel.keyAt, getElem?_eq_getElem hr, Option.getD_some]
  · intro i hw
    -- the window is a run of its own from the index that the earlier calls leave
    rw [drop_outputs, take_outputs]
    obtain ⟨index, hb⟩ := h.run_cached fun call hm => hCalls call (mem_of_mem_take hm)
    have hl : ((calls.drop i).take (channel.enabledIdx rawArray).length).length =
        (channel.enabledIdx rawArray).length := by
      rw [length_take, length_drop]
      omega
    have hc : ∀ call ∈ (calls.drop i).take (channel.enabledIdx rawArray).length,
        call.OnCached := fun call hm => hCalls call (mem_of_mem_drop (mem_of_mem_take hm))
    rw [hb, (h.withPollingIndex index).outputs_eq hc, hl]
    simp only [getKeys_withPollingIndex, keyEnabled_withPollingIndex, keyAt_withPollingIndex]
    exact (serve_perm _ _ _).map _

end

def noArray : String → Option (List String) := fun _ => none

def threeKeys : Channel :=
  { id := 1, status := 1, key := "sk-a\nsk-b\nsk-c"
    channelInfo := { isMultiKey := true, multiKeySize := 3, multiKeyStatusList := some [(1, 2)]
                     multiKeyPollingIndex := 7, multiKeyMode := "polling" } }

theorem polling_round_robin_threeKeys :
    FairlyPolled noArray threeKeys [.cached 0, .cached 0, .cached 0] :=
  polling_round_robin ⟨rfl, rfl, by decide +kernel⟩ _ (by simp [KeyCall.OnCached])

theorem copies_poll_one_key :
    ¬FairlyPolled noArray threeKeys [.copy threeKeys 0, .copy threeKeys 0] := by
  intro h
  have hw := h.once 0 (by decide +kernel)
  have hn := hw.nodup_iff.mpr (by decide +kernel)
  exact absurd hn (by decide +kernel)

end DeepRouter.Channels
