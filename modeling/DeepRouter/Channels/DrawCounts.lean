import DeepRouter.Channels.Selection
import DeepRouter.Library.MachineInt
import Mathlib.Algebra.BigOperators.Group.Finset.Basic
import Mathlib.Algebra.Order.BigOperators.Group.List
import Mathlib.Algebra.Order.Group.Nat

/-! # How often a channel is drawn -/

namespace DeepRouter.Channels

open WeightedChoice MachineInt

namespace ChannelCache

section

variable (cache : ChannelCache) (group model : String)

def candidates : List Channel := (cache.channelIds group model).filterMap cache.channelsIDM

def tier (retry : Int) : List Channel :=
  level Channel.getPriority (cache.candidates group model) retry.toNat

def effectiveWeight (channels : List Channel) (channel : Channel) : Nat :=
  if ∀ other ∈ channels, other.getWeight = 0 then 100
  else channel.getWeight *
    (if (channels.map Channel.getWeight).sum / channels.length < 10 then 100 else 1)

def drawsFor (retry : Int) (channel : Channel) : Nat :=
  Nat.count (fun drawn =>
      cache.getRandomSatisfiedChannel drawn group model retry = .ok (some channel))
    (smoothing (cache.tier group model retry)).totalWeight

end

theorem effective_eq {chs : List Channel} {channel : Channel} (hm : channel ∈ chs) :
    (smoothing chs).effective channel = effectiveWeight chs channel := by
  have hz : (chs.map Channel.getWeight).sum = 0 ↔ ∀ other ∈ chs, other.getWeight = 0 := by
    rw [List.sum_eq_zero_iff_forall_eq_nat, List.forall_mem_map]
  rw [effectiveWeight, Smoothing.effective, smoothing]
  by_cases hsu : (chs.map Channel.getWeight).sum = 0
  · have ha := hz.mp hsu
    simp only [if_pos hsu, if_pos ha, ha channel hm]
  · have hs := mt hz.mpr hsu
    simp only [if_neg hsu, if_neg hs]
    split <;> rfl

section

variable {cache : ChannelCache} {group model : String} {retry : Int}

theorem getRandomSatisfiedChannel_eq (hr : 0 ≤ retry) (h : cache.candidates group model ≠ [])
    (rn : Nat) : cache.getRandomSatisfiedChannel rn group model retry =
      chooseByWeight rn (cache.tier group model retry) := by
  obtain ⟨priority, hp⟩ : ∃ priority, clamped (distinctDesc
      ((cache.candidates group model).map Channel.getPriority)) retry.toNat = some priority :=
    clamped_of_ne_nil h _
  have hti : cache.tier group model retry ≠ [] := level_ne_nil h _
  have hlo := mapM_load_eq fun id hm => known_channelIds cache group model hm
  rw [getRandomSatisfiedChannel]
  split
  · rename_i hi
    rw [candidates, hi] at h
    exact absurd rfl h
  · rename_i id hi
    have hl : id ∈ cache.channelIds group model := by simp [hi]
    obtain ⟨channel, hf⟩ := known_channelIds cache group model hl
    have ho : cache.candidates group model = [channel] := by simp [candidates, hi, hf]
    have hs : ∀ other ∈ cache.tier group model retry, other = channel := by
      intro other hm
      simpa [ho] using (List.mem_filter.mp hm).1
    obtain ⟨chosen, hc, hOk⟩ := chooseByWeight_ok rn hti
    rw [hOk, hs chosen hc, load, hf]
    rfl
  · rw [hlo]
    have ht := hp
    rw [candidates] at ht
    simp only [bind, Except.bind, priorityAt_of_nonneg hr, ht]
    rw [tier, level_eq hp] at hti ⊢
    simp only [candidates] at hti ⊢
    rw [if_neg hti]

theorem drawsFor_eq (hr : 0 ≤ retry) (h : cache.candidates group model ≠ []) {channel : Channel}
    (hm : channel ∈ cache.tier group model retry) :
    cache.drawsFor group model retry channel =
      (cache.tier group model retry).count channel *
        effectiveWeight (cache.tier group model retry) channel := by
  obtain ⟨ht, _⟩ := smoothing_total (cache.tier group model retry)
  rw [← effective_eq hm, ← draws_eq, drawsFor, draws, ht]
  apply count_congr
  intro drawn hd
  rw [getRandomSatisfiedChannel_eq hr h, chooseByWeight, Nat.mod_eq_of_lt hd]
  cases choose (smoothing (cache.tier group model retry)).effective (-1)
    (cache.tier group model retry) drawn with
  | none => simp
  | some chosen => simp

end

def DrawnExactly (cache : ChannelCache) (group model : String) (retry : Int) : Prop :=
  let tier := cache.tier group model retry
  (∀ channel ∈ tier, cache.drawsFor group model retry channel = effectiveWeight tier channel) ∧
    ∑ channel ∈ tier.toFinset, effectiveWeight tier channel = (smoothing tier).totalWeight

def ListedOnce (tier : List Channel) : Prop :=
  ∀ channel ∈ tier, effectiveWeight tier channel ≠ 0 → tier.count channel = 1
deriving Decidable

theorem sum_effectiveWeight (tier : List Channel) :
    ∑ channel ∈ tier.toFinset, tier.count channel * effectiveWeight tier channel =
      (smoothing tier).totalWeight := by
  rw [← (smoothing_total tier).1, List.map_congr_left fun _ hm => effective_eq hm,
    Finset.sum_list_map_count]
  rfl

theorem drawnExactly_iff {cache : ChannelCache} {group model : String} {retry : Int}
    (hr : 0 ≤ retry) (h : cache.candidates group model ≠ []) :
    cache.DrawnExactly group model retry ↔ ListedOnce (cache.tier group model retry) := by
  constructor
  · rintro ⟨hd, _⟩ channel hm hw
    have hc := hd channel hm
    rw [drawsFor_eq hr h hm] at hc
    exact Nat.eq_of_mul_eq_mul_right (Nat.pos_of_ne_zero hw) (by rw [hc, Nat.one_mul])
  · intro ho
    have he : ∀ channel ∈ cache.tier group model retry,
        (cache.tier group model retry).count channel *
          effectiveWeight (cache.tier group model retry) channel =
            effectiveWeight (cache.tier group model retry) channel := by
      intro channel hm
      by_cases hw : effectiveWeight (cache.tier group model retry) channel = 0
      · rw [hw, Nat.mul_zero]
      · rw [ho channel hm hw, Nat.one_mul]
    refine ⟨fun channel hm => (drawsFor_eq hr h hm).trans (he channel hm), ?_⟩
    rw [← sum_effectiveWeight]
    exact Finset.sum_congr rfl fun channel hm =>
      (he channel (List.mem_toFinset.mp hm)).symm

/-- The channels are drawn by their weights exactly when none of them is listed twice. -/
theorem cached_draws_exact (cache : ChannelCache) (group model : String) {retry : Int}
    (hRetry : 0 ≤ retry) (h : cache.candidates group model ≠ []) :
    (∀ random, ∃ channel ∈ cache.tier group model retry,
      cache.getRandomSatisfiedChannel random group model retry = .ok (some channel)) ∧
    (cache.DrawnExactly group model retry ↔ ListedOnce (cache.tier group model retry)) := by
  refine ⟨fun random => ?_, drawnExactly_iff hRetry h⟩
  rw [getRandomSatisfiedChannel_eq hRetry h]
  exact chooseByWeight_ok random (level_ne_nil h _)

def weighedChannels : KeyedTable.Table Channel.id :=
  ⟨[{ id := 1, status := 1, weight := some 3, models := "gpt-4o", group := "default" },
    { id := 2, status := 1, weight := some 1, models := "gpt-4o", group := "default" },
    { id := 3, status := 1, weight := some 7, models := "gpt-4o", group := "default",
      priority := some (-1) }], by decide⟩

theorem cached_draws_exact_weighed :
    (initChannelCache weighedChannels).DrawnExactly "default" "gpt-4o" 0 := by
  refine (cached_draws_exact (initChannelCache weighedChannels) "default" "gpt-4o" (Int.le_refl 0)
    ?_).2.mpr ?_
  · decide +kernel
  · decide +kernel

def repeatedChannels : KeyedTable.Table Channel.id :=
  ⟨[{ id := 1, status := 1, weight := some 10, models := "gpt-4o,gpt-4o", group := "default" },
    { id := 2, status := 1, weight := some 10, models := "gpt-4o", group := "default" }], by decide⟩

theorem repeated_model_drawn_twice_as_often :
    ¬(initChannelCache repeatedChannels).DrawnExactly "default" "gpt-4o" 0 := by
  rintro ⟨hd, _⟩
  have hf := hd
    { id := 1, status := 1, weight := some 10, models := "gpt-4o,gpt-4o", group := "default" }
    (by decide +kernel)
  exact absurd hf (by decide +kernel)

end ChannelCache

namespace ChannelStore

def weightSum (abilities : List Ability) : UInt64 :=
  abilities.foldl (fun sum ability => sum + (UInt64.ofNat ability.weight + 10)) 0

def walkAbilities : List Ability → Int64 → Option Ability
  | [], _ => none
  | ability :: abilities, weight =>
    let weight := weight - ((UInt64.ofNat ability.weight).toInt64 + 10)
    if weight ≤ 0 then some ability else walkAbilities abilities weight

def selectAbility (random : Nat) (abilities : List Ability) : Except Err (Option Ability) :=
  let bound := (weightSum abilities).toInt64
  if bound ≤ 0 then .error "invalid argument to Intn"
  else .ok (walkAbilities abilities (Int64.ofInt (random % bound.toInt)))

def totalWeight (abilities : List Ability) : Nat :=
  (abilities.map fun ability => ability.weight + 10).sum

section

variable {abilities : List Ability}

theorem toInt64_weight (ab : Ability) :
    (UInt64.ofNat ab.weight).toInt64 + 10 = Int64.ofNat (ab.weight + 10) := by
  rw [Int64.ofNat_add]
  rfl

theorem toInt64_weightSum (abilities : List Ability) :
    (weightSum abilities).toInt64 = Int64.ofNat (totalWeight abilities) := by
  suffices h : ∀ sum : UInt64, (abilities.foldl (fun sum ability =>
      sum + (UInt64.ofNat ability.weight + 10)) sum).toInt64 =
        sum.toInt64 + Int64.ofNat (totalWeight abilities) by
    rw [weightSum, h, show (0 : UInt64).toInt64 = 0 from rfl, Int64.zero_add]
  induction abilities with
  | nil => exact fun sum => (Int64.add_zero _).symm
  | cons ability abilities ih =>
    intro sum
    have ht : totalWeight (ability :: abilities) =
        ability.weight + 10 + totalWeight abilities := rfl
    rw [List.foldl_cons, ih, ht, Int64.ofNat_add, UInt64.toInt64_add, UInt64.toInt64_add,
      ← toInt64_weight, Int64.add_assoc]
    rfl

theorem weight_le_totalWeight {ab : Ability} (h : ab ∈ abilities) :
    ab.weight + 10 ≤ totalWeight abilities :=
  List.le_sum_of_mem (List.mem_map_of_mem h)

theorem walkAbilities_eq
    (h : ∀ ability ∈ abilities, ((ability.weight + 10 : Nat) : Int) ≤ Int64.maxValue.toInt)
    {weight : Int64} (hw : 0 ≤ weight) :
    walkAbilities abilities weight =
      choose (fun ability => ability.weight + 10) 0 abilities weight.toInt := by
  induction abilities generalizing weight with
  | nil => rfl
  | cons ability abilities ih =>
    have hl : (weight - Int64.ofNat (ability.weight + 10)).toInt =
        weight.toInt - ((ability.weight + 10 : Nat) : Int) := by
      have hi := toInt_ofNat_of_le (h ability List.mem_cons_self)
      rw [toInt_sub_of_nonneg hw (nonneg_iff.mpr (by omega)), hi]
    rw [walkAbilities, choose, toInt64_weight, ← hl]
    by_cases hs : weight - Int64.ofNat (ability.weight + 10) ≤ 0
    · rw [if_pos hs, if_pos (nonpos_iff.mp hs)]
    rw [if_neg hs, if_neg (mt nonpos_iff.mpr hs)]
    apply ih fun other hm => h other (List.mem_cons_of_mem _ hm)
    rw [nonpos_iff] at hs
    rw [nonneg_iff]
    omega

theorem selectAbility_eq (hs : abilities ≠ [])
    (h : (totalWeight abilities : Int) ≤ Int64.maxValue.toInt) (rn : Nat) :
    selectAbility rn abilities = .ok (chooseAbility rn abilities) := by
  have hi := toInt_ofNat_of_le h
  obtain ⟨ability, hm⟩ := List.exists_mem_of_ne_nil abilities hs
  have hp := weight_le_totalWeight hm
  have hd : rn % totalWeight abilities < totalWeight abilities := Nat.mod_lt _ (by omega)
  have hb : ¬ Int64.ofNat (totalWeight abilities) ≤ 0 := by
    rw [nonpos_iff, hi]
    omega
  rw [selectAbility, toInt64_weightSum, if_neg hb, hi, ← Int.natCast_emod]
  have hw : (Int64.ofInt ((rn % totalWeight abilities : Nat) : Int)).toInt =
      ((rn % totalWeight abilities : Nat) : Int) := toInt_ofNat_of_le (by omega)
  rw [walkAbilities_eq _ (nonneg_iff.mpr (by omega)), hw]
  · rfl
  · intro other ho
    have hl := weight_le_totalWeight ho
    omega

theorem queryAbilities_nodup (store : ChannelStore) (group model : String) (pr : Option Int) :
    (store.queryAbilities group model pr).Nodup := by
  have hr : store.abilities.rows.Nodup := List.Nodup.of_map _ store.abilities.nodup
  exact (List.perm_insertionSort _ _).nodup_iff.mpr ((hr.filter _).filter _)

def DrawnExactly (abilities : List Ability) : Prop :=
  (weightSum abilities).toInt64.toInt = totalWeight abilities ∧
    (∀ random, ∃ ability ∈ abilities, selectAbility random abilities = .ok (some ability)) ∧
    ∀ ability ∈ abilities, Nat.count (fun drawn =>
        selectAbility drawn abilities = .ok (some ability)) (totalWeight abilities) =
      ability.weight + 10

theorem count_selectAbility {first last : Ability} (hn : abilities.Nodup)
    (h : (totalWeight abilities : Int) ≤ Int64.maxValue.toInt)
    (hf : abilities.head? = some first) (hl : abilities.getLast? = some last)
    {ab : Ability} (hm : ab ∈ abilities) :
    Nat.count (fun drawn => selectAbility drawn abilities = .ok (some ab))
        (totalWeight abilities) + (if last = ab then 1 else 0) =
      ab.weight + 10 + (if first = ab then 1 else 0) := by
  have hd : draws (fun ab => ab.weight + 10) 0 abilities (totalWeight abilities) ab +
      (if last = ab then 1 else 0) = _ :=
    draws_zero first abilities last ab hl hf (by omega)
  rw [List.count_eq_one_of_mem hn hm, Nat.one_mul] at hd
  rw [← hd, draws]
  congr 1
  apply count_congr
  intro drawn hdr
  rw [selectAbility_eq (List.ne_nil_of_mem hm) h, chooseAbility,
    Nat.mod_eq_of_lt (show drawn < (abilities.map fun ab => ab.weight + 10).sum from hdr)]
  simp

theorem ability_draws_exact (store : ChannelStore) (group model : String) (priority : Option Int)
    {abilities : List Ability} (hRows : abilities.Perm (store.queryAbilities group model priority))
    (hSome : abilities ≠ []) :
    DrawnExactly abilities ↔
      abilities.length = 1 ∧ (totalWeight abilities : Int) ≤ Int64.maxValue.toInt := by
  have hn : abilities.Nodup := hRows.nodup_iff.mpr (queryAbilities_nodup store group model priority)
  obtain ⟨first, rest, rfl⟩ := List.exists_cons_of_ne_nil hSome
  obtain ⟨last, hl⟩ : ∃ last, (first :: rest).getLast? = some last :=
    ⟨_, List.getLast?_eq_getLast_of_ne_nil hSome⟩
  constructor
  · rintro ⟨hb, _, hd⟩
    have hf : (totalWeight (first :: rest) : Int) ≤ Int64.maxValue.toInt := by
      rw [← hb]
      exact Int64.toInt_le _
    have hcn := count_selectAbility hn hf rfl hl List.mem_cons_self
    rw [hd first List.mem_cons_self, if_pos rfl] at hcn
    have hs : last = first := by
      by_contra ho
      rw [if_neg ho] at hcn
      omega
    refine ⟨?_, hf⟩
    -- the last ability is the first one, so no other follows it
    cases rest with
    | nil => rfl
    | cons second rest =>
      rw [List.getLast?_cons_cons] at hl
      exact absurd (hs ▸ List.mem_of_getLast? hl) (List.nodup_cons.mp hn).1
  · rintro ⟨hon, hf⟩
    obtain rfl : rest = [] := List.eq_nil_of_length_eq_zero (by simpa using hon)
    refine ⟨by rw [toInt64_weightSum, toInt_ofNat_of_le hf], fun random => ?_, fun ability hm => ?_⟩
    · obtain ⟨ability, hm, hc⟩ := chooseAbility_ok random hSome
      exact ⟨ability, hm, by rw [selectAbility_eq hSome hf, hc]⟩
    · have hcn := count_selectAbility hn hf rfl hl hm
      obtain rfl : first = last := by simpa using hl
      omega

def oneAbility : ChannelStore where
  channels := .empty _
  abilities := ⟨[⟨"default", "gpt-4o", 1, true, some 0, 5, none⟩], by decide⟩

theorem ability_draws_exact_single :
    DrawnExactly (oneAbility.queryAbilities "default" "gpt-4o" (some 0)) := by
  refine (ability_draws_exact oneAbility "default" "gpt-4o" (some 0) (List.Perm.refl _) ?_).mpr ⟨?_, ?_⟩
  · decide +kernel
  · decide +kernel
  · decide +kernel

def twoAbilities : ChannelStore where
  channels := .empty _
  abilities := ⟨[⟨"default", "gpt-4o", 1, true, some 0, 0, none⟩,
    ⟨"default", "gpt-4o", 2, true, some 0, 0, none⟩], by decide⟩

theorem first_ability_drawn_once_more :
    ¬DrawnExactly (twoAbilities.queryAbilities "default" "gpt-4o" (some 0)) := by
  rintro ⟨_, _, hd⟩
  have hf := hd ⟨"default", "gpt-4o", 1, true, some 0, 0, none⟩ (by decide +kernel)
  exact absurd hf (by decide +kernel)

end

end ChannelStore

end DeepRouter.Channels
