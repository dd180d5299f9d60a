import DeepRouter.Library.Chains
import DeepRouter.Relay.UpstreamChannel

/-! # Following a mapping of model names -/

namespace DeepRouter.Relay

open Chains GoStrings List

def compactModelSuffix : String := "-openai-compact"

def withCompactModelSuffix (modelName : String) : String :=
  if hasSuffix modelName compactModelSuffix then modelName else modelName ++ compactModelSuffix

structure MappedInfo where
  (originModelName upstreamModelName : String)
  isModelMapped : Bool
deriving DecidableEq

namespace MappedInfo

def init (originModelName : String) : MappedInfo := ⟨originModelName, originModelName, false⟩

def finish (isResponsesCompact : Bool) (mappingModelName : String) (info : MappedInfo)
    (request : Option String) : MappedInfo × Option String :=
  let info := if isResponsesCompact then
      let finalUpstreamModelName :=
        if info.isModelMapped && info.upstreamModelName ≠ "" then info.upstreamModelName
        else mappingModelName
      { info with
        upstreamModelName := finalUpstreamModelName
        originModelName := withCompactModelSuffix finalUpstreamModelName }
    else info
  (info, request.map fun model =>
    if info.upstreamModelName ≠ "" then info.upstreamModelName else model)

def modelMapped (isResponsesCompact : Bool) (modelMapping : Option (List (String × String)))
    (info : MappedInfo) (request : Option String) : Except String (MappedInfo × Option String) :=
  let mappingModelName :=
    if isResponsesCompact && hasSuffix info.originModelName compactModelSuffix then
      trimSuffix info.originModelName compactModelSuffix
    else info.originModelName
  match modelMapping with
  | none => .error "unmarshal_model_mapping_failed"
  | some modelMap =>
    match followMapping modelMap info.originModelName (modelMap.length + 1) [mappingModelName]
        mappingModelName info.isModelMapped with
    | .error err => .error err
    | .ok none => .ok ({ info with isModelMapped := false }, request)
    | .ok (some (currentModel, isModelMapped)) =>
      let info := { info with
        isModelMapped
        upstreamModelName := if isModelMapped then currentModel else info.upstreamModelName }
      .ok (info.finish isResponsesCompact mappingModelName request)

end MappedInfo

open MappedInfo

def nextModel (modelMap : List (String × String)) (model : String) : Option String :=
  (modelMap.lookup model).filter (· ≠ "")

section

variable {modelMap : List (String × String)} {originModelName : String}

theorem nextModel_of_none {model : String} (h : modelMap.lookup model = none) :
    nextModel modelMap model = none := by
  rw [nextModel, h, Option.filter_none]

theorem nextModel_of_empty {model mapped : String} (h : modelMap.lookup model = some mapped)
    (he : mapped = "") : nextModel modelMap model = none := by
  simp [nextModel, h, he]

theorem nextModel_of_some {model mapped : String} (h : modelMap.lookup model = some mapped)
    (he : mapped ≠ "") : nextModel modelMap model = some mapped := by
  simp [nextModel, h, he]

def chainEnd (modelMap : List (String × String)) (originModelName last : String) :
    Option (String × Bool) :=
  if last = originModelName ∧ nextModel modelMap last = some last then none
  else some (last, decide (last ≠ originModelName))

theorem followMapping_spec {fuel : Nat} {visited : List String} {cur : String}
    (hf : (unvisited modelMap visited).length < fuel) (hcu : cur ∈ visited)
    (hor : originModelName ∈ visited)
    (hv : ∀ model ∈ visited, Leads (nextModel modelMap) model cur) :
    (∃ last, Leads (nextModel modelMap) cur last ∧ IsEnd (nextModel modelMap) last ∧
      followMapping modelMap originModelName fuel visited cur (cur ≠ originModelName) =
        .ok (chainEnd modelMap originModelName last)) ∨
    (EntersCycle (nextModel modelMap) cur ∧
      followMapping modelMap originModelName fuel visited cur (cur ≠ originModelName) =
        .error "model_mapping_contains_cycle") := by
  induction fuel generalizing visited cur with
  | zero => exact absurd hf (Nat.not_lt_zero _)
  | succ fuel ih =>
    have hst : nextModel modelMap cur = none → .ok (some (cur, decide (cur ≠ originModelName))) =
          (.ok (chainEnd modelMap originModelName cur) : Except String _) := by
      intro hno
      rw [chainEnd, if_neg (by simp [hno])]
    rw [followMapping]
    cases hlo : modelMap.lookup cur with
    | none =>
      have hno := nextModel_of_none hlo
      exact .inl ⟨cur, .refl, .inl hno, hst hno⟩
    | some mapped =>
      simp only
      by_cases hem : mapped = ""
      · have hno := nextModel_of_empty hlo hem
        rw [if_pos hem]
        exact .inl ⟨cur, .refl, .inl hno, hst hno⟩
      have hne := nextModel_of_some hlo hem
      rw [if_neg hem]
      by_cases hs : mapped ∈ visited
      · rw [if_pos hs]
        by_cases hse : mapped = cur
        · subst hse
          refine .inl ⟨mapped, .refl, .inr hne, ?_⟩
          rw [if_pos rfl, chainEnd]
          by_cases hfs : mapped = originModelName
          · rw [if_pos hfs, if_pos ⟨hfs, hne⟩]
          · rw [if_neg hfs, if_neg fun h => hfs h.1, decide_eq_true hfs]
        · rw [if_neg hse]
          exact .inr ⟨⟨cur, mapped, Ne.symm hse, .refl, .single hne, hv mapped hs⟩, rfl⟩
      · rw [if_neg hs]
        have ho : mapped ≠ originModelName := fun hEq => hs (hEq ▸ hor)
        have hl := unvisited_length_lt modelMap hlo hs
        have hr := @ih (mapped :: visited) mapped (by omega) mem_cons_self
          (mem_cons_of_mem _ hor) (by
            intro model hm
            rcases mem_cons.mp hm with rfl | hm
            · exact .refl
            · exact (hv model hm).tail hne)
        rw [decide_eq_true ho] at hr
        rcases hr with ⟨last, hle, he, hre⟩ | ⟨⟨x, y, hn, hle, hc⟩, hre⟩
        · exact .inl ⟨last, hle.head hne, he, hre⟩
        · exact .inr ⟨⟨x, y, hn, hle.head hne, hc⟩, hre⟩

theorem unvisited_length_le (visited : List String) :
    (unvisited modelMap visited).length < modelMap.length + 1 :=
  Nat.lt_succ_of_le (length_filter_le _ _)

end

section

variable (modelMap : List (String × String)) (originModelName : String)

def mappedTo (last : String) (request : Option String) : MappedInfo × Option String :=
  (⟨originModelName, last, decide (last ≠ originModelName)⟩,
    if last = originModelName ∧ nextModel modelMap last = some last then request
    else request.map fun model => if last ≠ "" then last else model)

theorem modelMapped_cases (req : Option String) :
    (∃ last, Leads (nextModel modelMap) originModelName last ∧ IsEnd (nextModel modelMap) last ∧
      (init originModelName).modelMapped false (some modelMap) req =
        .ok (mappedTo modelMap originModelName last req)) ∨
    (EntersCycle (nextModel modelMap) originModelName ∧
      (init originModelName).modelMapped false (some modelMap) req =
        .error "model_mapping_contains_cycle") := by
  have hv : ∀ model ∈ [originModelName], Leads (nextModel modelMap) model originModelName := by
    intro model hm
    rw [mem_singleton.mp hm]
    exact .refl
  have hs := followMapping_spec (unvisited_length_le [originModelName])
    (mem_singleton_self originModelName) (mem_singleton_self originModelName) hv
  have hu : decide (originModelName ≠ originModelName) = false := by simp
  rw [hu] at hs
  rcases hs with ⟨last, hl, he, hr⟩ | ⟨hc, hr⟩
  · refine .inl ⟨last, hl, he, ?_⟩
    simp only [modelMapped, init, Bool.false_and, Bool.false_eq_true, if_false, hr]
    by_cases hse : last = originModelName ∧ nextModel modelMap last = some last
    · rw [chainEnd, mappedTo, if_pos hse, if_pos hse, decide_eq_false fun hn => hn hse.1, hse.1]
    rw [chainEnd, mappedTo, if_neg hse, if_neg hse]
    by_cases hf : last = originModelName
    · subst hf
      simp [finish]
    · simp [finish, hf]
  · refine .inr ⟨hc, ?_⟩
    simp only [modelMapped, init, Bool.false_and, Bool.false_eq_true, if_false, hr]

def KeepsModel : Prop :=
  nextModel modelMap originModelName = some originModelName ∨
    originModelName = "" ∧ nextModel modelMap originModelName = none

theorem last_ne_empty {modelMap : List (String × String)} {originModelName last : String}
    (hl : Leads (nextModel modelMap) originModelName last) (ho : last ≠ originModelName) :
    last ≠ "" := by
  rcases hl.cases_tail with he | ⟨before, _, hs⟩
  · exact absurd he ho
  · rw [nextModel, Option.filter_eq_some_iff] at hs
    simpa using hs.2

theorem mappedTo_model_iff {modelMap : List (String × String)} {originModelName last model : String}
    (hle : Leads (nextModel modelMap) originModelName last) (he : IsEnd (nextModel modelMap) last) :
    (mappedTo modelMap originModelName last (some model)).2 = some last ↔
      (KeepsModel modelMap originModelName → model = originModelName) := by
  by_cases hf : last = originModelName
  · subst hf
    rcases he with hn | hs
    · simp only [mappedTo, KeepsModel, hn, reduceCtorEq, and_false, if_false, false_or, and_true,
        Option.map_some, Option.some_inj]
      split
      · rename_i hna
        simp [hna]
      · rename_i hna
        simp [not_not.mp hna]
    · simp [mappedTo, KeepsModel, hs]
  · have hl : ¬KeepsModel modelMap originModelName := by
      intro hk
      refine hf (IsEnd.eq_of_leads ?_ hle)
      rcases hk with hs | ⟨_, hn⟩
      · exact .inr hs
      · exact .inl hn
    simp [mappedTo, hf, hl, last_ne_empty hle hf]

/-- The helper fails exactly for a chain that enters a cycle. -/
theorem model_mapping_follows_chain (model : String) :
    let result := (init originModelName).modelMapped false (some modelMap) (some model)
    ((∃ err, result = .error err) ↔ EntersCycle (nextModel modelMap) originModelName) ∧
      ∀ info request, result = .ok (info, request) →
        Leads (nextModel modelMap) originModelName info.upstreamModelName ∧
        IsEnd (nextModel modelMap) info.upstreamModelName ∧
        (info.isModelMapped = true ↔ info.upstreamModelName ≠ originModelName) ∧
        (request = some info.upstreamModelName ↔
          (KeepsModel modelMap originModelName → model = originModelName)) := by
  intro result
  rcases modelMapped_cases modelMap originModelName (some model) with
    ⟨last, hl, he, hr⟩ | ⟨hc, hr⟩
  · have ho : result = .ok (mappedTo modelMap originModelName last (some model)) := hr
    rw [ho]
    constructor
    · constructor
      · rintro ⟨err, her⟩
        cases her
      · intro hc
        exact absurd hc (not_entersCycle he hl)
    · intro info request hi
      cases hi
      exact ⟨hl, he, decide_eq_true_iff, mappedTo_model_iff hl he⟩
  · have her : result = .error "model_mapping_contains_cycle" := hr
    rw [her]
    refine ⟨⟨fun _ => hc, fun _ => ⟨_, rfl⟩⟩, ?_⟩
    intro info request hi
    cases hi

end

theorem self_mapped_model_keeps_request :
    (MappedInfo.init "gpt-4o").modelMapped false (some [("gpt-4o", "gpt-4o")]) (some "skill-model") =
      .ok (⟨"gpt-4o", "gpt-4o", false⟩, some "skill-model") := by
  decide +kernel

end DeepRouter.Relay
