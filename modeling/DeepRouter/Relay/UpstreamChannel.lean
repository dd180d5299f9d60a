import DeepRouter.Relay.Requests

/-! # The channel of an attempt -/

namespace DeepRouter.Relay

structure UpstreamChannel where
  (channelType apiType : Int)
  hasAdaptor : Bool := true
  upstreamModelName : String
  modelMapping : Option (List (String × String)) := some []
  (supportStreamOptions passThroughBodyEnabled : Bool := false)
  systemPrompt : String := ""
  systemPromptOverride : Bool := false

def followMapping (modelMap : List (String × String)) (originModelName : String) :
    Nat → List String → String → Bool → Except String (Option (String × Bool))
  | 0, _, _, _ => .error "model_mapping_contains_cycle"
  | fuel + 1, visited, current, isModelMapped =>
    match modelMap.lookup current with
    | none => .ok (some (current, isModelMapped))
    | some mapped =>
      if mapped = "" then .ok (some (current, isModelMapped))
      else if mapped ∈ visited then
        if mapped = current then
          if current = originModelName then .ok none else .ok (some (current, true))
        else .error "model_mapping_contains_cycle"
      else followMapping modelMap originModelName fuel (mapped :: visited) mapped true

section

variable (modelMap : List (String × String))

def unvisited (visited : List String) : List (String × String) :=
  modelMap.filter fun entry => entry.2 ∉ visited

theorem unvisited_length_lt {visited : List String} {cur mapped : String}
    (hm : modelMap.lookup cur = some mapped) (hn : mapped ∉ visited) :
    (unvisited modelMap (mapped :: visited)).length < (unvisited modelMap visited).length := by
  have hme : (cur, mapped) ∈ unvisited modelMap visited := by
    obtain ⟨_, _, rfl, -⟩ := List.lookup_eq_some_iff.mp hm
    simp [unvisited, hn]
  have hl : unvisited modelMap (mapped :: visited) =
      (unvisited modelMap visited).filter fun entry => entry.2 ≠ mapped := by
    simp [unvisited, List.filter_filter]
  rw [hl, List.length_filter_lt_length_iff_exists]
  exact ⟨_, hme, by simp⟩

end

def modelMappedHelper (channel : UpstreamChannel) (originModelName modelName : String) :
    Except String String :=
  match channel.modelMapping with
  | none => .error "unmarshal_model_mapping_failed"
  | some modelMap =>
    match followMapping modelMap originModelName (modelMap.length + 1) [originModelName]
        originModelName false with
    | .error err => .error err
    | .ok none => .ok modelName
    | .ok (some (current, isModelMapped)) =>
      let upstreamModelName := if isModelMapped then current else channel.upstreamModelName
      .ok (if upstreamModelName ≠ "" then upstreamModelName else modelName)

inductive Forwarded (α : Type) where
  | converted (request : α)
  | viaResponses (request : α)
  | body (raw : α)

def Forwarded.request {α : Type} : Forwarded α → α
  | .converted request => request
  | .viaResponses request => request
  | .body raw => raw

end DeepRouter.Relay
