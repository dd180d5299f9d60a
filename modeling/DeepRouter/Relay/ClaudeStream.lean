import DeepRouter.Library.Json
import Mathlib.Data.List.Nodup
import Mathlib.Data.List.Perm.Subperm

/-! # Answers of Claude for OpenAI clients -/

namespace DeepRouter.Relay

open List

inductive ClaudeBlockStart where
  | text (text : Option String)
  | thinking
  | toolUse (id name : String)

inductive ClaudeBlockDelta where
  | text (text : String)
  | thinking (thinking : String)
  | inputJson (partialJson : String)
  | signature

inductive ClaudeStreamEvent where
  | messageStart
  | contentBlockStart (index : Option Nat) (block : ClaudeBlockStart)
  | contentBlockDelta (index : Option Nat) (delta : ClaudeBlockDelta)
  | contentBlockStop (index : Option Nat)
  | messageDelta
  | messageStop

structure ToolCallDelta where
  index : Nat
  (id name arguments : String := "")
deriving DecidableEq

structure ChunkDelta where
  (content reasoningContent : Option String := none)
  toolCalls : List ToolCallDelta := []
deriving DecidableEq

def fcIdx (index : Option Nat) : Nat := index.getD 0 - 1

def streamResponseClaude2OpenAI : ClaudeStreamEvent → Option ChunkDelta
  | .messageStart => some { content := some "" }
  | .contentBlockStart _ (.text text) => some { content := text }
  | .contentBlockStart _ .thinking => some {}
  | .contentBlockStart index (.toolUse id name) =>
    some { toolCalls := [{ index := fcIdx index, id, name }] }
  | .contentBlockDelta _ (.text text) => some { content := some text }
  | .contentBlockDelta _ (.thinking thinking) => some { reasoningContent := some thinking }
  | .contentBlockDelta index (.inputJson partialJson) =>
    some { toolCalls := [{ index := fcIdx index, arguments := partialJson }] }
  | .contentBlockDelta _ .signature => some { reasoningContent := some "\n" }
  | .messageDelta => some {}
  | .contentBlockStop _ | .messageStop => none

structure ToolUse where
  (id name : String)
  parts : List String

def ToolUse.deltas (tool : ToolUse) (index : Nat) : List ToolCallDelta :=
  { index, id := tool.id, name := tool.name } ::
    tool.parts.map fun part => { index, arguments := part }

inductive StreamedBlock where
  | text (first : Option String) (parts : List String)
  | thinking (parts : List String) (signed : Bool)
  | toolUse (tool : ToolUse)

def StreamedBlock.events (index : Nat) : StreamedBlock → List ClaudeStreamEvent
  | .text first parts => .contentBlockStart index (.text first) ::
      parts.map (fun part => .contentBlockDelta index (.text part)) ++ [.contentBlockStop index]
  | .thinking parts signed => .contentBlockStart index .thinking ::
      parts.map (fun part => .contentBlockDelta index (.thinking part)) ++
        (if signed then [.contentBlockDelta index .signature] else []) ++ [.contentBlockStop index]
  | .toolUse tool => .contentBlockStart index (.toolUse tool.id tool.name) ::
      tool.parts.map (fun part => .contentBlockDelta index (.inputJson part)) ++
        [.contentBlockStop index]

def eventStream (blocks : List StreamedBlock) : List ClaudeStreamEvent :=
  .messageStart :: blocks.zipIdx.flatMap (fun block => block.1.events block.2) ++
    [.messageDelta, .messageStop]

def StreamedBlock.chunks (index : Nat) : StreamedBlock → List ChunkDelta
  | .text first parts => { content := first } :: parts.map fun part => { content := some part }
  | .thinking parts signed => {} :: parts.map (fun part => { reasoningContent := some part }) ++
      if signed then [{ reasoningContent := some "\n" }] else []
  | .toolUse tool => (tool.deltas (index - 1)).map fun delta => { toolCalls := [delta] }

def streamChunks (blocks : List StreamedBlock) : List ChunkDelta :=
  (eventStream blocks).filterMap streamResponseClaude2OpenAI

open StreamedBlock

theorem filterMap_events (index : Nat) (block : StreamedBlock) :
    (block.events index).filterMap streamResponseClaude2OpenAI = block.chunks index := by
  cases block with
  | text first parts =>
    simp [events, chunks, streamResponseClaude2OpenAI, Function.comp_def]
  | thinking parts signed =>
    cases signed <;>
      simp [events, chunks, streamResponseClaude2OpenAI, Function.comp_def]
  | toolUse tool =>
    simp [events, chunks, streamResponseClaude2OpenAI, Function.comp_def, ToolUse.deltas, fcIdx]

theorem streamChunks_eq (blocks : List StreamedBlock) :
    streamChunks blocks = ⟨some "", none, []⟩ ::
      blocks.zipIdx.flatMap (fun block => block.1.chunks block.2) ++ [⟨none, none, []⟩] := by
  have hb := funext fun block : StreamedBlock × Nat => filterMap_events block.2 block.1
  rw [streamChunks, eventStream, filterMap_append, ← hb, ← filterMap_flatMap]
  rfl

/-! ## Tool calls by index -/

structure ToolCall where
  (id name arguments : String)
deriving DecidableEq

def ToolUse.call (tool : ToolUse) : ToolCall := ⟨tool.id, tool.name, String.join tool.parts⟩

def ToolCall.add (call : ToolCall) (delta : ToolCallDelta) : ToolCall :=
  ⟨call.id ++ delta.id, call.name ++ delta.name, call.arguments ++ delta.arguments⟩

def addDelta (calls : List (Nat × ToolCall)) (delta : ToolCallDelta) : List (Nat × ToolCall) :=
  if delta.index ∈ calls.map (·.1) then
    calls.map fun call => if call.1 = delta.index then (call.1, call.2.add delta) else call
  else calls ++ [(delta.index, ⟨delta.id, delta.name, delta.arguments⟩)]

def mergeDeltas (deltas : List ToolCallDelta) : List (Nat × ToolCall) := deltas.foldl addDelta []

def toolDeltas (chunks : List ChunkDelta) : List ToolCallDelta := chunks.flatMap (·.toolCalls)

def deltasOf (tools : List (Nat × ToolUse)) : List ToolCallDelta :=
  tools.flatMap fun tool => tool.2.deltas tool.1

def toolsAt (blocks : List StreamedBlock) : List (Nat × ToolUse) :=
  blocks.zipIdx.filterMap fun block =>
    match block.1 with
    | .toolUse tool => some (block.2, tool)
    | _ => none

def indexedTools (blocks : List StreamedBlock) : List (Nat × ToolUse) :=
  (toolsAt blocks).map fun tool => (tool.1 - 1, tool.2)

theorem toolDeltas_streamChunks (blocks : List StreamedBlock) :
    toolDeltas (streamChunks blocks) = deltasOf (indexedTools blocks) := by
  rw [streamChunks_eq, indexedTools, toolsAt]
  simp only [toolDeltas, cons_append, flatMap_cons, flatMap_append, nil_append, flatMap_nil,
    append_nil]
  induction blocks.zipIdx with
  | nil => rfl
  | cons block blocks ih =>
    obtain ⟨block, index⟩ := block
    rw [flatMap_cons, flatMap_append, ih]
    cases block with
    | text first parts => simp [chunks, flatMap_map]
    | thinking parts signed => cases signed <;> simp [chunks, flatMap_map]
    | toolUse tool => simp [chunks, flatMap_map, deltasOf]

theorem deltasOf_inj {first second : List (Nat × ToolUse)} (ht : first.map (·.2) = second.map (·.2)) :
    deltasOf first = deltasOf second ↔ first.map (·.1) = second.map (·.1) := by
  induction first generalizing second with
  | nil => cases second <;> simp_all
  | cons tool first ih =>
    cases second with
    | nil => simp at ht
    | cons other second =>
      obtain ⟨index, tool⟩ := tool
      obtain ⟨index', tool'⟩ := other
      simp only [map_cons, List.cons.injEq] at ht
      obtain ⟨rfl, hr⟩ := ht
      simp only [map_cons, List.cons.injEq, ← ih hr]
      constructor
      · intro h
        have hb := append_inj h (by simp [ToolUse.deltas])
        exact ⟨congrArg ToolCallDelta.index (List.cons.inj hb.1).1, hb.2⟩
      · rintro ⟨rfl, h⟩
        exact congrArg (tool.deltas index ++ ·) h

section

variable {calls : List (Nat × ToolCall)} {index : Nat}

theorem addDelta_last (hf : index ∉ calls.map (·.1)) (call : ToolCall) (delta : ToolCallDelta)
    (hi : delta.index = index) :
    addDelta (calls ++ [(index, call)]) delta = calls ++ [(index, call.add delta)] := by
  subst hi
  have ho : calls.map (fun other =>
      if other.1 = delta.index then (other.1, other.2.add delta) else other) = calls := by
    rw [map_congr_left (g := id), map_id]
    intro other hm
    have hot : other.1 ≠ delta.index := by
      rintro hs
      exact hf (hs ▸ mem_map_of_mem hm)
    exact if_neg hot
  rw [addDelta, if_pos (by simp), map_append, ho]
  simp

theorem foldl_addDelta_deltas (hf : index ∉ calls.map (·.1)) (tool : ToolUse) :
    (tool.deltas index).foldl addDelta calls = calls ++ [(index, tool.call)] := by
  have hp : ∀ (parts : List String) (call : ToolCall),
      (parts.map fun part => ({ index, arguments := part } : ToolCallDelta)).foldl addDelta
        (calls ++ [(index, call)]) =
      calls ++ [(index, ⟨call.id, call.name, call.arguments ++ String.join parts⟩)] := by
    intro parts
    induction parts with
    | nil => simp
    | cons part parts ih =>
      intro call
      rw [map_cons, foldl_cons, addDelta_last hf _ _ rfl, ih, String.join_cons]
      simp [ToolCall.add, String.append_assoc]
  rw [ToolUse.deltas, foldl_cons, addDelta, if_neg hf, hp, ToolUse.call, String.empty_append]

theorem foldl_addDelta_nodup {tools : List (Nat × ToolUse)}
    (h : (calls.map (·.1) ++ tools.map (·.1)).Nodup) :
    (deltasOf tools).foldl addDelta calls = calls ++ tools.map fun tool => (tool.1, tool.2.call) := by
  induction tools generalizing calls with
  | nil => simp [deltasOf]
  | cons tool tools ih =>
    have hf : tool.1 ∉ calls.map (·.1) := by
      intro hm
      exact disjoint_of_nodup_append h hm mem_cons_self
    rw [deltasOf, flatMap_cons, foldl_append, foldl_addDelta_deltas hf]
    refine (ih ?_).trans (by simp)
    simpa using h

theorem foldl_addDelta_keys (deltas : List ToolCallDelta) (h : (calls.map (·.1)).Nodup) :
    ((deltas.foldl addDelta calls).map (·.1)).Nodup ∧
      (deltas.foldl addDelta calls).map (·.1) ⊆ calls.map (·.1) ++ deltas.map (·.index) := by
  induction deltas generalizing calls with
  | nil => simpa using h
  | cons delta deltas ih =>
    have hk : (addDelta calls delta).map (·.1) =
        if delta.index ∈ calls.map (·.1) then calls.map (·.1)
        else calls.map (·.1) ++ [delta.index] := by
      rw [addDelta]
      split
      · rw [map_map]
        apply map_congr_left
        intro call _
        simp only [Function.comp]
        split <;> rfl
      · simp
    obtain ⟨hNd, hs⟩ := @ih (addDelta calls delta) (by
      rw [hk]
      split
      · exact h
      · rename_i hf
        rw [← concat_eq_append]
        exact h.concat hf)
    have hg : (addDelta calls delta).map (·.1) ⊆ calls.map (·.1) ++ [delta.index] := by
      rw [hk]
      split
      · exact subset_append_left _ _
      · exact List.Subset.refl _
    refine ⟨hNd, fun i hi => ?_⟩
    rw [map_cons, append_cons]
    obtain ho | hn := mem_append.mp (hs hi)
    · exact mem_append_left _ (hg ho)
    · exact mem_append_right _ hn

end

theorem mergeDeltas_length_iff (tools : List (Nat × ToolUse)) :
    (mergeDeltas (deltasOf tools)).length = tools.length ↔ (tools.map (·.1)).Nodup := by
  constructor
  · intro hl
    obtain ⟨hn, hs⟩ := @foldl_addDelta_keys [] (deltasOf tools) nodup_nil
    have hk : (mergeDeltas (deltasOf tools)).map (·.1) ⊆ tools.map (·.1) := by
      intro i hi
      have hm := hs hi
      simp only [deltasOf, ToolUse.deltas, map_nil, nil_append, mem_map, mem_flatMap,
        mem_cons] at hm
      obtain ⟨delta, ⟨tool, ht, hd⟩, rfl⟩ := hm
      refine mem_map.mpr ⟨tool, ht, ?_⟩
      obtain rfl | ⟨part, -, rfl⟩ := hd <;> rfl
    have hp := (hn.subperm hk).perm_of_length_le (by
      rw [length_map, length_map]
      exact hl.ge)
    exact hp.nodup_iff.mp hn
  · intro h
    rw [mergeDeltas, foldl_addDelta_nodup (by simpa using h)]
    simp

def numbered (tools : List ToolUse) : List (Nat × ToolUse) := (List.range tools.length).zip tools

def CallsSeparate (blocks : List StreamedBlock) : Prop :=
  let tools := (toolsAt blocks).map (·.2)
  toolDeltas (streamChunks blocks) = deltasOf (numbered tools) ∧
    mergeDeltas (toolDeltas (streamChunks blocks)) =
      (numbered tools).map fun tool => (tool.1, tool.2.call)
deriving Decidable

/-- The calls keep their indices exactly when each stands one place after its rank, the first one
perhaps at the start. -/
theorem tool_calls_separate_iff (blocks : List StreamedBlock) :
    CallsSeparate blocks ↔
      (toolsAt blocks).map (·.1 - 1) = List.range (toolsAt blocks).length := by
  have hf : (numbered ((toolsAt blocks).map (·.2))).map (·.1) =
      List.range (toolsAt blocks).length := by
    rw [numbered, map_fst_zip (by simp), length_map]
  have hs : (numbered ((toolsAt blocks).map (·.2))).map (·.2) = (toolsAt blocks).map (·.2) := by
    rw [numbered, map_snd_zip (by simp)]
  have hi : toolDeltas (streamChunks blocks) = deltasOf (numbered ((toolsAt blocks).map (·.2))) ↔
      (toolsAt blocks).map (·.1 - 1) = List.range (toolsAt blocks).length := by
    rw [toolDeltas_streamChunks, deltasOf_inj, hf, indexedTools, map_map]
    · rfl
    · rw [hs, indexedTools, map_map]
      rfl
  rw [CallsSeparate, hi]
  refine and_iff_left_of_imp fun h => ?_
  rw [hi.mpr h, mergeDeltas, foldl_addDelta_nodup (by simp [hf, nodup_range])]
  rfl

theorem leading_tool_calls_collide :
    let blocks : List StreamedBlock :=
      [.toolUse ⟨"a", "f", ["1"]⟩, .toolUse ⟨"b", "g", ["2"]⟩]
    ¬ CallsSeparate blocks ∧
      mergeDeltas (toolDeltas (streamChunks blocks)) = [(0, ⟨"ab", "fg", "12"⟩)] := by
  decide

/-! ## The whole message at once -/

inductive MessageBlock where
  | text (text : Option String)
  | thinking (thinking : Option String)
  | toolUse (id name : String) (input : Json)

namespace MessageBlock

def text? : MessageBlock → Option String
  | .text whole => some (whole.getD "")
  | _ => none

def thinking? : MessageBlock → Option String
  | .thinking whole => whole
  | _ => none

def toolCall? (marshal : Json → String) : MessageBlock → Option ToolCall
  | .toolUse id name input => some ⟨id, name, marshal input⟩
  | _ => none

inductive Splits (parse : String → Option Json) : MessageBlock → StreamedBlock → Prop
  | text {whole first : Option String} {parts : List String}
      (h : first.getD "" ++ String.join parts = whole.getD "") :
      Splits parse (.text whole) (.text first parts)
  | thinking {whole : Option String} {parts : List String} (h : String.join parts = whole.getD "") :
      Splits parse (.thinking whole) (.thinking parts false)
  | toolUse {id name : String} {input : Json} {parts : List String}
      (h : parse (String.join parts) = some input) :
      Splits parse (.toolUse id name input) (.toolUse ⟨id, name, parts⟩)

end MessageBlock

structure ConvertedMessage where
  content : String
  reasoningContent : Option String
  toolCalls : List ToolCall

def responseClaude2OpenAI (marshal : Json → String) (blocks : List MessageBlock) :
    ConvertedMessage :=
  let responseText := (blocks.head?.bind (·.text?)).getD ""
  let responseThinking := (blocks.head?.bind (·.thinking?)).getD ""
  let thinkingContent := blocks.foldl (fun content block => block.thinking?.getD content) ""
  { content := blocks.foldl (fun text block => block.text?.getD text) responseText
    reasoningContent := if thinkingContent ≠ "" then some thinkingContent
      else if responseThinking ≠ "" then some responseThinking else none
    toolCalls := blocks.filterMap (·.toolCall? marshal) }

theorem join_eq_empty (l : List String) : String.join l = "" ↔ ∀ text ∈ l, text = "" := by
  induction l with
  | nil => simp
  | cons text l ih => rw [String.join_cons, String.append_eq_empty_iff, ih, forall_mem_cons]

theorem join_eq_last (l : List String) :
    String.join l = l.getLast?.getD "" ↔ ∀ text ∈ l.dropLast, text = "" := by
  obtain rfl | ⟨l, last, rfl⟩ := l.eq_nil_or_concat'
  · simp
  · rw [String.join_append, getLast?_concat, dropLast_concat, ← join_eq_empty]
    simp

theorem foldl_getD {β : Type} (f : β → Option String) (l : List β) (init : String) :
    l.foldl (fun text a => (f a).getD text) init = (l.filterMap f).getLast?.getD init := by
  induction l generalizing init with
  | nil => rfl
  | cons a l ih =>
    rw [foldl_cons, ih, filterMap_cons]
    cases f a with
    | none => rfl
    | some text => simp [getLast?_cons]

section

variable {marshal : Json → String} {parse : String → Option Json} {blocks : List MessageBlock}
  {streamed : List StreamedBlock}

theorem responseClaude2OpenAI_content :
    (responseClaude2OpenAI marshal blocks).content =
      (blocks.filterMap (·.text?)).getLast?.getD "" := by
  refine (foldl_getD _ _ _).trans ?_
  cases blocks with
  | nil => rfl
  | cons block blocks =>
    cases ht : block.text? with
    | none => simp [ht]
    | some text => simp [ht, getLast?_cons]

def Agrees (parse : String → Option Json) (chunks : List ChunkDelta) (message : ConvertedMessage) :
    Prop :=
  String.join (chunks.filterMap (·.content)) = message.content ∧
    String.join (chunks.filterMap (·.reasoningContent)) = message.reasoningContent.getD "" ∧
    (mergeDeltas (toolDeltas chunks)).map
        (fun call => (call.2.id, call.2.name, parse call.2.arguments)) =
      message.toolCalls.map fun call => (call.id, call.name, parse call.arguments)

def OneThought (blocks : List MessageBlock) : Prop :=
  let thoughts := blocks.filterMap (·.thinking?)
  (∀ thought ∈ thoughts.dropLast, thought = "") ∨
    (thoughts.getLast?.getD "" = "" ∧ (blocks.head?.bind (·.thinking?)).isSome ∧
      ∀ thought ∈ thoughts.tail, thought = "")

open MessageBlock

theorem join_streamed (h : List.Forall₂ (Splits parse) blocks streamed) (n : Nat) :
    let chunks := (streamed.zipIdx n).flatMap fun block => block.1.chunks block.2
    String.join (chunks.filterMap (·.content)) = String.join (blocks.filterMap (·.text?)) ∧
    String.join (chunks.filterMap (·.reasoningContent)) =
      String.join (blocks.filterMap (·.thinking?)) := by
  induction h generalizing n with
  | nil => exact ⟨rfl, rfl⟩
  | @cons block stream blocks streamed hb _ ih =>
    obtain ⟨ht, hth⟩ := ih (n + 1)
    simp only [zipIdx_cons, flatMap_cons, filterMap_append, String.join_append, ht, hth]
    cases hb with
    | @text whole first parts hp =>
      have hs : (MessageBlock.text whole).text? = some (first.getD "" ++ String.join parts) :=
        congrArg some hp.symm
      rw [filterMap_cons_some hs, filterMap_cons_none (l := blocks) rfl, String.join_cons]
      cases first <;> simp [chunks, filterMap_map]
    | @thinking whole parts hp =>
      rw [filterMap_cons_none (l := blocks) rfl]
      cases whole <;>
        simp_all [chunks, filterMap_map, thinking?]
    | toolUse =>
      simp [chunks, filterMap_map, text?, thinking?]

theorem streamed_calls
    (hj : ∀ id name input, .toolUse id name input ∈ blocks → parse (marshal input) = some input)
    (h : List.Forall₂ (Splits parse) blocks streamed) :
    ((toolsAt streamed).map (·.2.call)).map
        (fun call => (call.id, call.name, parse call.arguments)) =
      (responseClaude2OpenAI marshal blocks).toolCalls.map
        fun call => (call.id, call.name, parse call.arguments) := by
  rw [toolsAt, responseClaude2OpenAI]
  generalize 0 = n
  induction h generalizing n with
  | nil => rfl
  | @cons block stream blocks streamed hb _ ih =>
    rw [zipIdx_cons]
    have ih := ih (fun id name input h => hj id name input (mem_cons_of_mem _ h)) (n + 1)
    cases hb with
    | text => simpa [toolCall?] using ih
    | thinking => simpa [toolCall?] using ih
    | toolUse hp =>
      have hi := hj _ _ _ mem_cons_self
      simpa [toolCall?, ToolUse.call, hi, hp] using ih

theorem calls_agree_iff
    (hj : ∀ id name input, .toolUse id name input ∈ blocks → parse (marshal input) = some input)
    (h : List.Forall₂ (Splits parse) blocks streamed) :
    (mergeDeltas (toolDeltas (streamChunks streamed))).map
        (fun call => (call.2.id, call.2.name, parse call.2.arguments)) =
      (responseClaude2OpenAI marshal blocks).toolCalls.map
        (fun call => (call.id, call.name, parse call.arguments)) ↔
      ((toolsAt streamed).map (·.1 - 1)).Nodup := by
  have hi : (indexedTools streamed).map (·.1) = (toolsAt streamed).map (·.1 - 1) := by
    rw [indexedTools, map_map]
    rfl
  rw [← streamed_calls hj h, toolDeltas_streamChunks, ← hi]
  constructor
  · intro hs
    apply (mergeDeltas_length_iff _).mp
    simpa [indexedTools] using congrArg List.length hs
  · intro hn
    rw [mergeDeltas, foldl_addDelta_nodup (by simpa using hn)]
    simp [indexedTools]

theorem thoughts_agree_iff (marshal : Json → String) :
    String.join (blocks.filterMap (·.thinking?)) =
      (responseClaude2OpenAI marshal blocks).reasoningContent.getD "" ↔ OneThought blocks := by
  have hr : (responseClaude2OpenAI marshal blocks).reasoningContent.getD "" =
      if (blocks.filterMap (·.thinking?)).getLast?.getD "" ≠ "" then
        (blocks.filterMap (·.thinking?)).getLast?.getD ""
      else (blocks.head?.bind (·.thinking?)).getD "" := by
    simp only [responseClaude2OpenAI, foldl_getD]
    split
    · rfl
    split
    · rfl
    · rename_i hf
      exact (not_not.mp hf).symm
  rw [hr, OneThought, ← join_eq_last]
  by_cases hl : (blocks.filterMap (·.thinking?)).getLast?.getD "" = ""
  · rw [if_neg (not_not.mpr hl), hl]
    cases hf : blocks.head?.bind (·.thinking?) with
    | none => simp
    | some first =>
      obtain ⟨rest, hre⟩ : ∃ rest, blocks.filterMap (·.thinking?) = first :: rest := by
        cases blocks with
        | nil => cases hf
        | cons block blocks => exact ⟨_, filterMap_cons_some hf⟩
      have hk : first ++ String.join rest = first ↔ String.join rest = "" := by simp
      rw [hre, String.join_cons, tail_cons, ← join_eq_empty, Option.getD_some, hk]
      simp only [Option.isSome_some, true_and, String.append_eq_empty_iff]
      tauto
  · simp only [ne_eq, hl, not_false_eq_true, if_true, false_and, or_false]

/-- The whole message keeps one text and one thought, where the stream has all of them. -/
theorem stream_agrees_with_message_iff
    (hJson : ∀ id name input, .toolUse id name input ∈ blocks → parse (marshal input) = some input)
    (h : List.Forall₂ (MessageBlock.Splits parse) blocks streamed) :
    Agrees parse (streamChunks streamed) (responseClaude2OpenAI marshal blocks) ↔
      (∀ text ∈ (blocks.filterMap (·.text?)).dropLast, text = "") ∧ OneThought blocks ∧
        ((toolsAt streamed).map (·.1 - 1)).Nodup := by
  obtain ⟨ht, hth⟩ := join_streamed h 0
  rw [Agrees, calls_agree_iff hJson h, responseClaude2OpenAI_content, ← join_eq_last,
    ← thoughts_agree_iff marshal, streamChunks_eq]
  simp [String.join_cons, ht, hth]

theorem one_block_each_agrees :
    Agrees (fun text => if text = "[]" then some (.arr []) else none)
      (streamChunks [.thinking ["t"] false, .text none ["a", "b"], .toolUse ⟨"i", "f", ["[", "]"]⟩])
      (responseClaude2OpenAI (fun _ => "[]")
        [.thinking (some "t"), .text (some "ab"), .toolUse "i" "f" (.arr [])]) := by
  refine (stream_agrees_with_message_iff ?_ ?_).mpr ⟨by decide, .inl (by decide), by decide⟩
  · intro id name input h
    simp only [mem_cons, reduceCtorEq, false_or, not_mem_nil, or_false,
      MessageBlock.toolUse.injEq] at h
    rw [h.2.2]
    rfl
  · exact .cons (.thinking rfl) (.cons (.text rfl) (.cons (.toolUse rfl) .nil))

theorem two_texts_disagree :
    let chunks := streamChunks [.text none ["a"], .text none ["b"]]
    String.join (chunks.filterMap (·.content)) = "ab" ∧
    (responseClaude2OpenAI (fun _ => "") [.text (some "a"), .text (some "b")]).content = "b" := by
  decide +kernel

end

end DeepRouter.Relay
