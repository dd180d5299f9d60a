import DeepRouter.Relay.OpenAIStream

/-! # The content of a converted stream -/

namespace DeepRouter.Relay

open Runs List

def ClaudeEvent.part? (select : Int → BlockKind → Bool) : ClaudeEvent → Option String
  | .block index (.delta kind part) => if select index kind then some part else none
  | _ => none

def deltaText (select : Int → BlockKind → Bool) (events : List ClaudeEvent) : String :=
  String.join (events.filterMap (·.part? select))

section

variable {select : Int → BlockKind → Bool}

@[simp] theorem deltaText_append (first second : List ClaudeEvent) :
    deltaText select (first ++ second) = deltaText select first ++ deltaText select second := by
  rw [deltaText, filterMap_append, String.join_append]
  rfl

theorem deltaText_stopOpenBlocks (info : StreamInfo) : deltaText select (stopOpenBlocks info) = "" := by
  rw [stopOpenBlocks]
  split
  · rfl
  · rw [deltaText, filterMap_map]
    simp [Function.comp_def, ClaudeEvent.part?]
  · rfl

theorem deltaText_closeMessage (usage : Option Usage) (info : StreamInfo) :
    deltaText select (closeMessage usage info).2 = "" := by
  rw [closeMessage, deltaText_append, deltaText_append, deltaText_stopOpenBlocks]
  cases usage <;> rfl

theorem deltaText_closeIfFinished (reason : String) (usage : Option Usage)
    (written : StreamInfo × List ClaudeEvent) :
    deltaText select (closeIfFinished reason usage written).2 = deltaText select written.2 := by
  rw [closeIfFinished]
  split
  · rw [deltaText_append, deltaText_closeMessage, String.append_empty]
  · rfl

theorem deltaText_delta (index : Int) (kind : BlockKind) (part : String) :
    deltaText select [.block index (.delta kind part)] =
      if select index kind then part else "" := by
  cases h : select index kind <;> simp [deltaText, ClaudeEvent.part?, h]

theorem deltaText_argumentEvents (index : Int) (arguments : String) :
    deltaText select (argumentEvents index arguments) =
      if select index .toolUse then arguments else "" := by
  rw [argumentEvents]
  split
  · exact deltaText_delta ..
  · rename_i h
    rw [not_not.mp h]
    cases select index .toolUse <;> rfl

theorem deltaText_writePart (first : Bool) (block : ContentBlock) (part : String)
    (info : StreamInfo) (hse : ∀ i j, select i block.kind = select j block.kind) :
    deltaText select (writePart first block part info).2 =
      if select 0 block.kind then part else "" := by
  rw [writePart, deltaText_append, deltaText_append, deltaText_delta, hse _ 0]
  have hs : ∀ (p : Prop) [Decidable p],
      deltaText select (if p then [] else stopOpenBlocks info) = "" := by
    intro p _
    split
    · rfl
    · exact deltaText_stopOpenBlocks info
  rw [hs]
  split <;> rfl

theorem deltaText_writeContent (select : Int → BlockKind → Bool) (first : Bool)
    (choice : StreamChoice) (info : StreamInfo)
    (hs : ∀ kind ≠ .toolUse, ∀ i j, select i kind = select j kind) :
    deltaText select (writeContent first choice info).2 =
      if choice.reasoning ≠ "" then if select 0 .thinking then choice.reasoning else ""
      else if select 0 .text then choice.content else "" := by
  rw [writeContent]
  split
  · exact deltaText_writePart _ _ _ _ (hs _ (by decide))
  split
  · exact deltaText_writePart _ _ _ _ (hs _ (by decide))
  · rename_i h
    rw [not_not.mp h]
    split <;> rfl

theorem deltaText_startFirstCall (info : StreamInfo) (calls : List ToolDelta) :
    deltaText select (startFirstCall info calls).2 =
      if select 0 .toolUse then (calls.head?.map (·.arguments)).getD "" else "" := by
  cases calls with
  | nil =>
    cases select 0 .toolUse <;> rfl
  | cons call calls => exact deltaText_argumentEvents 0 call.arguments

theorem deltaText_callEvents (base : Int) (calls : List (ToolDelta × Nat)) :
    deltaText select (calls.flatMap (callEvents base)) = String.join (calls.map fun call =>
      if select (base + ToolDelta.offset call) .toolUse then call.1.arguments else "") := by
  induction calls with
  | nil => rfl
  | cons call calls ih =>
    rw [flatMap_cons, deltaText_append, ih, callEvents, deltaText_append, deltaText_argumentEvents,
      map_cons, String.join_cons]
    split <;> simp [deltaText, ClaudeEvent.part?]

theorem deltaText_writeCalls (calls : List ToolDelta) (info : StreamInfo) :
    deltaText select (writeCalls calls info).2 = String.join (calls.zipIdx.map fun call =>
      if select (info.enterCalls.toolCallBaseIndex + ToolDelta.offset call) .toolUse then
        call.1.arguments else "") := by
  rw [writeCalls, deltaText_append, deltaText_callEvents]
  split
  · exact String.empty_append
  · rw [deltaText_stopOpenBlocks, String.empty_append]

end

def StreamChunk.delta (chunk : StreamChunk) : StreamChoice := chunk.choice.getD {}

def Processed (info : StreamInfo) (chunk : StreamChunk × Nat) : Prop :=
  info.done = false ∧ (chunk.2 = 1 ∨ ¬(chunk.1.delta.finishReason ≠ "" ∧ chunk.1.usage = none))
deriving Decidable

theorem deltaText_laterResponse (select : Int → BlockKind → Bool) (info : StreamInfo)
    (chunk : StreamChunk) :
    deltaText select (laterResponse info chunk).2 =
      if chunk.delta.finishReason ≠ "" ∧ chunk.usage = none then ""
      else deltaText select (writeDelta chunk.delta info).2 := by
  rw [laterResponse, StreamChunk.delta]
  cases chunk.choice with
  | none =>
    simp only
    split
    · exact deltaText_closeMessage ..
    · rfl
  | some choice =>
    simp only [Option.getD_some]
    split
    · rfl
    · exact deltaText_closeIfFinished ..

theorem deltaText_chunkEvents (select : Int → BlockKind → Bool) (info : StreamInfo)
    (chunk : StreamChunk × Nat) :
    deltaText select (chunkEvents info chunk) =
      if Processed info chunk then
        if chunk.2 = 1 then
          deltaText select (startFirstCall info chunk.1.delta.toolCalls).2 ++
            deltaText select (writeContent true chunk.1.delta
              (startFirstCall info chunk.1.delta.toolCalls).1).2
        else deltaText select (writeDelta chunk.1.delta info).2
      else "" := by
  rw [chunkEvents, streamResponseOpenAI2Claude]
  cases hd : info.done with
  | true => simp [Processed, hd, deltaText]
  | false =>
    by_cases hf : chunk.2 = 1
    · simp only [Processed, hd, hf, Bool.false_eq_true, if_false, if_true, true_or, and_self]
      rw [← deltaText_append]
      exact deltaText_closeIfFinished ..
    · simp only [Processed, hd, hf, Bool.false_eq_true, if_false, true_and, false_or]
      rw [deltaText_laterResponse, ite_not]

section

variable {select : Int → BlockKind → Bool} {field : StreamChunk × Nat → String}
  {C keeps : StreamInfo → StreamChunk × Nat → Prop}

theorem joined_eq_iff (hs : ∀ info chunk, C info chunk → ∃ lost,
      field chunk = deltaText select (chunkEvents info chunk) ++ lost ∧
        (keeps info chunk ↔ lost = "")) {info : StreamInfo} {chunks : List (StreamChunk × Nat)}
    (h : Along afterChunk C info chunks) :
    (deltaText select (convertStream info chunks)).length ≤
        (String.join (chunks.map field)).length ∧
      (deltaText select (convertStream info chunks) = String.join (chunks.map field) ↔
        Along afterChunk keeps info chunks) := by
  induction chunks generalizing info with
  | nil => exact ⟨le_rfl, iff_of_true rfl trivial⟩
  | cons chunk chunks ih =>
    obtain ⟨hLe, hi⟩ := ih h.2
    obtain ⟨lost, hf, hk⟩ := hs info chunk h.1
    rw [convertStream_cons, deltaText_append, map_cons, String.join_cons, along_cons, hf, hk]
    simp only [String.length_append]
    refine ⟨by omega, ?_⟩
    by_cases hlo : lost = ""
    · rw [hlo, String.append_empty, String.append_right_inj, hi]
      exact (and_iff_right rfl).symm
    refine iff_of_false (fun he => ?_) fun h => hlo h.1
    have hp : 0 < lost.length := Nat.pos_of_ne_zero (mt String.length_eq_zero_iff.mp hlo)
    have hl := congrArg String.length he
    simp only [String.length_append] at hl
    omega

theorem lost_of_ite (p : Prop) [Decidable p] (content : String) :
    ∃ lost, content = (if p then content else "") ++ lost ∧ (content = "" ∨ p ↔ lost = "") := by
  refine ⟨if p then "" else content, ?_⟩
  by_cases hp : p
  · simp [hp]
  · simp [hp]

end

section

def WritesContent (info : StreamInfo) (chunk : StreamChunk × Nat) : Prop :=
  Processed info chunk ∧ (chunk.2 = 1 ∨ chunk.1.delta.toolCalls = [])
deriving Decidable

def KeepsThinking (info : StreamInfo) (chunk : StreamChunk × Nat) : Prop :=
  chunk.1.delta.reasoning = "" ∨ WritesContent info chunk

def KeepsText (info : StreamInfo) (chunk : StreamChunk × Nat) : Prop :=
  chunk.1.delta.content = "" ∨ WritesContent info chunk ∧ chunk.1.delta.reasoning = ""

def CallsFrom (base : Int) (info : StreamInfo) (chunk : StreamChunk × Nat) : Prop :=
  chunk.1.delta.toolCalls = [] ∨
    if chunk.2 = 1 then base = 0 ∧ ∀ call ∈ chunk.1.delta.toolCalls.head?, call.index.getD 0 = 0
    else info.enterCalls.toolCallBaseIndex = base

def fragments (k : Int) (calls : List (ToolDelta × Nat)) : String :=
  String.join (calls.map fun call => if ToolDelta.offset call = k then call.1.arguments else "")

def droppedCalls (info : StreamInfo) (chunk : StreamChunk × Nat) : List (ToolDelta × Nat) :=
  if Processed info chunk then if chunk.2 = 1 then chunk.1.delta.toolCalls.zipIdx.tail else []
  else chunk.1.delta.toolCalls.zipIdx

def KeepsCall (k : Int) (info : StreamInfo) (chunk : StreamChunk × Nat) : Prop :=
  fragments k (droppedCalls info chunk) = ""

def ofKind (kind : BlockKind) (_ : Int) (other : BlockKind) : Bool := kind = other

def ofCall (index : Int) (i : Int) (kind : BlockKind) : Bool := kind = .toolUse ∧ i = index

variable {info : StreamInfo} {chunk : StreamChunk × Nat}

theorem deltaText_ofKind {kind : BlockKind} (hk : kind ≠ .toolUse) :
    deltaText (ofKind kind) (chunkEvents info chunk) =
      if WritesContent info chunk then
        if chunk.1.delta.reasoning ≠ "" then
          if kind = .thinking then chunk.1.delta.reasoning else ""
        else if kind = .text then chunk.1.delta.content else ""
      else "" := by
  have hca : ∀ i, ofKind kind i .toolUse = false := fun _ => decide_eq_false hk
  have he : ∀ n, String.join (List.replicate n "") = "" := by
    intro n
    induction n with
    | zero => rfl
    | succ n ih => rw [replicate_succ, String.join_cons, ih, String.append_empty]
  have hc := fun first info =>
    deltaText_writeContent (ofKind kind) first chunk.1.delta info fun _ _ _ _ => rfl
  rw [deltaText_chunkEvents, deltaText_startFirstCall, hca, hc, writeDelta]
  by_cases hp : Processed info chunk
  · by_cases hf : chunk.2 = 1
    · simp [WritesContent, hp, hf, ofKind]
    · by_cases hn : chunk.1.delta.toolCalls = []
      · simp [WritesContent, hp, hf, hn, hc, ofKind]
      · simp [WritesContent, hp, hf, hn, deltaText_writeCalls, hca, he]
  · simp [WritesContent, hp]

theorem thinking_lost (info : StreamInfo) (chunk : StreamChunk × Nat) :
    ∃ lost, chunk.1.delta.reasoning =
        deltaText (ofKind .thinking) (chunkEvents info chunk) ++ lost ∧
      (KeepsThinking info chunk ↔ lost = "") := by
  have hk : deltaText (ofKind .thinking) (chunkEvents info chunk) =
      if WritesContent info chunk then chunk.1.delta.reasoning else "" := by
    rw [deltaText_ofKind (by decide)]
    by_cases hn : chunk.1.delta.reasoning = "" <;> simp [hn]
  rw [hk]
  exact lost_of_ite ..

theorem text_lost (info : StreamInfo) (chunk : StreamChunk × Nat) :
    ∃ lost, chunk.1.delta.content = deltaText (ofKind .text) (chunkEvents info chunk) ++ lost ∧
      (KeepsText info chunk ↔ lost = "") := by
  have hk : deltaText (ofKind .text) (chunkEvents info chunk) =
      if WritesContent info chunk ∧ chunk.1.delta.reasoning = "" then chunk.1.delta.content
      else "" := by
    rw [deltaText_ofKind (by decide)]
    by_cases hn : chunk.1.delta.reasoning = "" <;> simp [hn]
  rw [hk]
  exact lost_of_ite ..

theorem call_lost {base : Int} (k : Int) (h : CallsFrom base info chunk) :
    ∃ lost, fragments k chunk.1.delta.toolCalls.zipIdx =
        deltaText (ofCall (base + k)) (chunkEvents info chunk) ++ lost ∧
      (KeepsCall k info chunk ↔ lost = "") := by
  refine ⟨_, ?_, Iff.rfl⟩
  have hco := fun first info =>
    deltaText_writeContent (ofCall (base + k)) first chunk.1.delta info fun kind hk _ _ => by
      simp [ofCall, hk]
  rw [deltaText_chunkEvents, deltaText_startFirstCall, hco, writeDelta, droppedCalls]
  by_cases hp : Processed info chunk
  · by_cases hf : chunk.2 = 1
    · rw [CallsFrom, if_pos hf] at h
      cases hc : chunk.1.delta.toolCalls with
      | nil => simp [hp, hf, ofCall, fragments]
      | cons call calls =>
        obtain ⟨rfl, hi⟩ := h.resolve_left (by simp [hc])
        have ho : ToolDelta.offset (call, 0) = 0 := hi call (by simp [hc])
        simp [hp, hf, ofCall, fragments, ho]
    · rw [CallsFrom, if_neg hf] at h
      by_cases hn : chunk.1.delta.toolCalls = []
      · simp [hp, hf, hn, hco, ofCall, fragments]
      · simp [hp, hf, hn, deltaText_writeCalls, ofCall, h.resolve_left hn, fragments]
  · simp [hp]

end

end DeepRouter.Relay
