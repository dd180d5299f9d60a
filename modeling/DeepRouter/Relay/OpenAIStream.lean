import DeepRouter.Relay.ClaudeUsage

/-! # Streams of OpenAI for Claude clients -/

namespace DeepRouter.Relay

open Runs List

inductive BlockKind where
  | text
  | thinking
  | toolUse
deriving DecidableEq

inductive ContentBlock where
  | text
  | thinking
  | toolUse (id name : String)
deriving DecidableEq

def ContentBlock.kind : ContentBlock → BlockKind
  | .text => .text
  | .thinking => .thinking
  | .toolUse _ _ => .toolUse

inductive BlockEvent where
  | start (block : ContentBlock)
  | delta (kind : BlockKind) (part : String)
  | stop
deriving DecidableEq

inductive ClaudeEvent where
  | messageStart (inputTokens : Int)
  | block (index : Int) (event : BlockEvent)
  | messageDelta (usage : ClaudeUsage) (finishReason : String)
  | messageStop
deriving DecidableEq

structure ToolDelta where
  index : Option Int
  (id name arguments : String := "")

structure StreamChoice where
  (reasoning content : String := "")
  toolCalls : List ToolDelta := []
  finishReason : String := ""

structure StreamChunk where
  choice : Option StreamChoice
  usage : Option Usage := none

structure StreamInfo where
  estimatePromptTokens : Int := 0
  finishReason : String := ""
  lastMessagesType : Option BlockKind := none
  index : Int := 0
  usage : Option Usage := none
  done : Bool := false
  (toolCallBaseIndex toolCallMaxIndexOffset : Int := 0)

def stopOpenBlocks (info : StreamInfo) : List ClaudeEvent :=
  match info.lastMessagesType with
  | none => []
  | some .toolUse => (List.range (info.toolCallMaxIndexOffset + 1).toNat).map fun (offset : Nat) =>
      .block (info.toolCallBaseIndex + offset) .stop
  | some _ => [.block info.index .stop]

def StreamInfo.advance (info : StreamInfo) : StreamInfo :=
  match info.lastMessagesType with
  | none => info
  | some .toolUse =>
    { info with
      index := info.toolCallBaseIndex + info.toolCallMaxIndexOffset + 1
      toolCallBaseIndex := 0
      toolCallMaxIndexOffset := 0
      lastMessagesType := none }
  | some _ => { info with index := info.index + 1, lastMessagesType := none }

def writePart (first : Bool) (block : ContentBlock) (part : String) (info : StreamInfo) :
    StreamInfo × List ClaudeEvent :=
  let same := info.lastMessagesType = some block.kind
  let entered := if same then info else info.advance
  ({ entered with lastMessagesType := some block.kind },
    (if same then [] else stopOpenBlocks info) ++
      (if first ∨ ¬same then [.block entered.index (.start block)] else []) ++
      [.block entered.index (.delta block.kind part)])

def writeContent (first : Bool) (choice : StreamChoice) (info : StreamInfo) :
    StreamInfo × List ClaudeEvent :=
  if choice.reasoning ≠ "" then writePart first .thinking choice.reasoning info
  else if choice.content ≠ "" then writePart first .text choice.content info
  else (info, [])

def argumentEvents (index : Int) (arguments : String) : List ClaudeEvent :=
  if arguments ≠ "" then [.block index (.delta .toolUse arguments)] else []

def startFirstCall (info : StreamInfo) : List ToolDelta → StreamInfo × List ClaudeEvent
  | [] => (info, [])
  | call :: _ =>
    ({ info with
        lastMessagesType := some .toolUse
        toolCallBaseIndex := 0
        toolCallMaxIndexOffset := 0 },
      .block 0 (.start (.toolUse call.id call.name)) :: argumentEvents 0 call.arguments)

def ToolDelta.offset (call : ToolDelta × Nat) : Int := call.1.index.getD call.2

def callEvents (base : Int) (call : ToolDelta × Nat) : List ClaudeEvent :=
  let index := base + ToolDelta.offset call
  (if call.1.name ≠ "" then [.block index (.start (.toolUse call.1.id call.1.name))] else []) ++
    argumentEvents index call.1.arguments

def StreamInfo.enterCalls (info : StreamInfo) : StreamInfo :=
  if info.lastMessagesType = some .toolUse then info
  else { info.advance with toolCallBaseIndex := info.advance.index, toolCallMaxIndexOffset := 0 }

def writeCalls (calls : List ToolDelta) (info : StreamInfo) : StreamInfo × List ClaudeEvent :=
  let entered := info.enterCalls
  let base := entered.toolCallBaseIndex
  let maxOffset := calls.zipIdx.foldl (fun offset call => max offset (ToolDelta.offset call))
    entered.toolCallMaxIndexOffset
  ({ entered with
      lastMessagesType := some .toolUse
      toolCallMaxIndexOffset := maxOffset
      index := base + maxOffset },
    (if info.lastMessagesType = some .toolUse then [] else stopOpenBlocks info) ++
      calls.zipIdx.flatMap (callEvents base))

def closeMessage (usage : Option Usage) (info : StreamInfo) : StreamInfo × List ClaudeEvent :=
  ({ info with done := true },
    stopOpenBlocks info ++
      (usage.map fun usage =>
        .messageDelta (buildClaudeUsageFromOpenAIUsage usage) info.finishReason).toList ++
      [.messageStop])

def closeIfFinished (finishReason : String) (usage : Option Usage)
    (written : StreamInfo × List ClaudeEvent) : StreamInfo × List ClaudeEvent :=
  if finishReason ≠ "" then
    let closed := closeMessage usage { written.1 with finishReason }
    (closed.1, written.2 ++ closed.2)
  else written

def firstResponse (info : StreamInfo) (chunk : StreamChunk) : StreamInfo × List ClaudeEvent :=
  let choice := chunk.choice.getD {}
  let called := startFirstCall info choice.toolCalls
  let written := writeContent true choice called.1
  let finished := closeIfFinished choice.finishReason (chunk.usage.or info.usage)
    (written.1, called.2 ++ written.2)
  (finished.1, .messageStart info.estimatePromptTokens :: finished.2)

def writeDelta (choice : StreamChoice) (info : StreamInfo) : StreamInfo × List ClaudeEvent :=
  if choice.toolCalls ≠ [] then writeCalls choice.toolCalls info
  else writeContent false choice info

def laterResponse (info : StreamInfo) (chunk : StreamChunk) : StreamInfo × List ClaudeEvent :=
  match chunk.choice with
  | none => if (chunk.usage.or info.usage).isSome then closeMessage (chunk.usage.or info.usage) info
      else (info, [])
  | some choice =>
    if choice.finishReason ≠ "" ∧ chunk.usage = none then
      ({ info with finishReason := choice.finishReason }, [])
    else closeIfFinished choice.finishReason (chunk.usage.or info.usage) (writeDelta choice info)

def streamResponseOpenAI2Claude (info : StreamInfo) (chunk : StreamChunk) (sendResponseCount : Nat) :
    StreamInfo × List ClaudeEvent :=
  if info.done then (info, [])
  else if sendResponseCount = 1 then firstResponse info chunk
  else laterResponse info chunk

def afterChunk (info : StreamInfo) (chunk : StreamChunk × Nat) : StreamInfo :=
  (streamResponseOpenAI2Claude info chunk.1 chunk.2).1

def chunkEvents (info : StreamInfo) (chunk : StreamChunk × Nat) : List ClaudeEvent :=
  (streamResponseOpenAI2Claude info chunk.1 chunk.2).2

def convertStream (info : StreamInfo) (chunks : List (StreamChunk × Nat)) : List ClaudeEvent :=
  (outputs afterChunk chunkEvents info chunks).flatten

/-! ## The grammar of the events -/

inductive BlockPhase where
  | fresh
  | opened (kind : BlockKind)
  | closed
deriving DecidableEq

def BlockPhase.next : BlockPhase → BlockEvent → Option BlockPhase
  | .fresh, .start block => some (.opened block.kind)
  | .opened kind, .delta part _ => if part = kind then some (.opened kind) else none
  | .opened _, .stop => some .closed
  | _, _ => none

def track (phases : Int → Option BlockPhase) : ClaudeEvent → Int → Option BlockPhase
  | .block index event, i => if i = index then (phases i).bind (·.next event) else phases i
  | _, _ => none

def Ends (phases : Int → Option BlockPhase) (events : List ClaudeEvent) : Prop :=
  ∃ body usage reason, events = body ++ [.messageDelta usage reason, .messageStop] ∧
    ∀ i, body.foldl track phases i ∈ [some .fresh, some .closed]

def WellFormed (events : List ClaudeEvent) : Prop :=
  ∃ tokens rest, events = .messageStart tokens :: rest ∧ Ends (fun _ => some .fresh) rest

def laid (low high : Int) (kind : BlockKind) (i : Int) : Option BlockPhase :=
  some (if 0 ≤ i ∧ i < low then .closed else if low ≤ i ∧ i < high then .opened kind else .fresh)

section

variable {low high : Int} {kind : BlockKind}

theorem laid_closed {i : Int} (hl : 0 ≤ i) (hh : i < low) :
    laid low high kind i = some .closed := by
  rw [laid, if_pos ⟨hl, hh⟩]

theorem laid_opened {i : Int} (hl : low ≤ i) (hh : i < high) :
    laid low high kind i = some (.opened kind) := by
  rw [laid, if_neg (by omega), if_pos ⟨hl, hh⟩]

theorem laid_fresh {i : Int} (hl : low ≤ i) (hh : high ≤ i) :
    laid low high kind i = some .fresh := by
  rw [laid, if_neg (by omega), if_neg (by omega)]

theorem laid_empty (other : BlockKind) : laid low low kind = laid low low other := by
  funext i
  have hn : ¬(low ≤ i ∧ i < low) := by omega
  simp only [laid, hn, if_false]

theorem track_start (hh : low ≤ high) {block : ContentBlock} (hk : block.kind = kind) :
    track (laid low high kind) (.block high (.start block)) = laid low (high + 1) kind := by
  funext i
  rw [track]
  by_cases hi : i = high
  · rw [if_pos hi, laid_fresh (by omega) (by omega), laid_opened (by omega) (by omega), ← hk]
    rfl
  · have hs : i < high + 1 ↔ i < high := by omega
    simp only [if_neg hi, laid, hs]

theorem track_delta {i : Int} (hl : low ≤ i) (hh : i < high) (part : String) :
    track (laid low high kind) (.block i (.delta kind part)) = laid low high kind := by
  funext j
  rw [track]
  by_cases hj : j = i
  · rw [if_pos hj, laid_opened (by omega) (by omega), Option.bind_some, BlockPhase.next, if_pos rfl]
  · rw [if_neg hj]

theorem track_stop (hl : 0 ≤ low) (hh : low < high) :
    track (laid low high kind) (.block low .stop) = laid (low + 1) high kind := by
  funext i
  rw [track]
  by_cases hi : i = low
  · rw [if_pos hi, laid_opened (by omega) (by omega), laid_closed (by omega) (by omega)]
    rfl
  · have hc : i < low + 1 ↔ i < low := by omega
    have ho : low + 1 ≤ i ↔ low ≤ i := by omega
    simp only [if_neg hi, laid, hc, ho]

theorem track_stops (hl : 0 ≤ low) {n : Nat} (hh : low + n ≤ high) :
    ((List.range n).map fun (offset : Nat) => ClaudeEvent.block (low + offset) .stop).foldl track
      (laid low high kind) = laid (low + n) high kind := by
  induction n with
  | zero => simp
  | succ n ih =>
    rw [range_succ, map_append, foldl_append, ih (by omega)]
    rw [map_singleton, foldl_cons, foldl_nil, track_stop (by omega) (by omega)]
    rw [Nat.cast_succ, add_assoc]

end

theorem StreamInfo.advance_done (info : StreamInfo) : info.advance.done = info.done := by
  rw [advance]
  split <;> rfl

inductive Stands (info : StreamInfo) : (Int → Option BlockPhase) → Prop
  | idle (hl : info.lastMessagesType = none) (hd : info.done = false)
      (hi : 0 ≤ info.index) : Stands info (laid info.index info.index .text)
  | content {kind : BlockKind} (hl : info.lastMessagesType = some kind) (hk : kind ≠ .toolUse)
      (hd : info.done = false) (hi : 0 ≤ info.index) :
      Stands info (laid info.index (info.index + 1) kind)
  | calls (hl : info.lastMessagesType = some .toolUse) (hd : info.done = false)
      (hb : 0 ≤ info.toolCallBaseIndex) (hm : 0 ≤ info.toolCallMaxIndexOffset) :
      Stands info (laid info.toolCallBaseIndex
        (info.toolCallBaseIndex + (info.toolCallMaxIndexOffset + 1)) .toolUse)

section

variable {info : StreamInfo} {phases : Int → Option BlockPhase}

section

variable (h : Stands info phases)

include h

theorem Stands.done : info.done = false := by
  cases h <;> assumption

theorem Stands.stopped :
    0 ≤ info.advance.index ∧
    (stopOpenBlocks info).foldl track phases =
      laid info.advance.index info.advance.index .text := by
  cases h with
  | idle hl hd hi =>
    simp only [stopOpenBlocks, StreamInfo.advance, hl]
    exact ⟨hi, rfl⟩
  | @content kind hl hk hd hi =>
    cases kind with
    | toolUse => exact absurd rfl hk
    | text | thinking =>
      simp only [stopOpenBlocks, StreamInfo.advance, hl, foldl_cons, foldl_nil]
      rw [track_stop hi (by omega)]
      exact ⟨by omega, laid_empty _⟩
  | calls hl hd hb hm =>
    have hc : ((info.toolCallMaxIndexOffset + 1).toNat : Int) =
      info.toolCallMaxIndexOffset + 1 := Int.toNat_of_nonneg (by omega)
    simp only [stopOpenBlocks, StreamInfo.advance, hl]
    rw [track_stops hb (by omega), hc, add_assoc]
    exact ⟨by omega, laid_empty _⟩

theorem Stands.writePart {first : Bool} {block : ContentBlock}
    (hf : first = false ∨ info.lastMessagesType ≠ some block.kind) (hb : block.kind ≠ .toolUse)
    (part : String) :
    Stands (writePart first block part info).1
      ((writePart first block part info).2.foldl track phases) := by
  by_cases hsa : info.lastMessagesType = some block.kind
  · have hn : first = false := hf.resolve_right (not_not.mpr hsa)
    simp only [Relay.writePart, hsa, hn, if_true, Bool.false_eq_true, not_true, or_self, if_false,
      nil_append, foldl_cons, foldl_nil]
    cases h with
    | idle hl => simp [hl] at hsa
    | calls hl => simp [hl, hb.symm] at hsa
    | @content kind hl hk hd hi =>
      obtain rfl : kind = block.kind := by simpa [hl] using hsa
      rw [track_delta le_rfl (by omega)]
      exact .content rfl hb hd hi
  · obtain ⟨hi, hs⟩ := h.stopped
    simp only [Relay.writePart, hsa, if_false, not_false_eq_true, or_true, if_true, append_assoc,
      foldl_append, hs, foldl_cons, foldl_nil]
    rw [laid_empty block.kind, track_start le_rfl rfl, track_delta le_rfl (by omega)]
    exact .content rfl hb (info.advance_done.trans h.done) hi

theorem Stands.writeContent {first : Bool}
    (hf : first = false ∨ info.lastMessagesType = none ∨ info.lastMessagesType = some .toolUse)
    (choice : StreamChoice) :
    Stands (writeContent first choice info).1
      ((writeContent first choice info).2.foldl track phases) := by
  have ho : ∀ kind, kind ≠ .toolUse → first = false ∨ info.lastMessagesType ≠ some kind := by
    rintro kind hk
    rcases hf with hf | hf | hf
    · exact .inl hf
    · exact .inr (by rw [hf]; nofun)
    · exact .inr (by rw [hf]; simpa using hk.symm)
  rw [Relay.writeContent]
  split
  · exact h.writePart (ho _ (by decide)) (by decide) _
  · split
    · exact h.writePart (ho _ (by decide)) (by decide) _
    · exact h

theorem Stands.withReason (reason : String) :
    Stands { info with finishReason := reason } phases := by
  cases h with
  | idle hl hd hi => exact .idle hl hd hi
  | content hl hk hd hi => exact .content hl hk hd hi
  | calls hl hd hb hm => exact .calls hl hd hb hm

theorem Stands.ends (reason : String) (usage : Usage) :
    Ends phases (closeMessage (some usage) { info with finishReason := reason }).2 := by
  refine ⟨stopOpenBlocks info, _, _, append_assoc .., fun i => ?_⟩
  rw [h.stopped.2, laid]
  split
  · simp
  · rw [if_neg (by omega)]
    simp

end

end

section

def countStarted (started : Int) (call : ToolDelta × Nat) : Int :=
  if call.1.name ≠ "" then started + 1 else started

def StartsInOrder (started : Int) (call : ToolDelta × Nat) : Prop :=
  if call.1.name ≠ "" then ToolDelta.offset call = started
  else 0 ≤ ToolDelta.offset call ∧ ToolDelta.offset call < started
deriving Decidable

variable {base started : Int}

theorem track_argumentEvents {index low high : Int} (hl : low ≤ index) (hh : index < high)
    (arguments : String) :
    (argumentEvents index arguments).foldl track (laid low high .toolUse) =
      laid low high .toolUse := by
  rw [argumentEvents]
  split
  · exact track_delta hl hh arguments
  · rfl

theorem track_callEvents (hs : 0 ≤ started) {call : ToolDelta × Nat}
    (h : StartsInOrder started call) :
    (callEvents base call).foldl track (laid base (base + started) .toolUse) =
      laid base (base + countStarted started call) .toolUse := by
  rw [StartsInOrder] at h
  rw [callEvents, countStarted, foldl_append]
  split at h
  · rename_i hn
    have hk : (ContentBlock.toolUse call.1.id call.1.name).kind = .toolUse := rfl
    rw [if_pos hn, if_pos hn, h, foldl_cons, foldl_nil, track_start (by omega) hk,
      track_argumentEvents (by omega) (by omega), add_assoc]
  · rename_i hn
    rw [if_neg hn, if_neg hn, foldl_nil, track_argumentEvents (by omega) (by omega)]

theorem StartsInOrder.counted {call : ToolDelta × Nat} (h : StartsInOrder started call)
    (hs : 0 ≤ started) :
    started ≤ countStarted started call ∧ 1 ≤ countStarted started call ∧
      max (max 0 (started - 1)) (ToolDelta.offset call) =
        max 0 (countStarted started call - 1) := by
  rw [StartsInOrder] at h
  rw [countStarted]
  split at h
  · rename_i hn
    rw [if_pos hn]
    omega
  · rename_i hn
    rw [if_neg hn]
    omega

theorem calls_in_order (base : Int) {calls : List (ToolDelta × Nat)} (hs : 0 ≤ started)
    (h : Along countStarted StartsInOrder started calls) :
    (calls.flatMap (callEvents base)).foldl track (laid base (base + started) .toolUse) =
        laid base (base + run countStarted started calls) .toolUse ∧
      calls.foldl (fun offset call => max offset (ToolDelta.offset call)) (max 0 (started - 1)) =
        max 0 (run countStarted started calls - 1) ∧ started ≤ run countStarted started calls := by
  induction calls generalizing started with
  | nil => exact ⟨rfl, rfl, le_rfl⟩
  | cons call calls ih =>
    obtain ⟨hl, hp, hm⟩ := h.1.counted hs
    obtain ⟨ht, hf, hr⟩ := ih (hs.trans hl) h.2
    rw [flatMap_cons, foldl_append, track_callEvents hs h.1, ht, foldl_cons, hm, hf, run_cons]
    exact ⟨rfl, rfl, hl.trans hr⟩

end

def Follows (phases : Int → Option BlockPhase) (result : StreamInfo × List ClaudeEvent) : Prop :=
  result.1.done = true ∧ Ends phases result.2 ∨ Stands result.1 (result.2.foldl track phases)

theorem Ends.append {phases : Int → Option BlockPhase} {first rest : List ClaudeEvent}
    (h : Ends (first.foldl track phases) rest) : Ends phases (first ++ rest) := by
  obtain ⟨body, usage, reason, rfl, hb⟩ := h
  refine ⟨first ++ body, usage, reason, (append_assoc ..).symm, ?_⟩
  rw [foldl_append]
  exact hb

section

variable {info : StreamInfo} {phases : Int → Option BlockPhase} {chunk : StreamChunk}

def StreamInfo.started (info : StreamInfo) : Int :=
  if info.lastMessagesType = some .toolUse then info.toolCallMaxIndexOffset + 1 else 0

theorem Stands.enterCalls (h : Stands info phases) :
    0 ≤ info.started ∧ 0 ≤ info.enterCalls.toolCallBaseIndex ∧
      info.enterCalls.toolCallMaxIndexOffset = max 0 (info.started - 1) ∧
      info.enterCalls.done = false ∧
      (if info.lastMessagesType = some .toolUse then [] else stopOpenBlocks info).foldl track
        phases = laid info.enterCalls.toolCallBaseIndex
          (info.enterCalls.toolCallBaseIndex + info.started) .toolUse := by
  rw [StreamInfo.started, StreamInfo.enterCalls]
  split
  · rename_i hc
    cases h with
    | idle hl => simp [hl] at hc
    | content hl hk => simp [hl, hk] at hc
    | calls hl hd hb hm => exact ⟨by omega, hb, by omega, hd, rfl⟩
  · obtain ⟨hi, hs⟩ := h.stopped
    rw [hs, laid_empty .toolUse]
    simp [hi, info.advance_done, h.done]

theorem Stands.writeCalls (h : Stands info phases) {calls : List ToolDelta} (hc : calls ≠ [])
    (hor : Along countStarted StartsInOrder info.started calls.zipIdx) :
    Stands (writeCalls calls info).1 ((writeCalls calls info).2.foldl track phases) := by
  obtain ⟨hst, hb, hm, hd, he⟩ := h.enterCalls
  obtain ⟨ht, hf, -⟩ := calls_in_order info.enterCalls.toolCallBaseIndex hst hor
  have hp : 1 ≤ run countStarted info.started calls.zipIdx := by
    cases calls with
    | nil => exact absurd rfl hc
    | cons call calls =>
      rw [zipIdx_cons] at hor ⊢
      obtain ⟨hl, ho, -⟩ := hor.1.counted hst
      exact ho.trans (calls_in_order 0 (hst.trans hl) hor.2).2.2
  have hh : (Relay.writeCalls calls info).1.toolCallMaxIndexOffset + 1 =
      run countStarted info.started calls.zipIdx := by
    simp only [Relay.writeCalls, hm, hf]
    omega
  have hs : Stands (Relay.writeCalls calls info).1 _ := .calls rfl hd hb (by omega)
  rw [hh] at hs
  simp only [Relay.writeCalls, foldl_append, he, ht]
  exact hs

theorem stands_or_ends {written : StreamInfo × List ClaudeEvent}
    (h : Stands written.1 (written.2.foldl track phases)) {reason : String} {usage : Option Usage}
    (hu : reason = "" ∨ usage.isSome) : Follows phases (closeIfFinished reason usage written) := by
  rw [closeIfFinished]
  split
  · rename_i hr
    obtain ⟨usage, rfl⟩ := Option.isSome_iff_exists.mp (hu.resolve_left hr)
    exact .inl ⟨rfl, (h.ends reason usage).append⟩
  · exact .inr h

theorem laterResponse_follows (h : Stands info phases)
    (ho : (chunk.choice.getD {}).finishReason ≠ "" ∧ chunk.usage = none ∨
      Along countStarted StartsInOrder info.started (chunk.choice.getD {}).toolCalls.zipIdx) :
    Follows phases (laterResponse info chunk) := by
  rw [laterResponse]
  cases hch : chunk.choice with
  | none =>
    simp only
    split
    · rename_i hu
      obtain ⟨usage, hu⟩ := Option.isSome_iff_exists.mp hu
      rw [hu]
      exact .inl ⟨rfl, h.ends info.finishReason usage⟩
    · exact .inr h
  | some choice =>
    rw [hch, Option.getD_some] at ho
    simp only
    split
    · exact .inr (h.withReason _)
    rename_i hf
    have hc := ho.resolve_left hf
    have hw : Stands (writeDelta choice info).1
        ((writeDelta choice info).2.foldl track phases) := by
      rw [writeDelta]
      split
      · exact h.writeCalls ‹_› hc
      · exact h.writeContent (.inl rfl) choice
    refine stands_or_ends hw ?_
    cases hu : chunk.usage with
    | none => exact .inl (by simpa [hu] using hf)
    | some usage => exact .inr rfl

theorem startFirstCall_stands (hn : info.lastMessagesType = none) (hid : info.index = 0)
    (hd : info.done = false) (calls : List ToolDelta) :
    Stands (startFirstCall info calls).1
      ((startFirstCall info calls).2.foldl track fun _ => some .fresh) := by
  have hf : (fun _ => some .fresh) = laid 0 0 .toolUse := by
    funext i
    rw [laid, if_neg (by omega), if_neg (by omega)]
  rw [hf]
  cases calls with
  | nil =>
    have hi := Stands.idle hn hd hid.ge
    rw [hid] at hi
    exact laid_empty .text ▸ hi
  | cons call calls =>
    have hk : (ContentBlock.toolUse call.id call.name).kind = .toolUse := rfl
    rw [startFirstCall, foldl_cons, track_start le_rfl hk, track_argumentEvents le_rfl (by decide)]
    exact .calls rfl hd le_rfl le_rfl

theorem firstResponse_follows (hn : info.lastMessagesType = none) (hi : info.index = 0)
    (hd : info.done = false) (hu : (chunk.choice.getD {}).finishReason = "" ∨
      (chunk.usage.or info.usage).isSome) :
    ∃ rest, (firstResponse info chunk).2 = .messageStart info.estimatePromptTokens :: rest ∧
      Follows (fun _ => some .fresh) ((firstResponse info chunk).1, rest) := by
  refine ⟨_, rfl, stands_or_ends ?_ hu⟩
  rw [foldl_append]
  refine (startFirstCall_stands hn hi hd _).writeContent (.inr ?_) _
  cases (chunk.choice.getD {}).toolCalls with
  | nil => exact .inl hn
  | cons call calls => exact .inr rfl

theorem convertStream_cons (info : StreamInfo) (chunk : StreamChunk × Nat)
    (chunks : List (StreamChunk × Nat)) : convertStream info (chunk :: chunks) =
      chunkEvents info chunk ++ convertStream (afterChunk info chunk) chunks := rfl

theorem convertStream_done (hd : info.done = true) (chunks : List (StreamChunk × Nat)) :
    convertStream info chunks = [] := by
  induction chunks with
  | nil => rfl
  | cons chunk chunks ih =>
    have hs : streamResponseOpenAI2Claude info chunk.1 chunk.2 = (info, []) := if_pos hd
    rw [convertStream_cons, afterChunk, chunkEvents, hs, ih]
    rfl

theorem ends_of_follows {events : List ClaudeEvent} (h : Follows phases (info, events))
    {chunks : List (StreamChunk × Nat)} (hr : Stands info (events.foldl track phases) →
      Ends (events.foldl track phases) (convertStream info chunks)) :
    Ends phases (events ++ convertStream info chunks) := by
  rcases h with ⟨hd, he⟩ | hs
  · rw [convertStream_done hd, append_nil]
    exact he
  · exact (hr hs).append

end

def usageChunk (usage : Usage) : StreamChunk := { choice := none, usage := some usage }

def newStream (estimate : Int) (known : Option Usage) : StreamInfo :=
  { estimatePromptTokens := estimate, usage := known }

/-- The first chunk has a usage if it ends the stream; later ones start the calls of a group of tool
blocks in the order of the indices, and a delta without a name continues a call of that group. -/
def Orderly (info : StreamInfo) (chunk : StreamChunk × Nat) : Prop :=
  let choice := chunk.1.choice.getD {}
  if chunk.2 = 1 then choice.finishReason = "" ∨ (chunk.1.usage.or info.usage).isSome
  else choice.finishReason ≠ "" ∧ chunk.1.usage = none ∨
    Along countStarted StartsInOrder info.started choice.toolCalls.zipIdx
deriving Decidable

theorem convertStream_ends {info : StreamInfo} {phases : Int → Option BlockPhase}
    (h : Stands info phases) (usage : Usage) {chunks : List StreamChunk} {n : Nat} (hn : 1 < n)
    (ho : Along afterChunk Orderly info (chunks.zipIdx n)) :
    Ends phases (convertStream info ((chunks ++ [usageChunk usage]).zipIdx n)) := by
  have hon : n ≠ 1 := by omega
  induction chunks generalizing info phases n with
  | nil =>
    have hse : chunkEvents info (usageChunk usage, n) = (closeMessage (some usage) info).2 := by
      simp [chunkEvents, streamResponseOpenAI2Claude, h.done, hon, laterResponse, usageChunk]
    rw [nil_append, zipIdx_cons, convertStream_cons, hse]
    exact (append_nil _).symm ▸ h.ends info.finishReason usage
  | cons chunk chunks ih =>
    obtain ⟨hc, hch⟩ := ho
    have hse : (afterChunk info (chunk, n), chunkEvents info (chunk, n)) =
        laterResponse info chunk := by
      simp [afterChunk, chunkEvents, streamResponseOpenAI2Claude, h.done, hon]
    rw [Orderly, if_neg hon] at hc
    rw [cons_append, zipIdx_cons, convertStream_cons]
    refine ends_of_follows ?_ fun hs => ih hs (by omega) hch (by omega)
    rw [hse]
    exact laterResponse_follows h hc

theorem converted_stream_wellFormed (estimate : Int) (known : Option Usage) (usage : Usage)
    {chunks : List StreamChunk} (hChunks : chunks ≠ [])
    (hOrder : Along afterChunk Orderly (newStream estimate known) (chunks.zipIdx 1)) :
    WellFormed (convertStream (newStream estimate known)
      ((chunks ++ [usageChunk usage]).zipIdx 1)) := by
  cases chunks with
  | nil => exact absurd rfl hChunks
  | cons chunk chunks =>
    obtain ⟨hc, hr⟩ := hOrder
    obtain ⟨rest, hs, hf⟩ := firstResponse_follows rfl rfl rfl hc
    refine ⟨estimate, _, ?_, ends_of_follows hf fun hst =>
      convertStream_ends hst usage (by decide) hr⟩
    rw [cons_append, zipIdx_cons, convertStream_cons]
    exact congrArg (· ++ _) hs

theorem interleaved_stream_wellFormed :
    let chunks : List StreamChunk := [⟨some { reasoning := "r" }, none⟩,
      ⟨some { toolCalls := [{ index := some 0, name := "f" }, { index := some 1, name := "g" }] },
        none⟩,
      ⟨some { toolCalls := [{ index := some 0, arguments := "x" }] }, none⟩,
      ⟨some { content := "t" }, none⟩, ⟨some { finishReason := "stop" }, none⟩]
    WellFormed (convertStream (newStream 0 none) ((chunks ++ [usageChunk {}]).zipIdx 1)) :=
  converted_stream_wellFormed 0 none {} (by simp) (by decide)

def ClaudeEvent.atBlock (index : Int) : ClaudeEvent → Option BlockEvent
  | .block i event => if i = index then some event else none
  | _ => none

/-- A stream of one chunk has no message delta, and block 2 is only stopped when the second call
follows a text. -/
theorem unusual_streams_malformed :
    convertStream (newStream 0 none)
        ([⟨some { content := "t", finishReason := "stop" }, none⟩, usageChunk {}].zipIdx 1) =
      [.messageStart 0, .block 0 (.start .text), .block 0 (.delta .text "t"), .block 0 .stop,
        .messageStop] ∧
    (convertStream (newStream 0 none)
        ([⟨some { toolCalls := [{ index := some 0, name := "f" }] }, none⟩,
          ⟨some { content := "t" }, none⟩,
          ⟨some { toolCalls := [{ index := some 1, name := "g" }] }, none⟩,
          ⟨some { finishReason := "tool_calls" }, none⟩, usageChunk {}].zipIdx 1)).filterMap
      (·.atBlock 2) = [.stop] := by
  decide

end DeepRouter.Relay
