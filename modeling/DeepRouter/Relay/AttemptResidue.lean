import DeepRouter.Relay.RetryBudget

/-! # What a failed attempt leaves for the price

All attempts of a request share one relay info. -/

namespace DeepRouter.Relay

open Store Runs RelayState List TextRelayInfo

/-! ## The formats of a request -/

inductive RequestType where
  | generalOpenAIRequest
  | openAIResponsesRequest
  | claudeRequest
  | geminiChatRequest
  | embeddingRequest
  | rerankRequest
  | imageRequest
  | audioRequest
  | other

def guessRelayFormatFromRequest : RequestType → Option RelayFormat
  | .generalOpenAIRequest => some .openai
  | .openAIResponsesRequest => some .openaiResponses
  | .claudeRequest => some .claude
  | .geminiChatRequest => some .gemini
  | .embeddingRequest => some (.other "embedding")
  | .rerankRequest => some (.other "rerank")
  | .imageRequest => some (.other "openai_image")
  | .audioRequest => some (.other "openai_audio")
  | .other => none

namespace TextRelayInfo

def initRequestConversionChain (info : TextRelayInfo) : TextRelayInfo :=
  if info.requestConversionChain ≠ [] then info
  else if info.relayFormat = .other "" then info
  else { info with requestConversionChain := [info.relayFormat] }

def appendRequestConversion (info : TextRelayInfo) (format : RelayFormat) : TextRelayInfo :=
  if format = .other "" then info
  else if info.requestConversionChain.getLast? = some format then info
  else { info with requestConversionChain := info.requestConversionChain ++ [format] }

def lastFormat (info : TextRelayInfo) : RelayFormat :=
  info.requestConversionChain.getLast?.getD info.relayFormat

end TextRelayInfo

inductive ChatRoute where
  | passThrough
  | converted (request : RequestType)
  | viaResponses (request : Option RequestType)

inductive ChatStage where
  | unconverted
  | unanswered
  | answered
deriving DecidableEq

structure ChatTurn where
  outside : Attempt
  route : ChatRoute
  stage : ChatStage
  claudeAdaptor : Bool
  webSearchRequests : Int := 0

namespace ChatTurn

variable (turn : ChatTurn)

def conversions : List RelayFormat :=
  if turn.stage = .unconverted then []
  else
    match turn.route with
    | .passThrough => []
    | .converted request => (guessRelayFormatFromRequest request).toList
    | .viaResponses request =>
      .openaiResponses :: (request.bind guessRelayFormatFromRequest).toList

def entersClaude : Bool :=
  match turn.route with
  | .viaResponses _ => false
  | _ => turn.claudeAdaptor && decide (turn.stage = .answered)

def left (info : TextRelayInfo) : TextRelayInfo :=
  let info := turn.conversions.foldl TextRelayInfo.appendRequestConversion
    info.initRequestConversionChain
  if turn.entersClaude then { info with finalRequestRelayFormat := some .claude } else info

def attempt (info : TextRelayInfo) : Attempt :=
  { turn.outside with
    requestConversionChain := (turn.left info).requestConversionChain
    finalRequestRelayFormat := (turn.left info).finalRequestRelayFormat
    responsesUsageInfo := none }

end ChatTurn

structure ChatState where
  relay : RelayState
  calls : ToolCalls := {}

def ChatState.step (cfg : RetrySettings) (request : RelayRequest) (state : ChatState)
    (turn : ChatTurn) : ChatState :=
  let relay := state.relay.step cfg request (turn.attempt state.relay.info)
  { relay
    calls :=
      if state.relay.phase = .running ∧ relay.phase = .served ∧ 0 < turn.webSearchRequests then
        { state.calls with claudeWebSearchRequests := turn.webSearchRequests }
      else state.calls }

/-! ## What a handler leaves -/

section

variable {info : TextRelayInfo}

theorem lastFormat_init (info : TextRelayInfo) :
    info.initRequestConversionChain.lastFormat = info.lastFormat := by
  simp only [initRequestConversionChain]
  split_ifs with hc he
  · rfl
  · rfl
  · rw [not_not] at hc
    simp [lastFormat, hc]

variable {format : RelayFormat}

theorem lastFormat_append (h : format ≠ .other "") :
    (info.appendRequestConversion format).lastFormat = format := by
  simp only [appendRequestConversion, if_neg h]
  split
  · rename_i hl
    rw [lastFormat, hl, Option.getD_some]
  · rw [lastFormat, getLast?_concat, Option.getD_some]

theorem lastFormat_foldl {formats : List RelayFormat} (h : ∀ format ∈ formats, format ≠ .other "") :
    (formats.foldl appendRequestConversion info).lastFormat =
      formats.getLast?.getD info.lastFormat := by
  induction formats generalizing info with
  | nil => rfl
  | cons format formats ih =>
    obtain ⟨hfm, hf⟩ := forall_mem_cons.mp h
    rw [foldl_cons, ih hf, lastFormat_append hfm, getLast?_cons, Option.getD_some]

theorem guessRelayFormatFromRequest_ne {request : RequestType}
    (h : format ∈ (guessRelayFormatFromRequest request).toList) : format ≠ .other "" := by
  cases request <;> simp_all [guessRelayFormatFromRequest]

theorem conversions_ne (turn : ChatTurn) (h : format ∈ turn.conversions) : format ≠ .other "" := by
  simp only [ChatTurn.conversions] at h
  split at h
  · exact absurd h not_mem_nil
  split at h
  · exact absurd h not_mem_nil
  · exact guessRelayFormatFromRequest_ne h
  rename_i request _
  obtain rfl | h := mem_cons.mp h
  · simp
  · cases request with
    | none => exact absurd h not_mem_nil
    | some request => exact guessRelayFormatFromRequest_ne h

theorem lastFormat_left (turn : ChatTurn) (info : TextRelayInfo) :
    (turn.left info).lastFormat = turn.conversions.getLast?.getD info.lastFormat := by
  have hf : (turn.conversions.foldl appendRequestConversion
      info.initRequestConversionChain).lastFormat =
        turn.conversions.getLast?.getD info.lastFormat := by
    rw [lastFormat_foldl fun format => conversions_ne turn, lastFormat_init]
  simp only [ChatTurn.left]
  split
  · exact hf
  · exact hf

theorem init_eq (info : TextRelayInfo) : info.initRequestConversionChain =
    { info with
      requestConversionChain := info.initRequestConversionChain.requestConversionChain } := by
  simp only [initRequestConversionChain]
  split_ifs <;> rfl

theorem append_eq (info : TextRelayInfo) (format : RelayFormat) :
    info.appendRequestConversion format =
      { info with
        requestConversionChain := (info.appendRequestConversion format).requestConversionChain } := by
  simp only [appendRequestConversion]
  split_ifs <;> rfl

theorem foldl_eq (formats : List RelayFormat) (info : TextRelayInfo) :
    formats.foldl appendRequestConversion info =
      { info with
        requestConversionChain := (formats.foldl appendRequestConversion
          info).requestConversionChain } := by
  induction formats generalizing info with
  | nil => rfl
  | cons format formats ih =>
    refine (ih _).trans ?_
    exact congrArg (fun before : TextRelayInfo => { before with
      requestConversionChain := (formats.foldl appendRequestConversion
        (info.appendRequestConversion format)).requestConversionChain }) (append_eq info format)

theorem left_eq (turn : ChatTurn) (info : TextRelayInfo) :
    turn.left info = { info with
      requestConversionChain := (turn.left info).requestConversionChain
      finalRequestRelayFormat :=
        bif turn.entersClaude then some .claude else info.finalRequestRelayFormat } := by
  have hf := (foldl_eq turn.conversions info.initRequestConversionChain).trans
    (congrArg (fun before : TextRelayInfo => { before with
      requestConversionChain := (turn.conversions.foldl appendRequestConversion
        info.initRequestConversionChain).requestConversionChain }) (init_eq info))
  cases he : turn.entersClaude with
  | true =>
    rw [ChatTurn.left, if_pos he]
    exact congrArg (fun after : TextRelayInfo =>
      { after with finalRequestRelayFormat := some .claude }) hf
  | false =>
    rw [ChatTurn.left, if_neg (by simp [he])]
    exact hf

end

/-! ## What a sequence of attempts leaves -/

def ReadsClaude (relayFormat : RelayFormat) (turns : List ChatTurn) : Prop :=
  (∃ turn ∈ turns, turn.entersClaude = true) ∨
    (turns.flatMap ChatTurn.conversions).getLast?.getD relayFormat = .claude

structure Residue (turns : List ChatTurn) (before after : TextRelayInfo) : Prop where
  relayFormat : after.relayFormat = before.relayFormat
  lastFormat : after.lastFormat =
    (turns.flatMap ChatTurn.conversions).getLast?.getD before.lastFormat
  final : after.finalRequestRelayFormat =
    bif turns.any ChatTurn.entersClaude then some .claude else before.finalRequestRelayFormat

namespace Residue

variable {turns : List ChatTurn} {before between after : TextRelayInfo}

theorem refl (info : TextRelayInfo) : Residue [] info info := ⟨rfl, rfl, rfl⟩

theorem append {first second : List ChatTurn} (hf : Residue first before between)
    (hs : Residue second between after) : Residue (first ++ second) before after := by
  refine ⟨hs.relayFormat.trans hf.relayFormat, ?_, ?_⟩
  · rw [hs.lastFormat, hf.lastFormat, flatMap_append, getLast?_append]
    cases (second.flatMap ChatTurn.conversions).getLast? <;> rfl
  · rw [hs.final, hf.final, any_append]
    cases second.any ChatTurn.entersClaude <;> cases first.any ChatTurn.entersClaude <;> rfl

theorem readsClaude_iff (h : Residue turns before after)
    (hc : before.requestConversionChain = []) (hf : before.finalRequestRelayFormat = none) :
    after.getFinalRequestRelayFormat = .claude ↔ ReadsClaude before.relayFormat turns := by
  have hl : before.lastFormat = before.relayFormat := by
    rw [TextRelayInfo.lastFormat, hc]
    rfl
  have ha := h.lastFormat
  rw [hl] at ha
  rw [getFinalRequestRelayFormat, h.final, hf, ReadsClaude, ← any_eq_true]
  cases han : turns.any ChatTurn.entersClaude with
  | true => simp
  | false =>
    rw [← ha]
    simp [TextRelayInfo.lastFormat]

end Residue

section

variable {cfg : RetrySettings} {request : RelayRequest}

theorem next_info (state : RelayState) : (state.next cfg).info = state.info := by
  rw [RelayState.next, turn_info]

theorem next_smartRouterFallback (state : RelayState) :
    (state.next cfg).smartRouterFallback = state.smartRouterFallback := by
  rw [RelayState.next, turn]
  split <;> rfl

theorem handled_residue {state before : RelayState} (turn : ChatTurn)
    (hi : before.info = { state.info with priceData := before.info.priceData }) :
    let info := (before.handled (turn.attempt state.info)).info
    Residue [turn] state.info info ∧ info.originModelName = state.info.originModelName ∧
      info.responsesUsageInfo = none := by
  have hf : before.info.relayFormat = state.info.relayFormat := by rw [hi]
  refine ⟨⟨hf, ?_, ?_⟩, ?_, rfl⟩
  · have hl := lastFormat_left turn state.info
    rw [flatMap_singleton, ← hl]
    simp only [lastFormat, handled, ChatTurn.attempt, hf]
    rw [left_eq turn state.info]
  · rw [any_cons, any_nil, Bool.or_false]
    exact congrArg finalRequestRelayFormat (left_eq turn state.info)
  · show before.info.originModelName = _
    rw [hi]

theorem step_residue {state after : RelayState} (turn : ChatTurn)
    (ht : Turned cfg (turn.attempt state.info)
      (getChannel cfg request (turn.attempt state.info) state) after)
    (ha : after.phase = .served ∨ after.phase = .running ∧
      state.smartRouterFallback.length ≤ after.smartRouterFallback.length) :
    Residue [turn] state.info after.info ∧
      after.info.originModelName = state.info.originModelName ∧
      after.info.responsesUsageInfo = none := by
  obtain ⟨hc, -, hi⟩ := getChannel_kept cfg request (turn.attempt state.info) state
  have hh := handled_residue turn hi
  cases ht with
  | fellBack failed exhausted fallback =>
    obtain hs | ⟨-, hk⟩ := ha
    · exact absurd hs (turn_phase cfg _)
    · rw [next_smartRouterFallback, ← hc, fallback] at hk
      simp at hk
  | served body reply => exact hh
  | retried err =>
    rw [next_info]
    exact hh
  | _ => simp [RelayState.fail] at ha

theorem reply_of_served {state after : RelayState} {att : Attempt}
    (ht : Turned cfg att (getChannel cfg request att state) after) (hs : after.phase = .served) :
    att.bodyError = none ∧ att.reply = none := by
  cases ht with
  | served body reply => exact ⟨body, reply⟩
  | fellBack failed exhausted fallback => exact absurd hs (turn_phase cfg _)
  | retried err => exact absurd hs (turn_phase cfg _)
  | _ => cases hs

variable {state : ChatState}

theorem step_relay_of_not_running (turn : ChatTurn) (h : state.relay.phase ≠ .running) :
    (state.step cfg request turn).relay = state.relay :=
  step_of_not_running _ h

theorem run_phase (turns : List ChatTurn)
    (h : (run (ChatState.step cfg request) state turns).relay.phase = .running) :
    state.relay.phase = .running := by
  by_contra hn
  refine run_preserves (I := fun after : ChatState => after.relay.phase ≠ .running) ?_ hn turns h
  intro after turn ha
  rw [step_relay_of_not_running turn ha]
  exact ha

theorem step_fallback_le (turn : ChatTurn)
    (h : (state.step cfg request turn).relay.phase = .running) :
    (state.step cfg request turn).relay.smartRouterFallback.length ≤
      state.relay.smartRouterFallback.length := by
  have hr : state.relay.phase = .running := run_phase [turn] h
  obtain ⟨-, param, -, hg⟩ :=
    (step_turned cfg request (turn.attempt state.relay.info) hr).progress.running h
  show (state.relay.step cfg request _).smartRouterFallback.length ≤ _
  generalize (state.relay.step cfg request _).smartRouterFallback = chain at hg
  cases hg with
  | retried => exact le_rfl
  | fellBack fallback failed exhausted =>
    rw [fallback]
    exact Nat.le_succ _

theorem run_fallback_le {turns : List ChatTurn}
    (h : (run (ChatState.step cfg request) state turns).relay.phase = .running) :
    (run (ChatState.step cfg request) state turns).relay.smartRouterFallback.length ≤
      state.relay.smartRouterFallback.length := by
  induction turns generalizing state with
  | nil => exact le_rfl
  | cons turn turns ih => exact (ih h).trans (step_fallback_le turn (run_phase turns h))

theorem step_calls (turn : ChatTurn) (h : (state.step cfg request turn).relay.phase = .running) :
    (state.step cfg request turn).calls = state.calls := by
  have hn : (state.relay.step cfg request (turn.attempt state.relay.info)).phase ≠ .served := by
    intro hs
    cases h.symm.trans hs
  exact if_neg fun ha => hn ha.2.1

theorem run_calls {turns : List ChatTurn}
    (h : (run (ChatState.step cfg request) state turns).relay.phase = .running) :
    (run (ChatState.step cfg request) state turns).calls = state.calls := by
  induction turns generalizing state with
  | nil => rfl
  | cons turn turns ih =>
    rw [run_cons] at h ⊢
    rw [ih h, step_calls turn (run_phase turns h)]

theorem run_residue {turns : List ChatTurn}
    (hr : (run (ChatState.step cfg request) state turns).relay.phase = .running)
    (hm : state.relay.smartRouterFallback.length ≤
      (run (ChatState.step cfg request) state turns).relay.smartRouterFallback.length) :
    let after := run (ChatState.step cfg request) state turns
    Residue turns state.relay.info after.relay.info ∧
      after.relay.info.originModelName = state.relay.info.originModelName := by
  induction turns generalizing state with
  | nil => exact ⟨Residue.refl _, rfl⟩
  | cons turn turns ih =>
    have hf : state.relay.phase = .running := run_phase (turn :: turns) hr
    rw [run_cons] at hm hr ⊢
    have hne := run_phase turns hr
    have hl := run_fallback_le hr
    have hs := step_fallback_le turn hne
    obtain ⟨htu, hna, -⟩ := step_residue turn (step_turned cfg request _ hf) (.inr ⟨hne, hm.trans hl⟩)
    obtain ⟨ht, hn⟩ := ih hr (hs.trans hm)
    exact ⟨htu.append ht, hn.trans hna⟩

end

end DeepRouter.Relay
