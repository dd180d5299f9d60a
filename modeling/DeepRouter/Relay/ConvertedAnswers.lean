import DeepRouter.Library.GoStrings
import DeepRouter.Relay.ToClaude
import Mathlib.Data.List.Nodup

/-! # Answers converted to the chat format and to the one of Gemini -/

namespace DeepRouter.Relay.Answers

open GoStrings ToClaude List

/-! ## From the Responses API -/

structure ResponsesOutputContent where
  (type text : String)

structure ResponsesOutput where
  type : String
  (id role callId name : String := "")
  /-- The result of `ArgumentsString`. -/
  arguments : String := ""
  content : List ResponsesOutputContent := []

structure ChatAnswer where
  content : String
  toolCalls : List ToolCallRequest
  finishReason : String

namespace ResponsesOutput

def isAssistant (out : ResponsesOutput) : Bool :=
  out.type = "message" ∧ (out.role = "" ∨ out.role = "assistant")

def isCall (out : ResponsesOutput) : Bool := out.type = "function_call"

def toolCall (out : ResponsesOutput) : ToolCallRequest :=
  { id := if trimSpace out.callId = "" then trimSpace out.id else trimSpace out.callId
    name := trimSpace out.name
    arguments := out.arguments }

/-- `sb.WriteString` for the contents that a loop takes. -/
def write (takes : ResponsesOutputContent → Bool) (text : String) (out : ResponsesOutput) : String :=
  out.content.foldl (fun text part => if takes part ∧ part.text ≠ "" then text ++ part.text else text)
    text

def texts (takes : ResponsesOutputContent → Bool) (out : ResponsesOutput) : String :=
  String.join ((out.content.filter takes).map (·.text))

end ResponsesOutput

def extractOutputTextFromResponses (output : List ResponsesOutput) : String :=
  let preferred := output.foldl
    (fun text out => if out.isAssistant then out.write (·.type = "output_text") text else text) ""
  if preferred ≠ "" then preferred
  else output.foldl (fun text out => out.write (fun _ => true) text) preferred

def collectCall (calls : List ToolCallRequest) (out : ResponsesOutput) : List ToolCallRequest :=
  if !out.isCall then calls
  else if trimSpace out.name = "" then calls
  else calls ++ [out.toolCall]

def responsesResponseToChatCompletionsResponse :
    Option (List ResponsesOutput) → Except String ChatAnswer
  | none => .error "response is nil"
  | some output =>
    let text := extractOutputTextFromResponses output
    let toolCalls := if text = "" then output.foldl collectCall [] else []
    .ok {
      content := if toolCalls.isEmpty then text else ""
      toolCalls
      finishReason := if toolCalls.isEmpty then "stop" else "tool_calls" }

section

variable (output : List ResponsesOutput)

def assistantText : String :=
  String.join ((output.filter (·.isAssistant)).map (·.texts (·.type = "output_text")))

def anyText : String := String.join (output.map (·.texts fun _ => true))

def functionCalls : List ToolCallRequest := (output.filter (·.isCall)).map (·.toolCall)

/-- The text of the assistant or, where it has none, all texts. -/
def answerText : String := if assistantText output ≠ "" then assistantText output else anyText output

theorem foldl_write {α : Type} (p : α → Bool) (text : α → String) (l : List α) (s : String) :
    l.foldl (fun s x => if p x then s ++ text x else s) s =
      s ++ String.join ((l.filter p).map text) := by
  induction l generalizing s with
  | nil => simp
  | cons x l ih =>
    rw [foldl_cons, ih]
    by_cases h : p x
    · simp [h, String.append_assoc]
    · simp [h]

theorem write_eq (takes : ResponsesOutputContent → Bool) (text : String) (out : ResponsesOutput) :
    out.write takes text = text ++ out.texts takes := by
  have hs : (fun (text : String) (part : ResponsesOutputContent) =>
      if takes part ∧ part.text ≠ "" then text ++ part.text else text) =
        fun text part => if takes part then text ++ part.text else text := by
    funext text part
    by_cases ht : part.text = ""
    · simp [ht]
    · simp [ht]
  rw [ResponsesOutput.write, hs, foldl_write]
  rfl

theorem extractOutputTextFromResponses_eq :
    extractOutputTextFromResponses output = answerText output := by
  have ha := foldl_write (fun _ => true) (·.texts fun _ => true) output
  simp only [if_true, filter_true] at ha
  have has := foldl_write (·.isAssistant) (·.texts (·.type = "output_text")) output ""
  simp only [extractOutputTextFromResponses, write_eq, has, ha, String.empty_append]
  change (if assistantText output ≠ "" then assistantText output
    else assistantText output ++ anyText output) = answerText output
  rw [answerText]
  split
  · rfl
  · rename_i hn
    rw [Decidable.not_not.mp hn, String.empty_append]

variable {output}

theorem foldl_collectCall
    (h : ∀ out ∈ output, out.isCall = true → trimSpace out.name ≠ "") (calls : List ToolCallRequest) :
    output.foldl collectCall calls = calls ++ functionCalls output := by
  induction output generalizing calls with
  | nil => exact (append_nil _).symm
  | cons out output ih =>
    obtain ⟨hou, ho⟩ := forall_mem_cons.mp h
    rw [foldl_cons, ih ho]
    by_cases hc : out.isCall = true
    · simp [collectCall, functionCalls, hc, hou hc]
    · simp [collectCall, functionCalls, hc]

/-- An answer with a text has no calls, and one without has all of them. -/
theorem responses_calls_without_text
    (h : ∀ out ∈ output, out.isCall = true → trimSpace out.name ≠ "") :
    ∃ answer, responsesResponseToChatCompletionsResponse (some output) = .ok answer ∧
      answer.content = answerText output ∧
      answer.toolCalls = (if answerText output = "" then functionCalls output else []) ∧
      (answer.finishReason = "tool_calls" ↔
        answerText output = "" ∧ ∃ out ∈ output, out.isCall = true) := by
  have hs : functionCalls output ≠ [] ↔ ∃ out ∈ output, out.isCall = true := by
    simp [functionCalls]
  simp only [responsesResponseToChatCompletionsResponse, extractOutputTextFromResponses_eq,
    foldl_collectCall h, nil_append, ← hs]
  refine ⟨_, rfl, ?_, rfl, ?_⟩
  · by_cases ht : answerText output = ""
    · simp [ht]
    · simp [ht]
  · by_cases ht : answerText output = ""
    · cases functionCalls output <;> simp [ht]
    · simp [ht]

end

theorem responses_calls_without_text_of_call :
    ∃ answer, responsesResponseToChatCompletionsResponse
        (some [{ type := "function_call", callId := "1", name := "f" }]) = .ok answer ∧
      answer.finishReason = "tool_calls" := by
  obtain ⟨answer, ha, -, -, hr⟩ := @responses_calls_without_text
    [{ type := "function_call", callId := "1", name := "f" }] (by decide)
  exact ⟨answer, ha, hr.mpr (by decide)⟩

/-- The second answer has no text of the assistant: the text of its reasoning takes the place. -/
theorem call_beside_text_dropped :
    let call : ResponsesOutput := { type := "function_call", callId := "1", name := "f" }
    let answered (item : ResponsesOutput) :=
      (responsesResponseToChatCompletionsResponse (some [item, call])).map fun answer =>
        (answer.content, answer.toolCalls.length, answer.finishReason)
    answered { type := "message", content := [⟨"output_text", "t"⟩] } = .ok ("t", 0, "stop") ∧
      answered { type := "reasoning", content := [⟨"summary_text", "r"⟩] } =
        .ok ("r", 0, "stop") := by
  decide

/-! ## To Gemini -/

inductive GeminiPart where
  | text (content : String)
  | functionCall (functionName : String) (arguments : List (String × Json))

def GeminiPart.text? : GeminiPart → Option String
  | .text content => some content
  | .functionCall _ _ => none

def GeminiPart.call? : GeminiPart → Option (String × List (String × Json))
  | .text _ => none
  | .functionCall functionName arguments => some (functionName, arguments)

structure AnswerChoice where
  content : String
  toolCalls : List ToolCallRequest

/-- The calls of a delta come with their indices; a list may be present and empty. -/
structure StreamedChoice where
  content : String := ""
  toolCalls : Option (List (Nat × ToolCallRequest)) := none
  finishReason : Option String := none

section

variable (unmarshal : String → Option (List (String × Json)))

def callArguments (arguments : String) : List (String × Json) :=
  if arguments ≠ "" then (unmarshal arguments).getD [("arguments", .str arguments)] else []

def functionPart (call : ToolCallRequest) : GeminiPart :=
  .functionCall call.name (callArguments unmarshal call.arguments)

def textPart (content : String) : List GeminiPart :=
  if content ≠ "" then [.text content] else []

def AnswerChoice.parts (choice : AnswerChoice) : List GeminiPart :=
  if choice.toolCalls.length > 0 then choice.toolCalls.map (functionPart unmarshal)
  else textPart choice.content

def StreamedChoice.parts (choice : StreamedChoice) : List GeminiPart :=
  match choice.toolCalls with
  | some calls => calls.map fun call => functionPart unmarshal call.2
  | none => textPart choice.content

def responseOpenAI2Gemini (choices : List AnswerChoice) : List (List GeminiPart) :=
  choices.map (·.parts unmarshal)

def streamResponseOpenAI2Gemini (choices : List StreamedChoice) : Option (List (List GeminiPart)) :=
  let hasContent := choices.any fun choice => choice.content ≠ "" ∨ choice.toolCalls.getD [] ≠ []
  let hasFinishReason := choices.any fun choice => choice.finishReason.isSome
  if !hasContent ∧ !hasFinishReason then none
  else some (choices.map (·.parts unmarshal))

/-- The parts of all outputs for the chunks of a stream. -/
def streamedParts (chunks : List (List StreamedChoice)) : List GeminiPart :=
  chunks.flatMap fun choices => ((streamResponseOpenAI2Gemini unmarshal choices).getD []).flatten

end

def deltas (choices : List StreamedChoice) : List (Nat × ToolCallRequest) :=
  choices.flatMap fun choice => choice.toolCalls.getD []

/-- The texts make up the content; each call is opened by its id and name, the calls in order, and
its fragments make up its arguments. -/
structure Streams (choice : AnswerChoice) (choices : List StreamedChoice) : Prop where
  content : String.join (choices.map (·.content)) = choice.content
  order : (List.range choice.toolCalls.length).Sublist ((deltas choices).map (·.1))
  calls : ∀ k call, choice.toolCalls[k]? = some call →
    ∃ first rest, (deltas choices).filter (·.1 = k) = first :: rest ∧
      first.2.id = call.id ∧ first.2.name = call.name ∧
      String.join ((first :: rest).map (·.2.arguments)) = call.arguments

def SameContent (parts others : List GeminiPart) : Prop :=
  parts.filterMap (·.call?) = others.filterMap (·.call?) ∧
    String.join (parts.filterMap (·.text?)) = String.join (others.filterMap (·.text?))

section

variable {unmarshal : String → Option (List (String × Json))}

theorem streamedParts_eq (chunks : List (List StreamedChoice)) :
    streamedParts unmarshal chunks = chunks.flatten.flatMap (·.parts unmarshal) := by
  rw [← flatMap_id, flatMap_assoc, streamedParts]
  refine flatMap_congr fun choices _ => ?_
  rw [streamResponseOpenAI2Gemini]
  split
  · rename_i hn
    -- a chunk that is skipped has no part
    have he : ∀ choice ∈ choices, choice.parts unmarshal = [] := by
      intro choice hChoice
      have hChoice' := hn.1
      simp only [Bool.not_eq_true', any_eq_false, decide_eq_true_eq, not_or, not_not] at hChoice'
      obtain ⟨hco, hc⟩ := hChoice' choice hChoice
      cases hl : choice.toolCalls with
      | none => simp [StreamedChoice.parts, textPart, hl, hco]
      | some calls => simpa [StreamedChoice.parts, hl] using hc
    exact (flatMap_eq_nil_iff.mpr he).symm
  · exact flatMap_def.symm

theorem filterMap_textPart (content : String) :
    (textPart content).filterMap (·.call?) = [] ∧
      String.join ((textPart content).filterMap (·.text?)) = content := by
  by_cases h : content = "" <;> simp [textPart, h, GeminiPart.call?, GeminiPart.text?]

theorem calls_streamed (choices : List StreamedChoice) :
    (choices.flatMap (·.parts unmarshal)).filterMap (·.call?) =
      (deltas choices).map fun call => (call.2.name, callArguments unmarshal call.2.arguments) := by
  rw [filterMap_flatMap, deltas, map_flatMap]
  refine flatMap_congr fun choice _ => ?_
  cases hc : choice.toolCalls with
  | none => simp [StreamedChoice.parts, hc, filterMap_textPart]
  | some calls =>
    simp [StreamedChoice.parts, hc, filterMap_map, functionPart, GeminiPart.call?]

theorem calls_answer (choice : AnswerChoice) :
    (choice.parts unmarshal).filterMap (·.call?) =
      choice.toolCalls.map fun call => (call.name, callArguments unmarshal call.arguments) := by
  cases hc : choice.toolCalls with
  | nil => simp [AnswerChoice.parts, hc, filterMap_textPart]
  | cons call calls =>
    simp [AnswerChoice.parts, hc, filterMap_map, Function.comp_def, functionPart, GeminiPart.call?]

/-- Where every call comes in one delta, the deltas are the calls. -/
theorem Streams.calls_eq {choice : AnswerChoice} {choices : List StreamedChoice}
    (h : Streams choice choices) (hl : (deltas choices).length = choice.toolCalls.length) :
    ((deltas choices).map fun call => (call.2.name, callArguments unmarshal call.2.arguments)) =
      choice.toolCalls.map fun call => (call.name, callArguments unmarshal call.arguments) := by
  have hid : List.range choice.toolCalls.length = (deltas choices).map (·.1) :=
    h.order.eq_of_length (by simp [hl])
  refine ext_getElem (by simp [hl]) fun k hk hk' => ?_
  simp only [length_map] at hk hk'
  obtain ⟨first, rest, hfi, -, hn, har⟩ := h.calls k _ (getElem?_eq_getElem hk')
  have ho : ((deltas choices).filter (·.1 = k)).length ≤ 1 := by
    have hc := nodup_iff_count_le_one.mp (nodup_range (n := choice.toolCalls.length)) k
    rw [hid, count_eq_countP, countP_map, countP_eq_length_filter] at hc
    exact hc
  have hr : rest = [] := by
    rw [hfi, length_cons] at ho
    exact length_eq_zero_iff.mp (by omega)
  have hf : (deltas choices)[k] = first := by
    have hi : (deltas choices)[k].1 = k := by
      have ha := congrArg (·[k]?) hid
      simpa [hk, hk', eq_comm] using ha
    have hm : (deltas choices)[k] ∈ (deltas choices).filter (·.1 = k) :=
      mem_filter.mpr ⟨getElem_mem hk, decide_eq_true hi⟩
    rw [hfi, hr] at hm
    exact mem_singleton.mp hm
  rw [hr] at har
  simp only [getElem_map, hf, hn]
  simpa using congrArg _ har

theorem flatMap_kept_eq_iff {α β : Type} (p : α → Prop) [DecidablePred p] (f : α → List β)
    (l : List α) :
    (l.flatMap fun x => if p x then f x else []).length ≤ (l.flatMap f).length ∧
      ((l.flatMap fun x => if p x then f x else []) = l.flatMap f ↔ ∀ x ∈ l, ¬p x → f x = []) := by
  induction l with
  | nil => simp
  | cons x l ih =>
    obtain ⟨hLe, hi⟩ := ih
    rw [flatMap_cons, flatMap_cons, forall_mem_cons, ← hi, length_append, length_append]
    by_cases hp : p x
    · rw [if_pos hp, append_cancel_left_eq]
      exact ⟨by omega, (and_iff_right (absurd hp)).symm⟩
    rw [if_neg hp, nil_append, length_nil]
    by_cases hn : f x = []
    · rw [hn, nil_append]
      exact ⟨by simpa using hLe, (and_iff_right fun _ => rfl).symm⟩
    have hpo := length_pos_iff.mpr hn
    refine ⟨by omega, iff_of_false (fun he => ?_) fun h => hn (h.1 hp)⟩
    have hl := congrArg List.length he
    rw [length_append] at hl
    omega

theorem join_kept_eq_iff {α : Type} (p : α → Prop) [DecidablePred p] (text : α → String)
    (l : List α) :
    String.join (l.map fun x => if p x then text x else "") = String.join (l.map text) ↔
      ∀ x ∈ l, ¬p x → text x = "" := by
  have hk := (flatMap_kept_eq_iff p (fun x => (text x).toList) l).2
  simp only [String.toList_eq_nil_iff] at hk
  rw [← hk, ← String.toList_inj, String.toList_join, String.toList_join, flatMap_map, flatMap_map]
  simp only [apply_ite String.toList, String.toList_empty]

theorem texts_streamed (choices : List StreamedChoice) :
    String.join ((choices.flatMap (·.parts unmarshal)).filterMap (·.text?)) =
      String.join (choices.map fun choice =>
        if choice.toolCalls = none then choice.content else "") := by
  induction choices with
  | nil => rfl
  | cons choice choices ih =>
    rw [flatMap_cons, filterMap_append, String.join_append, ih, map_cons, String.join_cons]
    congr 1
    cases hc : choice.toolCalls with
    | none => simp [StreamedChoice.parts, hc, filterMap_textPart]
    | some calls =>
      simp [StreamedChoice.parts, hc, filterMap_map, functionPart, GeminiPart.text?]

/-- A stream has the parts of the whole message exactly when no call is split, a text stands beside
no calls, and no list of calls is in its way. -/
theorem gemini_stream_agrees_iff {choice : AnswerChoice} {chunks : List (List StreamedChoice)}
    (h : Streams choice chunks.flatten) :
    SameContent (streamedParts unmarshal chunks) (responseOpenAI2Gemini unmarshal [choice]).flatten ↔
      (deltas chunks.flatten).length = choice.toolCalls.length ∧
        ∀ streamed ∈ chunks.flatten,
          (streamed.toolCalls = none ↔ choice.toolCalls ≠ []) → streamed.content = "" := by
  have ha : (responseOpenAI2Gemini unmarshal [choice]).flatten = choice.parts unmarshal := by
    simp [responseOpenAI2Gemini]
  rw [SameContent, ha, streamedParts_eq, calls_streamed, calls_answer, texts_streamed]
  refine and_congr ⟨fun he => by simpa using congrArg List.length he, h.calls_eq⟩ ?_
  by_cases hc : choice.toolCalls = []
  · have ht : String.join ((choice.parts unmarshal).filterMap (·.text?)) =
        String.join (chunks.flatten.map (·.content)) := by
      rw [h.content]
      simp [AnswerChoice.parts, hc, filterMap_textPart]
    rw [ht, join_kept_eq_iff (·.toolCalls = none) (·.content) chunks.flatten]
    simp [hc]
  · have ht : String.join ((choice.parts unmarshal).filterMap (·.text?)) = "" := by
      simp [AnswerChoice.parts, length_pos_iff.mpr hc, filterMap_map, Function.comp_def,
        functionPart, GeminiPart.text?]
    rw [ht, ← String.toList_eq_nil_iff, String.toList_join, flatMap_eq_nil_iff, forall_mem_map]
    refine forall₂_congr fun streamed _ => ?_
    by_cases hn : streamed.toolCalls = none <;> simp [hn, hc]

theorem gemini_stream_agrees_of_call :
    let call : ToolCallRequest := ⟨"1", "f", "\x7b\x7d"⟩
    let chunks : List (List StreamedChoice) := [[{ toolCalls := some [(0, call)] }]]
    Streams ⟨"", [call]⟩ chunks.flatten ∧
    SameContent (streamedParts (fun _ => none) chunks)
      (responseOpenAI2Gemini (fun _ => none) [⟨"", [call]⟩]).flatten := by
  intro call chunks
  have h : Streams ⟨"", [call]⟩ chunks.flatten := by
    refine ⟨by decide, by simp [deltas, chunks], fun k other h => ?_⟩
    cases k with
    | zero =>
      cases h
      exact ⟨_, _, rfl, rfl, rfl, by decide⟩
    | succ k => cases h
  exact ⟨h, (gemini_stream_agrees_iff h).mpr ⟨rfl, by simp [chunks]⟩⟩

theorem split_call_doubled :
    let chunks : List (List StreamedChoice) :=
      [[{ toolCalls := some [(0, ⟨"1", "f", "\x7b"⟩)] }], [{ toolCalls := some [(0, ⟨"", "", "\x7d"⟩)] }]]
    let choice : AnswerChoice := ⟨"", [⟨"1", "f", "\x7b\x7d"⟩]⟩
    Streams choice chunks.flatten ∧
      ¬ SameContent (streamedParts (fun _ => none) chunks)
        (responseOpenAI2Gemini (fun _ => none) [choice]).flatten := by
  refine ⟨⟨by decide, by simp [deltas], fun k call h => ?_⟩, fun h => ?_⟩
  · cases k with
    | zero =>
      cases h
      exact ⟨_, _, rfl, rfl, rfl, by decide⟩
    | succ k => cases h
  · exact absurd (congrArg List.length h.1) (by decide)

end

end DeepRouter.Relay.Answers
