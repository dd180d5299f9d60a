import DeepRouter.Library.Json
import Mathlib.Algebra.GroupWithZero.Nat
import Mathlib.Data.List.DropRight

/-! # Chat requests for Claude -/

namespace DeepRouter.Relay.ToClaude

open List

inductive MessageContent where
  | null
  | text (content : String)
  | parts (texts : List String)

namespace MessageContent

def isString : MessageContent → Bool
  | .text _ => true
  | _ => false

def texts : MessageContent → List String
  | .null => []
  | .text content => [content]
  | .parts texts => texts

def stringContent (content : MessageContent) : String := String.join content.texts

end MessageContent

structure ToolCallRequest where
  (id name arguments : String)

structure Message where
  role : String
  content : MessageContent
  toolCallId : String := ""
  toolCalls : Option (List ToolCallRequest) := none

inductive ClaudeMediaMessage where
  | text (content : String)
  | toolUse (id name : String) (input : List (String × Json))
  | toolResult (toolUseId : String) (content : MessageContent)

inductive ClaudeContent where
  | text (content : String)
  | media (messages : List ClaudeMediaMessage)

structure ClaudeMessage where
  role : String
  content : ClaudeContent

/-! ## Merging neighbours -/

def quote : Char := Char.ofNat 34

def trimQuotes (s : String) : String :=
  String.ofList ((s.toList.dropWhile (· = quote)).rdropWhile (· = quote))

def Message.formatted (message : Message) : Message :=
  { role := message.role
    content := message.content
    toolCallId := if message.role = "tool" then message.toolCallId else ""
    toolCalls := if message.role = "assistant" then message.toolCalls else none }

def Message.setStringContent (content : String) (message : Message) : Message :=
  { message with content := .text content }

def Message.filled (message : Message) : Message :=
  match message.content with
  | .null | .text "" => message.setStringContent "..."
  | _ => message

def joins (last message : Message) : Bool :=
  last.role = message.role ∧ last.role ≠ "tool" ∧ last.content.isString ∧ message.content.isString

def formatStep (message : Message) : List Message → List Message
  | [] => [message.formatted.filled]
  | last :: older =>
    if joins last message then
      (message.formatted.setStringContent (trimQuotes
        (last.content.stringContent ++ " " ++ message.content.stringContent))).filled :: older
    else message.formatted.filled :: last :: older

def formatMessages (messages : List Message) : List Message := messages.foldr formatStep []

/-! ## Conversion -/

structure Converted where
  messages : List ClaudeMessage := []
  system : List String := []

def ClaudeContent.toMedia : ClaudeContent → List ClaudeMediaMessage
  | .text content => [.text content]
  | .media messages => messages

section

variable (unmarshal : String → Option (List (String × Json)))

def toolUses (calls : Option (List ToolCallRequest)) : List ClaudeMediaMessage :=
  (calls.getD []).filterMap fun call =>
    (unmarshal call.arguments).map fun input => .toolUse call.id call.name input

def MessageContent.nonEmptyTexts (content : MessageContent) : List String :=
  content.texts.filter (· ≠ "")

def Message.toClaude (message : Message) : ClaudeMessage :=
  { role := message.role
    content := match message.content, message.toolCalls with
      | .text content, none => .text (if content = "" then "..." else content)
      | content, calls => .media (content.nonEmptyTexts.map .text ++ toolUses unmarshal calls) }

def addResult (result : ClaudeMediaMessage) : List ClaudeMessage → List ClaudeMessage
  | [] => [⟨"user", .media [result]⟩]
  | last :: older =>
    if last.role = "user" then { last with content := .media (last.content.toMedia ++ [result]) } :: older
    else ⟨"user", .media [result]⟩ :: last :: older

def convertStep (message : Message) (state : Converted) : Converted :=
  if message.role = "system" then
    { state with system := state.system ++ message.content.nonEmptyTexts }
  else
    let messages := if state.messages.isEmpty ∧ message.role ≠ "user" then
      [⟨"user", .media [.text "..."]⟩] else state.messages
    { state with
      messages := if message.role = "tool" then
          addResult (.toolResult message.toolCallId message.content) messages
        else message.toClaude unmarshal :: messages }

def convertMessages (messages : List Message) : Converted :=
  messages.foldr (convertStep unmarshal) {}

def requestOpenAI2ClaudeMessage (messages : List Message) : Converted :=
  let converted := convertMessages unmarshal (formatMessages messages.reverse)
  { converted with messages := converted.messages.reverse }

end

/-! ## Texts in order -/

inductive InOrder : List String → List String → Prop
  | nil : InOrder [] []
  | start {texts blocks : List String} (h : InOrder texts blocks) : InOrder texts (blocks ++ [""])
  | write {texts blocks : List String} {block : String} (h : InOrder texts (blocks ++ [block]))
      (text : String) : InOrder (texts ++ [text]) (blocks ++ [block ++ text])
  | fill {texts blocks : List String} {block : String} (h : InOrder texts (blocks ++ [block]))
      (other : String) : InOrder texts (blocks ++ [block ++ other])

def quotes (texts : List String) : Nat := (texts.map (·.toList.count quote)).sum

section

variable {texts blocks : List String}

@[simp] theorem quotes_append (first second : List String) :
    quotes (first ++ second) = quotes first + quotes second := by
  simp [quotes]

theorem quotes_singleton_append (a b : String) : quotes [a ++ b] = quotes [a] + quotes [b] := by
  simp [quotes]

theorem InOrder.block (h : InOrder texts blocks) (other : String) :
    InOrder texts (blocks ++ [other]) := by
  simpa using h.start.fill other

theorem InOrder.append (h : InOrder texts blocks) (more : List String) :
    InOrder (texts ++ more) (blocks ++ more) := by
  induction more generalizing texts blocks with
  | nil => simpa using h
  | cons text more ih => simpa using ih (h.start.write text)

theorem InOrder.cons (h : InOrder texts blocks) (other : String) :
    InOrder texts (other :: blocks) := by
  induction h with
  | nil => exact InOrder.nil.block other
  | start _ ih => exact ih.start
  | @write texts blocks block _ text ih =>
    have ih : InOrder texts ((other :: blocks) ++ [block]) := ih
    exact ih.write text
  | @fill texts blocks block _ more ih =>
    have ih : InOrder texts ((other :: blocks) ++ [block]) := ih
    exact ih.fill more

theorem InOrder.quotes_le (h : InOrder texts blocks) : quotes texts ≤ quotes blocks := by
  induction h with
  | nil => exact le_rfl
  | start _ ih => rw [quotes_append]; omega
  | write _ text ih =>
    rw [quotes_append] at ih ⊢
    rw [quotes_append, quotes_singleton_append]
    omega
  | fill _ other ih =>
    rw [quotes_append] at ih ⊢
    rw [quotes_singleton_append]
    omega

end

theorem exists_trimQuotes (s : String) : ∃ before after : List Char,
    s.toList = before ++ (trimQuotes s).toList ++ after ∧
      (∀ c ∈ before, c = quote) ∧ ∀ c ∈ after, c = quote := by
  refine ⟨s.toList.takeWhile (· = quote), (s.toList.dropWhile (· = quote)).rtakeWhile (· = quote),
    ?_, fun c hc => ?_, fun c hc => ?_⟩
  · rw [trimQuotes, String.toList_ofList, append_assoc, rdropWhile_append_rtakeWhile,
      takeWhile_append_dropWhile]
  · simpa using mem_takeWhile_imp hc
  · simpa using mem_rtakeWhile_imp hc

theorem count_trimQuotes (s : String) :
    quotes [trimQuotes s] ≤ quotes [s] ∧ (quotes [trimQuotes s] = quotes [s] → trimQuotes s = s) := by
  obtain ⟨before, after, hs, hb, ha⟩ := exists_trimQuotes s
  have hcn : quotes [s] = before.length + quotes [trimQuotes s] + after.length := by
    simp [quotes, hs, count_eq_length.mpr fun c hc => (hb c hc).symm,
      count_eq_length.mpr fun c hc => (ha c hc).symm, Nat.add_assoc]
  refine ⟨by omega, fun hsa => String.toList_inj.mp ?_⟩
  rw [hs, eq_nil_of_length_eq_zero (by omega : before.length = 0),
    eq_nil_of_length_eq_zero (by omega : after.length = 0), nil_append, append_nil]

theorem head?_trimQuotes (s : String) : (trimQuotes s).toList.head? ≠ some quote := by
  intro h
  rw [trimQuotes, String.toList_ofList] at h
  obtain ⟨rest, hr⟩ := rdropWhile_prefix (p := (· = quote)) (s.toList.dropWhile (· = quote))
  have hd : (s.toList.dropWhile (· = quote)).head? = some quote := by
    rw [← hr, head?_append, h]
    rfl
  have hn := head?_dropWhile_not (fun c => decide (c = quote)) s.toList
  rw [hd] at hn
  simp at hn

theorem getLast?_trimQuotes (s : String) : (trimQuotes s).toList.getLast? ≠ some quote := by
  intro h
  rw [trimQuotes, String.toList_ofList, getLast?_eq_some_iff] at h
  obtain ⟨rest, hr⟩ := h
  have hn := rdropWhile_last_not (fun c => decide (c = quote))
    (s.toList.dropWhile (· = quote)) (by rw [hr]; simp)
  simp [hr] at hn

theorem trimQuotes_eq_iff (a b : String) : trimQuotes (a ++ " " ++ b) = a ++ " " ++ b ↔
    a.toList.head? ≠ some quote ∧ b.toList.getLast? ≠ some quote := by
  have hli : (a ++ " " ++ b).toList = a.toList ++ Char.ofNat 32 :: b.toList := by simp
  constructor
  · intro h
    have hh := head?_trimQuotes (a ++ " " ++ b)
    have hl := getLast?_trimQuotes (a ++ " " ++ b)
    rw [h, hli] at hh hl
    refine ⟨fun ha => hh ?_, fun hb => hl ?_⟩
    · rw [head?_append, ha]
      rfl
    · rw [getLast?_append, getLast?_cons, hb]
      rfl
  · rintro ⟨hh, hl⟩
    have hd : (a ++ " " ++ b).toList.dropWhile (· = quote) = (a ++ " " ++ b).toList := by
      rw [hli]
      cases ha : a.toList with
      | nil => rfl
      | cons c rest => exact dropWhile_cons_of_neg (by simpa [ha] using hh)
    have hr : (a ++ " " ++ b).toList.rdropWhile (· = quote) = (a ++ " " ++ b).toList := by
      rw [hli]
      obtain hb | ⟨rest, c, hb⟩ := b.toList.eq_nil_or_concat'
      · rw [hb]
        exact rdropWhile_concat_neg _ _ _ (by decide)
      · rw [hb, ← cons_append, ← append_assoc]
        exact rdropWhile_concat_neg _ _ _ (by simpa [hb] using hl)
    rw [trimQuotes, hd, hr, String.ofList_toList]

/-! ## What merging keeps -/

def MessageContent.isParts : MessageContent → Bool
  | .parts _ => true
  | _ => false

def joinsLast (message : Message) : List Message → Bool
  | [] => false
  | last :: _ => last.role = message.role ∧ last.role ≠ "tool" ∧ last.content.isParts = false ∧
      message.content.isString

def startsQuoted : List Message → Bool
  | [] => false
  | message :: earlier => joinsLast message earlier = false ∧
      message.content.stringContent.toList.head? = some quote

structure Formats (message : Message) (earlier : List Message) (last : Message) : Prop where
  role : last.role = message.role
  toolCallId : last.toolCallId = message.formatted.toolCallId
  toolCalls : last.toolCalls = message.formatted.toolCalls
  content : (∃ texts, message.content = .parts texts ∧ last.content = .parts texts) ∨
    message.content.isParts = false ∧ ∃ text, last.content = .text text ∧ text ≠ "" ∧
      (text.toList.head? = some quote ↔ startsQuoted (message :: earlier))

open MessageContent

@[simp] theorem MessageContent.stringContent_text (text : String) :
    (MessageContent.text text).stringContent = text := by
  simp [stringContent, texts]

section

variable {message last : Message} {earlier : List Message}

theorem Message.setStringContent_role (content : String) :
    (message.formatted.setStringContent content).role = message.role := rfl

theorem Message.filled_text {text : String} (hc : message.content = .text text)
    (ht : text ≠ "") : message.filled = message := by
  rw [filled]
  split <;> simp_all

theorem formats_filled (hn : joinsLast message earlier = false) :
    Formats message earlier message.formatted.filled := by
  obtain ⟨role, content, toolCallId, toolCalls⟩ := message
  cases content with
  | null =>
    refine ⟨rfl, rfl, rfl, .inr ⟨rfl, "...", rfl, by decide, ?_⟩⟩
    simp [startsQuoted, MessageContent.stringContent, MessageContent.texts, quote]
  | parts texts => exact ⟨rfl, rfl, rfl, .inl ⟨texts, rfl, rfl⟩⟩
  | text text =>
    by_cases ht : text = ""
    · subst ht
      refine ⟨rfl, rfl, rfl, .inr ⟨rfl, "...", rfl, by decide, ?_⟩⟩
      simp [startsQuoted, quote]
    · rw [Message.filled_text rfl ht]
      refine ⟨rfl, rfl, rfl, .inr ⟨rfl, text, rfl, ht, ?_⟩⟩
      simp [startsQuoted, hn]

theorem trimQuotes_ne_empty (a b : String) : trimQuotes (a ++ " " ++ b) ≠ "" := by
  intro h
  obtain ⟨before, after, hs, hb, ha⟩ := exists_trimQuotes (a ++ " " ++ b)
  have hsp : Char.ofNat 32 ∈ (a ++ " " ++ b).toList := by simp
  rw [hs, h, String.toList_empty, append_nil] at hsp
  have hq : Char.ofNat 32 = quote := (mem_append.mp hsp).elim (hb _) (ha _)
  exact absurd hq (by decide)

theorem formats_joined (h : joinsLast message earlier = true) (a b : String) :
    Formats message earlier
      (message.formatted.setStringContent (trimQuotes (a ++ " " ++ b))) := by
  refine ⟨rfl, rfl, rfl, .inr ⟨?_, _, rfl, trimQuotes_ne_empty _ _,
    iff_of_false (head?_trimQuotes _) (by simp [startsQuoted, h])⟩⟩
  cases earlier with
  | nil => cases h
  | cons last earlier =>
    cases hc : message.content with
    | parts texts => simp [joinsLast, hc, isString] at h
    | null | text => rfl

theorem Formats.joins_eq (h : Formats last earlier message) (next : Message) :
    joins message next = joinsLast next (last :: earlier) := by
  rw [joins, joinsLast, h.role]
  rcases h.content with ⟨texts, hl, hc⟩ | ⟨hl, text, hc, -⟩
  · simp [hl, hc, isString, isParts]
  · simp [hl, hc, isString]

theorem formatStep_cons (h : Formats last earlier message) (older : List Message) (next : Message) :
    (joinsLast next (last :: earlier) = false ∧
      formatStep next (message :: older) = next.formatted.filled :: message :: older) ∨
    (joinsLast next (last :: earlier) = true ∧ formatStep next (message :: older) =
      next.formatted.setStringContent (trimQuotes
        (message.content.stringContent ++ " " ++ next.content.stringContent)) :: older) := by
  rw [formatStep, h.joins_eq]
  cases joinsLast next (last :: earlier) with
  | false => exact .inl ⟨rfl, rfl⟩
  | true => exact .inr ⟨rfl, congrArg (· :: older) (Message.filled_text rfl (trimQuotes_ne_empty _ _))⟩

/-- The messages, the last one first, and what they are formatted to. -/
inductive Formatting : List Message → List Message → Prop
  | nil : Formatting [] []
  | added {message : Message} {earlier formatted : List Message} (h : Formatting earlier formatted)
      (hne : joinsLast message earlier = false) :
      Formatting (message :: earlier) (message.formatted.filled :: formatted)
  | joined {message previous last : Message} {rest older : List Message} {text content : String}
      (h : Formatting (previous :: rest) (last :: older))
      (hj : joinsLast message (previous :: rest) = true) (hl : Formats previous rest last)
      (hr : last.role = message.role) (ht : message.role ≠ "tool")
      (hte : last.content = .text text) (hn : text ≠ "")
      (hq : text.toList.head? = some quote ↔ startsQuoted (previous :: rest))
      (hc : message.content = .text content) :
      Formatting (message :: previous :: rest)
        (message.formatted.setStringContent (trimQuotes (text ++ " " ++ content)) :: older)

theorem Formatting.formats {formatted : List Message} (h : Formatting (message :: earlier) formatted) :
    ∃ last older, formatted = last :: older ∧ Formats message earlier last := by
  cases h with
  | added _ hn => exact ⟨_, _, rfl, formats_filled hn⟩
  | joined _ hj => exact ⟨_, _, rfl, formats_joined hj _ _⟩

theorem formatMessages_formatting (ms : List Message) : Formatting ms (formatMessages ms) := by
  induction ms with
  | nil => exact .nil
  | cons message earlier ih =>
    change Formatting _ (formatStep message (formatMessages earlier))
    generalize formatMessages earlier = formatted at ih ⊢
    cases earlier with
    | nil =>
      cases ih
      exact .added .nil rfl
    | cons previous rest =>
      obtain ⟨last, older, rfl, hl⟩ := ih.formats
      obtain ⟨hj, hne⟩ | ⟨hj, hne⟩ := formatStep_cons hl older message
      · rw [hne]
        exact .added ih hj
      rw [hne]
      have hf := hj
      simp only [joinsLast, decide_eq_true_eq] at hf
      obtain ⟨hr, hto, hp, hst⟩ := hf
      rcases hl.content with ⟨texts, hpr, -⟩ | ⟨-, text, ht, hn, hq⟩
      · simp [hpr, isParts] at hp
      cases hc : message.content with
      | text content =>
        rw [ht, MessageContent.stringContent_text, MessageContent.stringContent_text]
        exact .joined ih hj hl (hl.role.trans hr) (hr ▸ hto) ht hn hq hc
      | null | parts => simp [hc, MessageContent.isString] at hst

def textBlocks (role : String) : List Message → List String
  | [] => []
  | message :: earlier => textBlocks role earlier ++
      if message.role = role then message.content.nonEmptyTexts else []

def KeepsQuotes (role : String) : List Message → Prop
  | [] => True
  | message :: earlier => (joinsLast message earlier = true → message.role = role →
      startsQuoted earlier = false ∧
        message.content.stringContent.toList.getLast? ≠ some quote) ∧ KeepsQuotes role earlier

theorem texts_filled (message : Message) (texts blocks : List String) :
    quotes message.formatted.filled.content.nonEmptyTexts =
        quotes message.content.nonEmptyTexts ∧
      (InOrder texts blocks → InOrder (texts ++ message.content.nonEmptyTexts)
        (blocks ++ message.formatted.filled.content.nonEmptyTexts)) := by
  have hd : InOrder texts blocks → InOrder (texts ++ []) (blocks ++ ["..."]) := by
    rw [append_nil]
    exact fun h => h.block _
  have hz : quotes ["..."] = quotes [] := by decide
  obtain ⟨role, content, toolCallId, toolCalls⟩ := message
  cases content with
  | null => exact ⟨hz, hd⟩
  | parts texts => exact ⟨rfl, fun h => h.append _⟩
  | text text =>
    by_cases ht : text = ""
    · subst ht
      exact ⟨hz, hd⟩
    · rw [Message.filled_text rfl ht]
      exact ⟨rfl, fun h => h.append _⟩

theorem nonEmptyTexts_text {text : String} (ht : text ≠ "") :
    (MessageContent.text text).nonEmptyTexts = [text] := by
  simp [MessageContent.nonEmptyTexts, MessageContent.texts, ht]

theorem written_text (text content : String) (texts blocks : List String) :
    quotes [text ++ " " ++ content] =
        quotes [text] + quotes (MessageContent.text content).nonEmptyTexts ∧
      (InOrder texts (blocks ++ [text]) →
        InOrder (texts ++ (MessageContent.text content).nonEmptyTexts)
          (blocks ++ [text ++ " " ++ content])) := by
  have hs : quotes [" "] = 0 := by decide
  rw [quotes_singleton_append, quotes_singleton_append, hs]
  by_cases hc : content = ""
  · have hn : (MessageContent.text content).nonEmptyTexts = [] := by rw [hc]; rfl
    have hz : quotes [content] = 0 := by rw [hc]; decide
    rw [hn, hz, append_nil]
    exact ⟨rfl, fun h => (h.fill " ").fill content⟩
  · rw [nonEmptyTexts_text hc]
    exact ⟨rfl, fun h => (h.fill " ").write content⟩

theorem Formatting.keepsQuotes (role : String) {ms formatted : List Message}
    (h : Formatting ms formatted) :
    quotes (textBlocks role formatted) ≤ quotes (textBlocks role ms) ∧
    (quotes (textBlocks role formatted) = quotes (textBlocks role ms) → KeepsQuotes role ms) ∧
    (KeepsQuotes role ms → InOrder (textBlocks role ms) (textBlocks role formatted)) := by
  induction h with
  | nil => exact ⟨le_rfl, fun _ => trivial, fun _ => .nil⟩
  | @added message earlier formatted _ hn ih =>
    obtain ⟨hLe, hk, hor⟩ := ih
    have hr : message.formatted.filled.role = message.role := (formats_filled hn).role
    obtain ⟨hqu, hm⟩ := texts_filled message (textBlocks role earlier) (textBlocks role formatted)
    rw [KeepsQuotes, hn, textBlocks, textBlocks, hr]
    split
    · rw [quotes_append, quotes_append, hqu]
      exact ⟨by omega, fun h => ⟨nofun, hk (by omega)⟩, fun h => hm (hor h.2)⟩
    · rw [append_nil, append_nil]
      exact ⟨hLe, fun h => ⟨nofun, hk h⟩, fun h => hor h.2⟩
  | @joined message previous last rest older text content _ hj _ hr _ hte hno hq hc ih =>
    obtain ⟨hLe, hk, hor⟩ := ih
    generalize previous :: rest = earlier at hj hq hLe hk hor ⊢
    rw [textBlocks, hr, hte, nonEmptyTexts_text hno] at hLe hk hor
    have htx : (message.formatted.setStringContent
        (trimQuotes (text ++ " " ++ content))).content.nonEmptyTexts =
      [trimQuotes (text ++ " " ++ content)] := nonEmptyTexts_text (trimQuotes_ne_empty text content)
    rw [KeepsQuotes, hc, MessageContent.stringContent_text, hj, textBlocks, textBlocks, htx, hc,
      Message.setStringContent_role]
    split
    · rename_i hs
      rw [if_pos hs] at hLe hk hor
      rw [quotes_append] at hLe hk
      rw [quotes_append, quotes_append]
      obtain ⟨htri, htr⟩ := count_trimQuotes (text ++ " " ++ content)
      obtain ⟨hqu, hw⟩ := written_text text content (textBlocks role earlier) (textBlocks role older)
      refine ⟨by omega, fun h => ?_, fun h => ?_⟩
      · have hu := (trimQuotes_eq_iff text content).mp (htr (by omega))
        refine ⟨fun _ _ => ⟨?_, hu.2⟩, hk (by omega)⟩
        exact Bool.eq_false_iff.mpr (mt hq.mpr hu.1)
      · obtain ⟨hst, he⟩ := h.1 rfl hs
        rw [(trimQuotes_eq_iff text content).mpr ⟨mt hq.mp (by simp [hst]), he⟩]
        exact hw (hor h.2)
    · rename_i ho
      rw [if_neg ho] at hLe hk hor
      simp only [append_nil] at hLe hk hor ⊢
      exact ⟨hLe, fun h => ⟨fun _ h' => absurd h' ho, hk h⟩, fun h => hor h.2⟩

theorem inOrder_textBlocks_iff (role : String) (messages : List Message) :
    InOrder (textBlocks role messages) (textBlocks role (formatMessages messages)) ↔
      KeepsQuotes role messages := by
  obtain ⟨hl, hk, ho⟩ := (formatMessages_formatting messages).keepsQuotes role
  exact ⟨fun h => hk (hl.antisymm h.quotes_le), ho⟩

end

end DeepRouter.Relay.ToClaude
