import DeepRouter.Relay.TextQuota

/-! # Usage in the formats of Claude and OpenAI -/

namespace DeepRouter.Relay

structure CacheCreationUsage where
  (ephemeral5mInputTokens ephemeral1hInputTokens : Int := 0)
deriving DecidableEq

structure ClaudeUsage where
  (inputTokens cacheCreationInputTokens cacheReadInputTokens outputTokens : Int := 0)
  cacheCreation : Option CacheCreationUsage := none
deriving DecidableEq

namespace ClaudeUsage

def getCacheCreation5mTokens (usage : ClaudeUsage) : Int :=
  match usage.cacheCreation with
  | none => 0
  | some split => split.ephemeral5mInputTokens

def getCacheCreation1hTokens (usage : ClaudeUsage) : Int :=
  match usage.cacheCreation with
  | none => 0
  | some split => split.ephemeral1hInputTokens

end ClaudeUsage

def normalizeCacheCreationSplit (totalTokens tokens5m tokens1h : Int) : Int × Int :=
  let remainder := max (totalTokens - tokens5m - tokens1h) 0
  (tokens5m + remainder, tokens1h)

def buildClaudeUsageFromOpenAIUsage (usage : Usage) : ClaudeUsage :=
  let (tokens5m, tokens1h) := normalizeCacheCreationSplit
    usage.promptTokensDetails.cachedCreationTokens usage.claudeCacheCreation5mTokens
    usage.claudeCacheCreation1hTokens
  { inputTokens := usage.promptTokens
    outputTokens := usage.completionTokens
    cacheCreationInputTokens := usage.promptTokensDetails.cachedCreationTokens
    cacheReadInputTokens := usage.promptTokensDetails.cachedTokens
    cacheCreation := if 0 < tokens5m ∨ 0 < tokens1h then some ⟨tokens5m, tokens1h⟩ else none }

def cacheCreationTokensForOpenAIUsage (usage : Usage) : Int :=
  let split := usage.claudeCacheCreation5mTokens + usage.claudeCacheCreation1hTokens
  if split = 0 then usage.promptTokensDetails.cachedCreationTokens
  else if usage.promptTokensDetails.cachedCreationTokens > split then
    usage.promptTokensDetails.cachedCreationTokens
  else split

def buildOpenAIStyleUsageFromClaudeUsage (usage : Usage) : Usage :=
  let (tokens5m, tokens1h) := normalizeCacheCreationSplit
    usage.promptTokensDetails.cachedCreationTokens usage.claudeCacheCreation5mTokens
    usage.claudeCacheCreation1hTokens
  let totalInputTokens := usage.promptTokens + usage.promptTokensDetails.cachedTokens +
    cacheCreationTokensForOpenAIUsage usage
  { usage with
    claudeCacheCreation5mTokens := tokens5m
    claudeCacheCreation1hTokens := tokens1h
    promptTokens := totalInputTokens
    totalTokens := totalInputTokens + usage.completionTokens
    usageSemantic := "openai"
    usageSource := "anthropic" }

/-! ## Totals of a conversion -/

def KeepsTotals (usage : Usage) (claude : ClaudeUsage) : Prop :=
  claude.inputTokens + claude.cacheReadInputTokens + claude.cacheCreationInputTokens =
      usage.promptTokens ∧
    claude.outputTokens = usage.completionTokens ∧
    claude.getCacheCreation5mTokens + claude.getCacheCreation1hTokens =
      claude.cacheCreationInputTokens
deriving Decidable

def SameCounts (usage : Usage) (claude : ClaudeUsage) : Prop :=
  claude.inputTokens = usage.promptTokens ∧
    claude.cacheReadInputTokens = usage.promptTokensDetails.cachedTokens ∧
    claude.cacheCreationInputTokens = usage.promptTokensDetails.cachedCreationTokens ∧
    claude.outputTokens = usage.completionTokens
deriving Decidable

structure NonnegCounts (usage : Usage) : Prop where
  cached : 0 ≤ usage.promptTokensDetails.cachedTokens
  creation : 0 ≤ usage.promptTokensDetails.cachedCreationTokens
  creation5m : 0 ≤ usage.claudeCacheCreation5mTokens
  creation1h : 0 ≤ usage.claudeCacheCreation1hTokens

theorem buildClaudeUsage_split {usage : Usage} (h : NonnegCounts usage) :
    (buildClaudeUsageFromOpenAIUsage usage).getCacheCreation5mTokens +
        (buildClaudeUsageFromOpenAIUsage usage).getCacheCreation1hTokens =
      max usage.promptTokensDetails.cachedCreationTokens
        (usage.claudeCacheCreation5mTokens + usage.claudeCacheCreation1hTokens) := by
  obtain ⟨-, hc, h5m, h1h⟩ := h
  let split : CacheCreationUsage :=
    ⟨(normalizeCacheCreationSplit usage.promptTokensDetails.cachedCreationTokens
      usage.claudeCacheCreation5mTokens usage.claudeCacheCreation1hTokens).1,
      usage.claudeCacheCreation1hTokens⟩
  have hsu : split.ephemeral5mInputTokens + split.ephemeral1hInputTokens =
      max usage.promptTokensDetails.cachedCreationTokens
        (usage.claudeCacheCreation5mTokens + usage.claudeCacheCreation1hTokens) := by
    simp only [split, normalizeCacheCreationSplit]
    omega
  by_cases hs : 0 < split.ephemeral5mInputTokens ∨ 0 < split.ephemeral1hInputTokens
  · have hso : (buildClaudeUsageFromOpenAIUsage usage).cacheCreation = some split := if_pos hs
    rw [ClaudeUsage.getCacheCreation5mTokens, ClaudeUsage.getCacheCreation1hTokens, hso]
    exact hsu
  have hn : (buildClaudeUsageFromOpenAIUsage usage).cacheCreation = none := if_neg hs
  rw [ClaudeUsage.getCacheCreation5mTokens, ClaudeUsage.getCacheCreation1hTokens, hn]
  simp only
  omega

/-- The prompt is copied with the cached tokens in it, so the totals are kept only where there are
none. -/
theorem usage_conversion_keeps_totals_iff (usage : Usage) :
    (NonnegCounts usage →
      usage.promptTokensDetails.cachedTokens + usage.promptTokensDetails.cachedCreationTokens ≤
        usage.promptTokens →
      (KeepsTotals usage (buildClaudeUsageFromOpenAIUsage usage) ↔
        usage.promptTokensDetails.cachedTokens = 0 ∧
        usage.promptTokensDetails.cachedCreationTokens = 0 ∧
        usage.claudeCacheCreation5mTokens = 0 ∧ usage.claudeCacheCreation1hTokens = 0)) ∧
    (usage.usageSemantic = "anthropic" →
      (SameCounts usage
          (buildClaudeUsageFromOpenAIUsage (buildOpenAIStyleUsageFromClaudeUsage usage)) ↔
        let split := usage.claudeCacheCreation5mTokens + usage.claudeCacheCreation1hTokens
        usage.promptTokensDetails.cachedTokens +
          (if split = 0 then usage.promptTokensDetails.cachedCreationTokens
            else max usage.promptTokensDetails.cachedCreationTokens split) = 0)) := by
  refine ⟨fun hn _ => ?_, fun _ => ?_⟩
  · obtain ⟨hc, hcr, h5m, h1h⟩ := id hn
    rw [KeepsTotals, buildClaudeUsage_split hn]
    simp only [buildClaudeUsageFromOpenAIUsage, true_and]
    omega
  · simp only [SameCounts, buildClaudeUsageFromOpenAIUsage, buildOpenAIStyleUsageFromClaudeUsage,
      cacheCreationTokensForOpenAIUsage, and_true]
    by_cases hs : usage.claudeCacheCreation5mTokens + usage.claudeCacheCreation1hTokens = 0
    · simp only [hs, if_true]
      omega
    · simp only [hs, if_false]
      omega

theorem usage_conversion_keeps_plain_totals :
    KeepsTotals { promptTokens := 7, completionTokens := 2 }
        (buildClaudeUsageFromOpenAIUsage { promptTokens := 7, completionTokens := 2 }) ∧
      SameCounts { promptTokens := 7, usageSemantic := "anthropic" }
        (buildClaudeUsageFromOpenAIUsage (buildOpenAIStyleUsageFromClaudeUsage
          { promptTokens := 7, usageSemantic := "anthropic" })) :=
  ⟨((usage_conversion_keeps_totals_iff _).1 ⟨by decide, by decide, by decide, by decide⟩
      (by decide)).mpr (by decide), ((usage_conversion_keeps_totals_iff _).2 rfl).mpr (by decide)⟩

theorem cached_tokens_counted_twice :
    let openai : Usage := { promptTokens := 100, promptTokensDetails := { cachedTokens := 40 } }
    let claude : Usage := { openai with promptTokens := 60, usageSemantic := "anthropic" }
    ¬ KeepsTotals openai (buildClaudeUsageFromOpenAIUsage openai) ∧
      ¬ SameCounts claude
        (buildClaudeUsageFromOpenAIUsage (buildOpenAIStyleUsageFromClaudeUsage claude)) := by
  decide

/-! ## The input tokens that an expression sees -/

inductive ClaudeUsageEvent where
  | messageStart (usage : Option ClaudeUsage)
  | messageDelta (usage : Option ClaudeUsage)
  | other

/-- What `FormatClaudeResponseInfo` does to the usage. A final report replaces what it counts. -/
def formatClaudeResponseInfo (info : Usage) : ClaudeUsageEvent → Usage
  | .messageStart (some usage) =>
    { info with
      promptTokens := usage.inputTokens
      usageSemantic := "anthropic"
      promptTokensDetails := { info.promptTokensDetails with
        cachedTokens := usage.cacheReadInputTokens
        cachedCreationTokens := usage.cacheCreationInputTokens }
      claudeCacheCreation5mTokens := usage.getCacheCreation5mTokens
      claudeCacheCreation1hTokens := usage.getCacheCreation1hTokens
      completionTokens := usage.outputTokens }
  | .messageDelta (some usage) =>
    let counted (old new : Int) : Int := if 0 < new then new else old
    let promptTokens := counted info.promptTokens usage.inputTokens
    let completionTokens := counted info.completionTokens usage.outputTokens
    { info with
      usageSemantic := "anthropic"
      promptTokens
      promptTokensDetails := { info.promptTokensDetails with
        cachedTokens := counted info.promptTokensDetails.cachedTokens usage.cacheReadInputTokens
        cachedCreationTokens := counted info.promptTokensDetails.cachedCreationTokens
          usage.cacheCreationInputTokens }
      claudeCacheCreation5mTokens :=
        counted info.claudeCacheCreation5mTokens usage.getCacheCreation5mTokens
      claudeCacheCreation1hTokens :=
        counted info.claudeCacheCreation1hTokens usage.getCacheCreation1hTokens
      completionTokens
      totalTokens := promptTokens + completionTokens }
  | _ => info

def handleClaudeResponseData (info : Usage) : Option ClaudeUsage → Usage
  | some usage =>
    { info with
      promptTokens := usage.inputTokens
      completionTokens := usage.outputTokens
      totalTokens := usage.inputTokens + usage.outputTokens
      usageSemantic := "anthropic"
      promptTokensDetails := { info.promptTokensDetails with
        cachedTokens := usage.cacheReadInputTokens
        cachedCreationTokens := usage.cacheCreationInputTokens }
      claudeCacheCreation5mTokens := usage.getCacheCreation5mTokens
      claudeCacheCreation1hTokens := usage.getCacheCreation1hTokens }
  | none => info

def streamedUsage (events : List ClaudeUsageEvent) : Usage :=
  events.foldl formatClaudeResponseInfo {}

def lastReported (count : ClaudeUsage → Int) (last : Int) : List ClaudeUsageEvent → Int
  | [] => last
  | .messageStart (some usage) :: events => lastReported count (count usage) events
  | .messageDelta (some usage) :: events =>
    lastReported count (if 0 < count usage then count usage else last) events
  | _ :: events => lastReported count last events

theorem foldl_reported (field : Usage → Int) (count : ClaudeUsage → Int) (hs : ∀ info usage,
      field (formatClaudeResponseInfo info (.messageStart (some usage))) = count usage)
    (hd : ∀ info usage, field (formatClaudeResponseInfo info (.messageDelta (some usage))) =
      if 0 < count usage then count usage else field info) (events : List ClaudeUsageEvent)
    (info : Usage) :
    field (events.foldl formatClaudeResponseInfo info) = lastReported count (field info) events := by
  induction events generalizing info with
  | nil => rfl
  | cons event events ih =>
    rw [List.foldl_cons, ih]
    match event with
    | .messageStart (some usage) => rw [hs, lastReported]
    | .messageDelta (some usage) => rw [hd, lastReported]
    | .messageStart none | .messageDelta none | .other => rfl

def CountsClaudeOnce (params : TokenParams) (usage : Usage) : Prop :=
  let input : Int := usage.promptTokens + usage.promptTokensDetails.cachedTokens +
    usage.promptTokensDetails.cachedCreationTokens
  params.p + params.cr + params.cc + params.cc1h = input ∧ params.len = input
deriving Decidable

theorem countsClaudeOnce_iff {usage : Usage} (usedVars : String → Bool)
    (h : usage.usageSemantic = "anthropic") :
    CountsClaudeOnce (buildTieredTokenParams usage true usedVars) usage ↔
      0 ≤ usage.promptTokens ∧ usage.promptTokensDetails.cachedCreationTokens =
        usage.claudeCacheCreation5mTokens + usage.claudeCacheCreation1hTokens := by
  simp only [CountsClaudeOnce, buildTieredTokenParams, h, if_true, Bool.not_true, Bool.false_and,
    Bool.false_eq_true, if_false, sub_zero]
  norm_cast
  omega

/-- Without the split by time to live no token of a cache creation is counted. -/
theorem input_counted_once (usage info : Usage) (events : List ClaudeUsageEvent)
    (answer : ClaudeUsage) (usedVars : String → Bool) :
    (usage.usageSemantic ≠ "anthropic" →
      usage.promptTokensDetails.cachedTokens + usage.promptTokensDetails.cachedCreationTokens +
          usage.promptTokensDetails.imageTokens + usage.promptTokensDetails.audioTokens ≤
        usage.promptTokens →
      (∀ name ∈ ["cr", "cc", "cc1h", "img", "ai"], usedVars name = true) →
      let params := buildTieredTokenParams usage false usedVars
      params.p + params.cr + params.cc + params.cc1h + params.img + params.ai =
          usage.promptTokens ∧ params.len = usage.promptTokens) ∧
    ((streamedUsage events).usageSemantic = "anthropic" →
      (CountsClaudeOnce (buildTieredTokenParams (streamedUsage events) true usedVars)
          (streamedUsage events) ↔
        0 ≤ lastReported (·.inputTokens) 0 events ∧
        lastReported (·.cacheCreationInputTokens) 0 events =
          lastReported (·.getCacheCreation5mTokens) 0 events +
            lastReported (·.getCacheCreation1hTokens) 0 events)) ∧
    (CountsClaudeOnce
        (buildTieredTokenParams (handleClaudeResponseData info (some answer)) true usedVars)
        (handleClaudeResponseData info (some answer)) ↔
      0 ≤ answer.inputTokens ∧ answer.cacheCreationInputTokens =
        answer.getCacheCreation5mTokens + answer.getCacheCreation1hTokens) := by
  refine ⟨fun hs hpa hv => ?_, fun hs => ?_, countsClaudeOnce_iff usedVars rfl⟩
  · simp only [List.forall_mem_cons, List.not_mem_nil, false_imp_iff, implies_true, and_true] at hv
    obtain ⟨hCr, hCc, hc, hi, ha⟩ := hv
    have hr : (0 : Rat) ≤ usage.promptTokens - usage.promptTokensDetails.cachedTokens -
        usage.promptTokensDetails.cachedCreationTokens - 0 - usage.promptTokensDetails.imageTokens -
        usage.promptTokensDetails.audioTokens := by
      norm_cast
      omega
    simp only [buildTieredTokenParams, hs, hCr, hCc, hc, hi, ha, Bool.not_false, Bool.and_self,
      if_true, if_false, Bool.false_eq_true, max_eq_right hr, and_true]
    ring
  · rw [countsClaudeOnce_iff usedVars hs]
    have hp := foldl_reported (·.promptTokens) (·.inputTokens) (fun _ _ => rfl)
      (fun _ _ => rfl) events {}
    have hcr := foldl_reported (·.promptTokensDetails.cachedCreationTokens)
      (·.cacheCreationInputTokens) (fun _ _ => rfl) (fun _ _ => rfl) events {}
    have h5m := foldl_reported (·.claudeCacheCreation5mTokens) (·.getCacheCreation5mTokens)
      (fun _ _ => rfl) (fun _ _ => rfl) events {}
    have h1h := foldl_reported (·.claudeCacheCreation1hTokens) (·.getCacheCreation1hTokens)
      (fun _ _ => rfl) (fun _ _ => rfl) events {}
    rw [streamedUsage, hp, hcr, h5m, h1h]

theorem input_counted_once_split :
    let events : List ClaudeUsageEvent := [.messageStart (some { inputTokens := 10 }), .other,
      .messageDelta (some { cacheCreationInputTokens := 100, cacheCreation := some ⟨70, 30⟩ })]
    CountsClaudeOnce (buildTieredTokenParams (streamedUsage events) true fun _ => true)
      (streamedUsage events) :=
  ((input_counted_once {} {} _ {} _).2.1 (by decide)).mpr (by decide)

theorem created_tokens_uncounted :
    let usage : ClaudeUsage := { inputTokens := 10, cacheCreationInputTokens := 100 }
    (¬ CountsClaudeOnce
      (buildTieredTokenParams (handleClaudeResponseData {} (some usage)) true fun _ => true)
      (handleClaudeResponseData {} (some usage))) ∧
    ¬ CountsClaudeOnce
      (buildTieredTokenParams (streamedUsage [.messageStart (some usage)]) true fun _ => true)
      (streamedUsage [.messageStart (some usage)]) := by
  decide +kernel

end DeepRouter.Relay
