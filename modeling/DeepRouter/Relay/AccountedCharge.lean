import DeepRouter.Relay.ChargedUsage

/-! # What is charged is what is accounted

The statistics are raised by the settled quota when the usage has tokens. -/

namespace DeepRouter.Relay

open Store Billing BillingSession TopUps
open TokenBreakdown (sampleInfo sampleTextSettings)

namespace FinishedRequest

variable (info : TextRelayInfo)

def tokens : FinishedRequest → Int
  | .text _ usage =>
    (chargedUsage info usage).promptTokens + (chargedUsage info usage).completionTokens
  | .audio _ usage => usage.totalTokens

/-- The expression of a text request prices a usage without tokens too. -/
def pricedUnused : FinishedRequest → Bool
  | .text _ (some _) => info.tieredSnapshot.isSome
  | _ => false

/-- With tokens both statistics updates succeed, and without any there is no price. -/
def StatsFollow (faults : StatsFaults) (request : FinishedRequest) : Prop :=
  if request.tokens info = 0 then request.pricedUnused info = false
  else faults.user = none ∧ faults.channel = none
deriving Decidable

end FinishedRequest

section

variable {cfg : TextSettings} {info : TextRelayInfo}

theorem calculateTextQuotaSummary_totalTokens (tools : ToolCalls) (usage : Option Usage) :
    (calculateTextQuotaSummary cfg tools info usage).totalTokens =
      (FinishedRequest.text tools usage).tokens info := by
  obtain ⟨-, -, -, ht⟩ := countedSummary_kept cfg info usage
  rw [calculateTextQuotaSummary_eq]
  exact ht

theorem FinishedRequest.totalTokens_eq (request : FinishedRequest) :
    request.totalTokens cfg info = request.tokens info := by
  cases request with
  | text tools usage =>
    have ht := @calculateTextQuotaSummary_totalTokens cfg info tools usage
    simp only [totalTokens, textQuotaSummary]
    split
    · exact ht
    · split
      · exact ht
      · exact ht
  | audio ratios usage => rfl

theorem FinishedRequest.quota_of_unused {request : FinishedRequest} {faults : StatsFaults}
    (hs : request.StatsFollow info faults) (ht : request.tokens info = 0) :
    request.quota cfg info = 0 := by
  have hq (tools : ToolCalls) (usage : Option Usage)
      (ht : (FinishedRequest.text tools usage).tokens info = 0) :
      (calculateTextQuotaSummary cfg tools info usage).quota = 0 := by
    obtain ⟨-, -, -, hc⟩ := countedSummary_kept cfg info usage
    rw [calculateTextQuotaSummary_eq]
    exact if_pos (hc.trans ht)
  rw [StatsFollow, if_pos ht] at hs
  cases request with
  | text tools usage =>
    cases usage with
    | none => exact hq tools none ht
    | some usage =>
      have hn := Option.isNone_iff_eq_none.mp (Option.isSome_eq_false_iff.mp hs)
      rw [quota, textQuotaSummary_untiered hn]
      exact hq tools (some usage) ht
  | audio ratios usage => exact if_pos ht

end

def emptyStats : Stats := ⟨fun _ => 0, fun _ => 0, fun _ => 0⟩

def wholeUnitSettings : TextSettings :=
  { quotaPerUnit := 1000000
    toolPrices := ⟨fun _ => [], fun _ => none⟩
    defaultModelRatio := fun _ => none
    engine := ⟨fun _ _ => false, fun _ _ _ => .ok 40⟩ }

def tieredInfo : TextRelayInfo :=
  { sampleInfo with
    billing := .opened
      { relayInfo := sampleInfo.billing.relayInfo, funding := .wallet ⟨7, 100⟩
        preConsumedQuota := 100 }
    priceData := {}
    tieredBillingSnapshot := some ⟨.tieredExpr, "tier(1)", 1, 100, 1000000⟩ }

end DeepRouter.Relay
