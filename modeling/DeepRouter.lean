import DeepRouter.Billing.RealtimeCharge
import DeepRouter.Billing.RefundRetry
import DeepRouter.Channels.CacheSync
import DeepRouter.Channels.KeyUpdate
import DeepRouter.Channels.SameCandidates
import DeepRouter.Limits.ListLimiter
import DeepRouter.Limits.ModelLimiter
import DeepRouter.Limits.TenantQuota
import DeepRouter.Quota.BatchConservation
import DeepRouter.Quota.UserRowChanges
import DeepRouter.Redemptions.RedeemOnce
import DeepRouter.Referral.Rewards
import DeepRouter.Relay.AccountedCharge
import DeepRouter.Relay.ClaudeRequest
import DeepRouter.Relay.ClaudeStream
import DeepRouter.Relay.ConvertedMessages
import DeepRouter.Relay.Identity
import DeepRouter.Relay.IsolatedSkill
import DeepRouter.Relay.KidsForwarding
import DeepRouter.Relay.ModelMapping
import DeepRouter.Relay.OutputCeiling
import DeepRouter.Relay.PruneObjects
import DeepRouter.Relay.RetriedPrice
import DeepRouter.Relay.RetryOrder
import DeepRouter.Relay.StreamContent
import DeepRouter.Relay.ToResponses
import DeepRouter.Skills.ExecutionCounts
import DeepRouter.Skills.KidsAnalytics
import DeepRouter.Skills.PublishedSkills
import DeepRouter.Subscription.Backlog
import DeepRouter.Subscription.ConcurrentLedger
import DeepRouter.Subscription.GroupRestoration
import DeepRouter.Subscription.OrderFulfilment
import DeepRouter.Subscription.Periods
import DeepRouter.Tasks.FailureRefund
import DeepRouter.Tasks.RefundOnce
import DeepRouter.Tasks.Selection
import DeepRouter.Tasks.StoredQuota
import DeepRouter.Tokens.SearchPattern
import DeepRouter.TopUps.AutoTopupCharges
import DeepRouter.TopUps.OrderLock
import DeepRouter.TopUps.TokensOrder
