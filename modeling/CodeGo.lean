import CodeGo.BlindBox.CardTime
import CodeGo.BlindBox.Discounts
import CodeGo.BlindBox.SimulatedOpenings
import CodeGo.Gateway.AllCoolingFallback
import CodeGo.Gateway.ArchiveRuns
import CodeGo.Gateway.BackgroundJobs
import CodeGo.Gateway.ChannelConcurrency
import CodeGo.Gateway.FailureCounts
import CodeGo.Gateway.Leases
import CodeGo.Gateway.MultiKeys
import CodeGo.Gateway.OverrideIndexes
import CodeGo.Gateway.OverrideMoves
import CodeGo.Gateway.OverridePrune
import CodeGo.Gateway.ResponsesSessionRuns
import CodeGo.Gateway.SelectorLaws
import CodeGo.Gateway.SharedProbes
import CodeGo.Gateway.StreamPacer
import CodeGo.Gateway.StreamScanner
import CodeGo.Identity.Sensitive
import CodeGo.Identity.VerificationRuns
import CodeGo.Ledger.FastPath
import CodeGo.Ledger.Registers
import CodeGo.Ledger.RelaySequence
import CodeGo.Marketplace.Administration
import CodeGo.Marketplace.Audits
import CodeGo.Marketplace.Charges
import CodeGo.Marketplace.Exactness
import CodeGo.Marketplace.Recovery
import CodeGo.Platform.OutboundPolicy
import CodeGo.Platform.RequestBody
import CodeGo.Platform.Sunday
import CodeGo.Platform.TokenBucket
import CodeGo.Pricing.TieredTokens
import CodeGo.Referral.Runs
import CodeGo.Relay.Tiered
import CodeGo.Subscription.Adjustment
import CodeGo.Subscription.PackConversion
import CodeGo.Translation.ClaudeBlocks
import CodeGo.Translation.ClaudeDelivery
import CodeGo.Translation.GeminiRequest
import CodeGo.Wallet.RewardRelease
import CodeGo.Wallet.Telescope
import CodeGo.Wallet.Transfers
