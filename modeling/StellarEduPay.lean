import StellarEduPay.AccessTokens
import StellarEduPay.AccountingExport
import StellarEduPay.AuditChain
import StellarEduPay.AuditTamper
import StellarEduPay.BackupCodes
import StellarEduPay.BalanceConcurrency
import StellarEduPay.BalanceInvariant
import StellarEduPay.BalanceViews
import StellarEduPay.BestForStudent
import StellarEduPay.Broker
import StellarEduPay.BulkImport
import StellarEduPay.CircuitBreakers
import StellarEduPay.ConcurrencyRunner
import StellarEduPay.ConfirmationStates
import StellarEduPay.DeadLetterPages
import StellarEduPay.DisputeConcurrency
import StellarEduPay.DisputeOutcome
import StellarEduPay.DriftRepair
import StellarEduPay.DriftReport
import StellarEduPay.FeeComparison
import StellarEduPay.FeeDryRun
import StellarEduPay.FeeEngine
import StellarEduPay.FeeRuleApplications
import StellarEduPay.FencedWrites
import StellarEduPay.HorizonFailover
import StellarEduPay.IdempotentExecution
import StellarEduPay.InboundWebhooks
import StellarEduPay.LeaderElection
import StellarEduPay.LimitsCache
import StellarEduPay.LocalDays
import StellarEduPay.LoginLockout
import StellarEduPay.LruMap
import StellarEduPay.ManualSync
import StellarEduPay.MemoMirror
import StellarEduPay.MfaLogin
import StellarEduPay.MfaTakeover
import StellarEduPay.Migrations
import StellarEduPay.OperationPages
import StellarEduPay.OutageRecovery
import StellarEduPay.OutboxDelivery
import StellarEduPay.OutboxLeases
import StellarEduPay.OutboxScheduler
import StellarEduPay.PasswordTokens
import StellarEduPay.PaymentLifecycle
import StellarEduPay.PeriodAttribution
import StellarEduPay.PlanController
import StellarEduPay.PollAging
import StellarEduPay.PollProgress
import StellarEduPay.PriceFetches
import StellarEduPay.QueueCredit
import StellarEduPay.QueueDurability
import StellarEduPay.RateLimiter
import StellarEduPay.ReceiptAmounts
import StellarEduPay.ReconciliationCycle
import StellarEduPay.RefreshRotation
import StellarEduPay.RefundConcurrency
import StellarEduPay.RefundConservation
import StellarEduPay.RefundCoupling
import StellarEduPay.RefundNotifications
import StellarEduPay.ReminderQuota
import StellarEduPay.ReportSummary
import StellarEduPay.RequestBreaker
import StellarEduPay.RequestBudget
import StellarEduPay.RequestDedup
import StellarEduPay.RequestFingerprints
import StellarEduPay.RequestQueue
import StellarEduPay.RolloverArrears
import StellarEduPay.RolloverConcurrency
import StellarEduPay.RollupAgreement
import StellarEduPay.SchoolOwners
import StellarEduPay.SessionStore
import StellarEduPay.SignatureHeaders
import StellarEduPay.SignerKeys
import StellarEduPay.SseBanner
import StellarEduPay.SseCoverage
import StellarEduPay.SseDelivery
import StellarEduPay.SseRegistry
import StellarEduPay.SseService
import StellarEduPay.StackedRules
import StellarEduPay.StreamCursor
import StellarEduPay.StuckPayments
import StellarEduPay.StudentQuota
import StellarEduPay.StudentSave
import StellarEduPay.SuppressionList
import StellarEduPay.TenantBinding
import StellarEduPay.TokenLifecycle
import StellarEduPay.TransactionQueue
import StellarEduPay.TwoPersonRule
import StellarEduPay.VerificationStates
import StellarEduPay.WalletDraining
import StellarEduPay.WebhookAddresses
import StellarEduPay.WebhookLeases
import StellarEduPay.WebhookPayloads
import StellarEduPay.WebhookSecretRotation
import StellarEduPay.ConsistencyReport
import StellarEduPay.DisputeSla
import StellarEduPay.EmailEvents
import StellarEduPay.EmailWebhooks
import StellarEduPay.ParentPortal
import StellarEduPay.ReceiptSignatures
import StellarEduPay.SchoolCache
import StellarEduPay.TemplateRenderer
import StellarEduPay.UnsubscribeTokens
