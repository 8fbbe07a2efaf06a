import AuthClaw.Audit.ConcurrentWriters
import AuthClaw.Audit.EvidenceView
import AuthClaw.Approvals.MfaFreshness
import AuthClaw.Gateway.Replay
import AuthClaw.Gateway.Paths
import AuthClaw.Policy.StrictestWins
import AuthClaw.Policy.Baseline
import AuthClaw.Detection.Coverage
import AuthClaw.Redaction.GoStreaming
import AuthClaw.Redaction.PolicyRows
import AuthClaw.Redaction.Maskers
import AuthClaw.Opa.GoDecision
import AuthClaw.Opa.GatewayPolicy
import AuthClaw.Opa.Enforcement
import AuthClaw.Exports.RoundTrip
import AuthClaw.Events.Delivery
import AuthClaw.Events.DeadLetters
import AuthClaw.Identity.Revocation
import AuthClaw.Identity.PasswordReset
import AuthClaw.Identity.LoginState
import AuthClaw.Gateway.RateLimit
import AuthClaw.Tenants.Plans
import AuthClaw.Policy.VersionRaces
import AuthClaw.Policy.Enforced
import AuthClaw.Identity.Registration
import AuthClaw.Detection.Shape
import AuthClaw.Detection.Enterprise
import AuthClaw.Policy.Bundles
import AuthClaw.Gateway.ProviderSelection
import AuthClaw.Remediation.Throttle
import AuthClaw.Documents.Rescan
import AuthClaw.Documents.CloudConvergence
import AuthClaw.Policy.Validation
import AuthClaw.Documents.ComplianceEvents
import AuthClaw.Documents.ScoreLedger
import AuthClaw.Documents.RiskScore
import AuthClaw.Gateway.ProviderKeys
import AuthClaw.Redaction.GoBody
import AuthClaw.Documents.Snippets
import AuthClaw.Secrets.Runs
import AuthClaw.Documents.SpreadsheetReading
import AuthClaw.Documents.Chunker
import AuthClaw.Documents.AuditChain
import AuthClaw.Documents.Scanner
import AuthClaw.Identity.Tokens
import AuthClaw.Gateway.RedactedText
import AuthClaw.Events.AuditProducer
import AuthClaw.Approvals.PayloadRuns
import AuthClaw.Tenants.RequestContext
import AuthClaw.Tenants.Isolation
import AuthClaw.Tenants.TenantResolution
import AuthClaw.Gateway.CompletionStream
import AuthClaw.Gateway.GoServer
import AuthClaw.Gateway.ChatService
import AuthClaw.Identity.OneTimeCodes
import AuthClaw.Identity.Passwords
import AuthClaw.Identity.MfaLogin
import AuthClaw.Identity.IdTokens
import AuthClaw.Documents.CsvFiles
import AuthClaw.Tenants.KeyHistory
