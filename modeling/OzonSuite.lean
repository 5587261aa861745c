import OzonSuite.Domain
import OzonSuite.Services
import OzonSuite.Lib.Machine
import OzonSuite.TaskEngine.Store
import OzonSuite.TaskEngine.LifeCycle
import OzonSuite.TaskEngine.Invariant
import OzonSuite.TaskEngine.Runs
import OzonSuite.Lib.Table
import OzonSuite.Lib.Transaction
import OzonSuite.Cloud.Schema
import OzonSuite.Cloud.Queries
import OzonSuite.Cloud.Service
import OzonSuite.Cloud.Payments
import OzonSuite.Cloud.Licensing
import OzonSuite.Lib.JsonText
import OzonSuite.Cloud.Signing
import OzonSuite.Cloud.System
import OzonSuite.Cloud.Ledger
import OzonSuite.Cloud.QuerySpecs
import OzonSuite.Cloud.Effects
import OzonSuite.Cloud.LicensingEffects
import OzonSuite.Cloud.Devices
import OzonSuite.Cloud.Steps
import OzonSuite.Cloud.Fulfilment
import OzonSuite.Cloud.Redemption
import OzonSuite.Cloud.DeviceLimit
import OzonSuite.Lib.Effects
import OzonSuite.Node.Connector
import OzonSuite.Node.State
import OzonSuite.Node.Lease
import OzonSuite.Node.LeaseSafety
import OzonSuite.Lib.Calls
import OzonSuite.SecretStore.Layered
import OzonSuite.SecretStore.ReadYourWrites
import OzonSuite.Lib.Interleaving
import OzonSuite.SecretStore.Concurrent
import OzonSuite.Node.CopyMatch
import OzonSuite.Node.OzonClient
import OzonSuite.Node.Relist
import OzonSuite.Node.CopyPush
import OzonSuite.Lib.Utf8
import OzonSuite.Node.Export
import OzonSuite.Cloud.Grants
import OzonSuite.Cloud.DeviceIds
import OzonSuite.Node.LeaseCompleteness
import OzonSuite.Excel.Workbook
import OzonSuite.Excel.Config
import OzonSuite.Excel.Header
import OzonSuite.Lib.Rfc3339
import OzonSuite.Cloud.Configuration
import OzonSuite.Node.Proposals
import OzonSuite.Lib.Sequences
import OzonSuite.TaskEngine.Publishing
import OzonSuite.Node.ProductIdentity
import OzonSuite.Node.Providers
import OzonSuite.Node.ModelRegistry
import OzonSuite.Lib.WriteThrough
import OzonSuite.Node.ConfigSaves
import OzonSuite.Node.Fingerprint
import OzonSuite.Lib.Threads
import OzonSuite.Shell.Sidecar
import OzonSuite.Shell.Supervision
import OzonSuite.Shell.Adoption
import OzonSuite.Node.CopyDistinct
import OzonSuite.Shell.Endpoints
import OzonSuite.Cloud.MoreEntitlements
import OzonSuite.Cloud.TestAccess
import OzonSuite.Cloud.TestAccessGrants
import OzonSuite.Node.Schedule
import OzonSuite.Node.ScheduleWorkers
import OzonSuite.Lib.OneTime
import OzonSuite.Node.Pairing
import OzonSuite.Node.PairingClaims
import OzonSuite.DevIssuer.Grants
import OzonSuite.Node.CategoryValues
import OzonSuite.Node.CopyReport
import OzonSuite.Excel.Transforms
import OzonSuite.Node.ProductImages
import OzonSuite.Excel.DataStart
import OzonSuite.Excel.Extract
import OzonSuite.Excel.UrlCells
import OzonSuite.Excel.Accepted
import OzonSuite.Excel.Rewrite
import OzonSuite.Node.Status
import OzonSuite.Node.VideoDialects
import OzonSuite.Node.VideoFrames
import OzonSuite.Lib.PercentText
import OzonSuite.Lib.Urls
import OzonSuite.Node.JimengSignature
import OzonSuite.Node.Capabilities
import OzonSuite.Node.BindingUrl
import OzonSuite.Node.KeyTransport
import OzonSuite.Lib.Scripts
import OzonSuite.Excel.Push
import OzonSuite.Excel.PushWrites
import OzonSuite.Excel.PushPictures
import OzonSuite.Cloud.StripeSignature
import OzonSuite.Node.ScheduleAudit
import OzonSuite.SecretStore.File
import OzonSuite.SecretStore.FileAtomicity
import OzonSuite.Node.ModelText
import OzonSuite.Lib.CaseMapping
import OzonSuite.Lib.UnicodeCase
import OzonSuite.Node.PosterCopy
import OzonSuite.Cloud.Identifiers
import OzonSuite.Cloud.Accounts
import OzonSuite.Node.VideoPolls
import OzonSuite.Node.VideoJobs
import OzonSuite.Excel.Verifier
import OzonSuite.Excel.Process
import OzonSuite.OpenClaw.Plugin
import OzonSuite.OpenClaw.Service
import OzonSuite.OpenClaw.Import
import OzonSuite.OpenClaw.Tools
import OzonSuite.Cloud.Downloads
import OzonSuite.Cloud.Sessions
import OzonSuite.Cloud.AccountRows
import OzonSuite.Cloud.SignIn
import OzonSuite.Excel.Inject
import OzonSuite.Excel.InjectExtract
