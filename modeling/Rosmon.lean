import Rosmon.Ledger.Amounts
import Rosmon.Ledger.Atomicity
import Rosmon.Ledger.ClosedInvoices
import Rosmon.Webhook.Named
import Rosmon.Webhook.Deliveries
import Rosmon.Concurrent.SingleDecision
import Rosmon.Concurrent.PaidInvoices
import Rosmon.Concurrent.SyncRequests
import Rosmon.Concurrent.GatewayPayment
import Rosmon.Sync.Convergence
import Rosmon.Sync.TwoPaths
import Rosmon.Sync.Updates
import Rosmon.Sync.Reinstated
import Rosmon.Billing.CatchUp
import Rosmon.Billing.EveryMonth
import Rosmon.Billing.Periods
import Rosmon.Records.Ownership
import Rosmon.Records.Coherence
import Rosmon.Review.Completion
import Rosmon.Ledger.Keyless
import Rosmon.Review.Decisions
import Rosmon.Concurrent.StaleRows
import Rosmon.Inactive.Tables
import Rosmon.Inactive.Delivery
import Rosmon.Streams.Updates
import Rosmon.Sse.Broker
import Rosmon.Go.Numbers
import Rosmon.Sse.Subscribers
import Rosmon.Sse.Reservations
import Rosmon.Streams.Keys
import Rosmon.Library.Sequences
import Rosmon.Devices.Manager
import Rosmon.Devices.Interleaving
import Rosmon.Auth.Service
import Rosmon.Auth.Requests
import Rosmon.Auth.SingleUse
import Rosmon.Auth.Revocation
import Rosmon.Auth.Edits
import Rosmon.Portal.Isolation
import Rosmon.Portal.Passwords
import Rosmon.Billing.Numbering
import Rosmon.Store.LegacySecrets
import Rosmon.Profiles.Propagation
import Rosmon.Profiles.SyncFrame
import Rosmon.Written.Devices
import Rosmon.Reports.Totals
import Rosmon.Notification.Deliveries
import Rosmon.RateLimit.Ideal
import Rosmon.Devices.Attended
import Rosmon.Scripts.Transaction
import Rosmon.Rosfmt.Normal
import Rosmon.Sync.Suspending
import Rosmon.Sync.DueDates
import Rosmon.Concurrent.Attempts
import Rosmon.Sync.Rerun
import Rosmon.Vouchers.Expiry
import Rosmon.Vouchers.Generate
import Rosmon.Scripts.QuickPrint
import Rosmon.Scripts.OnEvent
import Rosmon.Streams.QueueParents
import Rosmon.Sync.BatchDelete
import Rosmon.Vouchers.FirstLogin
import Rosmon.Webhook.LoginHook
import Rosmon.Reports.Pages
import Rosmon.Reports.Aging
import Rosmon.Web.Refresh
import Rosmon.Web.SavedPresets
import Rosmon.Rosfmt.Escape
import Rosmon.Rosfmt.Dates
import Rosmon.Notification.Phones
import Rosmon.Job.Rupiah
import Rosmon.Job.Daily
import Rosmon.Job.Backup
import Rosmon.Workflows.Retries
import Rosmon.Workflows.BulkDelete
import Rosmon.Expiry.Renewals
import Rosmon.Sales.Windows
import Rosmon.Sse.Wire
import Rosmon.Web.LiveEvents
import Rosmon.Web.Printing
import Rosmon.Api.Origin
