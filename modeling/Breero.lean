import Breero.Db
import Breero.Jobs.Transitions
import Breero.Jobs.Service
import Breero.Jobs.WorkRequests
import Breero.Jobs.Writes
import Breero.Leads.Service
import Breero.Payments.System
import Breero.Payments.Effects
import Breero.Payments.Status
import Breero.Payments.Deliveries
import Breero.Payments.Refunds
import Breero.Payments.RefundEvents
import Breero.Payments.LeadPurchases
import Breero.Payments.Targets
import Breero.Payments.Settlement
import Breero.Payments.Charges
import Breero.Payments.Visits
import Breero.Finance.Service
import Breero.Finance.System
import Breero.Finance.Effects
import Breero.Finance.Batches
import Breero.Finance.Submissions
import Breero.Booking.Matching
import Breero.Booking.PublicSearch
import Breero.Booking.Customers
import Breero.Booking.Requests
import Breero.Booking.Scheduling
import Breero.Booking.Availability
import Breero.Booking.WallClocks
import Breero.Booking.Admissions
import Breero.Dispatch.AdminService
import Breero.Dispatch.Service
import Breero.Dispatch.System
import Breero.Dispatch.Effects
import Breero.Dispatch.Agreement
import Breero.Dispatch.Writes
import Breero.Dispatch.TerminalJobs
import Breero.Dispatch.Decisions
import Breero.Dispatch.DeadBookings
import Breero.Dispatch.Offers
import Breero.Dispatch.Acceptances
import Breero.Visits.System
import Breero.Visits.Effects
import Breero.Visits.JobLog
import Breero.Visits.OpenRequests
import Breero.Visits.BookingEdges
import Breero.Visits.ReceivedMoney
import Breero.Visits.Quotes
import Breero.Reservations.System
import Breero.Reservations.Effects
import Breero.Reservations.HoldStates
import Breero.Reservations.BookedJobs
import Breero.Reservations.Commitments
import Breero.Reservations.Overbooking
import Breero.Reservations.WindowBookings
import Breero.Reservations.Confirmations
import Breero.Reservations.BothPaths
import Breero.PublicSubmissions.Models
import Breero.Outbox.Models
import Breero.Outbox.Service
import Breero.PublicSubmissions.Service
import Breero.PublicSubmissions.Acceptance
import Breero.Outbox.System
import Breero.Outbox.Effects
import Breero.Outbox.Claimants
import Breero.Outbox.Attempts
import Breero.Outbox.Submissions
import Breero.Common.Unicode
import Breero.Geography.Models
import Breero.Geography.PostalCodes
import Breero.Geography.Repository
import Breero.Geography.AdminZones
import Breero.Geography.AdminPostalCodes
import Breero.Geography.System
import Breero.Geography.Effects
import Breero.Geography.Projection
import Breero.Geography.Coverage
import Breero.Geography.Lookups
import Breero.Auth.Service
import Breero.Auth.System
import Breero.Auth.Effects
import Breero.Auth.Revocations
import Breero.BookingIntents.Models
import Breero.BookingIntents.Service
import Breero.BookingIntents.System
import Breero.BookingIntents.Effects
import Breero.BookingIntents.Submissions
import Breero.BookingIntents.Readiness
import Breero.Payments.Intents
import Breero.Payments.IntentKeys
import Breero.Finance.RowLocks
import Breero.Finance.Links
import Breero.Finance.Adjustments
import Breero.Auth.Passwords
import Breero.Auth.Families
import Breero.Auth.Permissions
import Breero.Reservations.Conversions
import Breero.Reservations.Reconfirmations
import Breero.Reservations.ReservedSlots
import Breero.Reservations.Overtakings
import Breero.Reservations.HoldQuota
import Breero.Reservations.Accounts
import Breero.Reservations.Accounting
import Breero.Idempotency.Commands
import Breero.Idempotency.KeyLaw
import Breero.Payments.RefundTotals
import Breero.Payments.ProviderCalls
import Breero.Payments.ProviderKeys
import Breero.Payments.EventRefs
import Breero.Finance.Compensation
import Breero.Jobs.Completions
import Breero.Addresses.System
import Breero.Addresses.Ownership
import Breero.Accounts.System
import Breero.Accounts.Effects
import Breero.Accounts.Verifications
import Breero.Jobs.TechnicianCommands
import Breero.Jobs.LostTransitions
import Breero.Crm.Models
import Breero.Crm.SyncEvent
import Breero.Crm.Convergence
import Breero.Lib.Interleaving
import Breero.Lib.Text
import Breero.Onboarding.Models
import Breero.Onboarding.Catalog
import Breero.Onboarding.Service
import Breero.Onboarding.Effects
import Breero.Onboarding.Reviews
import Breero.RateLimits.Service
import Breero.RateLimits.Eviction
import Breero.RateLimits.Bounds
import Breero.Payments.Webhooks
import Breero.Auth.AccessTokens
import Breero.Geography.EntryPoints
import Breero.Geography.Imports
import Breero.Workforce.CapacityCalendar
import Breero.Lib.Markers
import Breero.Outbox.Diagnostics
import Breero.Lib.JsonDumps
import Breero.Lib.JsonOrders
import Breero.Middleware.Delivery
import Breero.Middleware.Signature
import Breero.Middleware.Relay
import Breero.Middleware.Conflicts
import Breero.Access.System
import Breero.Access.Identities
import Breero.Compliance.Service
import Breero.Compliance.Suppressions
import Breero.Lib.Meters
import Breero.RateLimits.Redis
import Breero.RateLimits.Outages
import Breero.RateLimits.Retries
import Breero.Workforce.Portal
import Breero.Workforce.Isolation
import Breero.Access.SignIns
import Breero.PublicSubmissions.Forms
import Breero.PublicSubmissions.Intake
