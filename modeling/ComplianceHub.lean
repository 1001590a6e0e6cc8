import ComplianceHub.Sla.WorkingTime
import ComplianceHub.Sla.Midnight
import ComplianceHub.Interruption.WellFormed
import ComplianceHub.Interruption.Copies
import ComplianceHub.Tickets.Finality
import ComplianceHub.Tickets.TextEdit
import ComplianceHub.Tickets.SlaBuckets
import ComplianceHub.Tickets.Separation
import ComplianceHub.Tickets.Completion
import ComplianceHub.Tickets.ReadScope
import ComplianceHub.Tickets.Automatic
import ComplianceHub.Tickets.PauseLimit
import ComplianceHub.Tickets.ActiveTime
import ComplianceHub.Tickets.Performance
import ComplianceHub.Tickets.AutoShift
import ComplianceHub.Tickets.Overtime
import ComplianceHub.Tickets.Ownership
import ComplianceHub.Tickets.Timeline
import ComplianceHub.Auth.Refresh
import ComplianceHub.Auth.VerifyMfa
import ComplianceHub.Users.ProfileWrites
import ComplianceHub.Users.Privileges
import ComplianceHub.Users.OutboundEmailPolicy
import ComplianceHub.Tickets.Uninterrupted
import ComplianceHub.Tickets.ClockStarts
import ComplianceHub.Tickets.DuplicateLinks
import ComplianceHub.Tickets.FailedUpdate
import ComplianceHub.Kpi.Bands
import ComplianceHub.Kpi.Locking
import ComplianceHub.References.Inclusion
import ComplianceHub.References.Amendments
import ComplianceHub.References.Lifecycle
import ComplianceHub.References.PrimarySource
import ComplianceHub.References.Assignment
import ComplianceHub.Audit.Disclosure
import ComplianceHub.Ratings.Lifecycle
import ComplianceHub.Ratings.Guessing
import ComplianceHub.Duty.LiveMeeting
import ComplianceHub.Duty.Scope
import ComplianceHub.Events.Stream
import ComplianceHub.Events.UseSse
import ComplianceHub.Email.Usage
import ComplianceHub.Http.CircuitBreaker
import ComplianceHub.Reports.Totals
import ComplianceHub.Duty.Blocked
import ComplianceHub.Duty.Overlap
import ComplianceHub.Duty.Roster
import ComplianceHub.Duty.Release
import ComplianceHub.Documents.Storage
import ComplianceHub.Documents.Verdict
import ComplianceHub.Documents.Cycles
import ComplianceHub.Documents.References
import ComplianceHub.Documents.StoredPeriods
import ComplianceHub.Documents.VersionCalls
import ComplianceHub.Metrics.AutoReview
import ComplianceHub.Metrics.WholeNumbers
import ComplianceHub.Mov.Snapshots
import ComplianceHub.Mov.AssessmentReport
import ComplianceHub.Mov.Manifests
import ComplianceHub.Duty.Rendered
import ComplianceHub.Users.UnitSync
import ComplianceHub.Users.PendingRequesters
import ComplianceHub.Users.StaffSync
import ComplianceHub.Interruption.Clock
import ComplianceHub.Tickets.KeywordStore
import ComplianceHub.Tickets.KnowledgeBase
import ComplianceHub.Tickets.Shift
import ComplianceHub.Tickets.DtrSync
