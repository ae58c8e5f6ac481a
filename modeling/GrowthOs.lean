import GrowthOs.Acquisition.Redirects
import GrowthOs.Acquisition.Closure
import GrowthOs.Execution.History
import GrowthOs.Execution.Decisions
import GrowthOs.Execution.Idempotency
import GrowthOs.Execution.Queries
import GrowthOs.Foundation.SiteStore
import GrowthOs.Tenancy.Noninterference
import GrowthOs.Handoff.Lock
import GrowthOs.Robots.Grouping
import GrowthOs.Robots.Decision
import GrowthOs.Robots.Agreement
import GrowthOs.Robots.SpelledRules
import GrowthOs.Handoff.Interruptions
import GrowthOs.Handoff.PreStaging
import GrowthOs.Handoff.Streams
import GrowthOs.Robots.LiteralRules
import GrowthOs.Robots.Respelling
import GrowthOs.Acquisition.Authority
import GrowthOs.Handoff.Assessment
import GrowthOs.Evidence.References
import GrowthOs.Handoff.StagingWindow
import GrowthOs.Acquisition.Resolve
import GrowthOs.Db.Pages
import GrowthOs.Evidence.Headings
import GrowthOs.Execution.Listings
import GrowthOs.Handoff.ChildOutput
import GrowthOs.Handoff.Orphans
import GrowthOs.Handoff.Porcelain
import GrowthOs.Handoff.ProtectedPaths
import GrowthOs.Robots.Outcomes
import GrowthOs.Robots.Provenance
import GrowthOs.Foundation.RecordHistory
import GrowthOs.Handoff.CommitWindow
import GrowthOs.Handoff.LiveChildren
import GrowthOs.Handoff.SingleTask
import GrowthOs.Handoff.AuditComments
import GrowthOs.Handoff.Lifecycle
import GrowthOs.Handoff.LifecycleRuns
import GrowthOs.Handoff.PullRequests
import GrowthOs.Handoff.ReviewResult
import GrowthOs.Db.Lasting
import GrowthOs.Tenancy.Permanence
import GrowthOs.Evidence.Diff
import GrowthOs.Evidence.Documents
import GrowthOs.Evidence.Sources
import GrowthOs.Evidence.Titles
import GrowthOs.Robots.Editing
