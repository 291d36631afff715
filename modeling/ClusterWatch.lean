import ClusterWatch.Main
import ClusterWatch.Proofs.Api.Entries
import ClusterWatch.Proofs.Api.Errors
import ClusterWatch.Proofs.Api.Secrets
import ClusterWatch.Proofs.Archive.Passes
import ClusterWatch.Proofs.Fetch.Isolation
import ClusterWatch.Proofs.Fetch.Numbers
import ClusterWatch.Proofs.Fetch.Schedules
import ClusterWatch.Proofs.History.Backends
import ClusterWatch.Proofs.History.Statements
import ClusterWatch.Proofs.Stop
import ClusterWatch.Proofs.Quantity.Canonical
import ClusterWatch.Proofs.Aggregation
import ClusterWatch.Proofs.Fetch.Attribution
import ClusterWatch.Proofs.Rounds
import ClusterWatch.Proofs.Fetch.Deadlines
import ClusterWatch.Proofs.Fetch.Orders
import ClusterWatch.Proofs.Instant.Calendar
import ClusterWatch.Proofs.Instant.Texts
import ClusterWatch.Proofs.History.Names
import ClusterWatch.Proofs.History.Removals
import ClusterWatch.Proofs.Retention
import ClusterWatch.Proofs.Faithful
import ClusterWatch.Proofs.Roster.Lookup
import ClusterWatch.Proofs.Api.Times
import ClusterWatch.Proofs.Settings.ListenAddress
import ClusterWatch.Proofs.Api.Descriptions
import ClusterWatch.Proofs.Fetch.Names
import ClusterWatch.Proofs.Api.Described
