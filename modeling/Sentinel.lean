import Sentinel.Lib.IpAddr
import Sentinel.Core.LatchHistory
import Sentinel.Core.UpstreamWindow
import Sentinel.Core.Latency
import Sentinel.Core.GroupOfOne
import Sentinel.Store.Migrate
import Sentinel.Cli.Assembly
import Sentinel.Delivery.Conditions
import Sentinel.Delivery.Attempts
import Sentinel.Store.Load
import Sentinel.Store.Readings
import Sentinel.Cli.Check
import Sentinel.Delivery.Checks
import Sentinel.Delivery.Eligible
import Sentinel.Delivery.RoundTrip
import Sentinel.Cli.Report
import Sentinel.Delivery.Recovery
import Sentinel.Delivery.Immutable
import Sentinel.Cli.Learning
import Sentinel.Delivery.Retention
import Sentinel.Cli.Independence
import Sentinel.Cli.Validated
import Sentinel.Adguard.Rewrites
import Sentinel.Cli.Storable
import Sentinel.Cli.Windows
import Sentinel.Delivery.Episodes
import Sentinel.Delivery.Survivors
import Sentinel.Migration.Carried
import Sentinel.Migration.Reports
import Sentinel.Migration.History
import Sentinel.Cli.UnknownCounts
import Sentinel.Store.Counters
import Sentinel.Store.Canonical
import Sentinel.Core.Robust
import Sentinel.Core.GroupReadings
import Sentinel.Adguard.Upstreams
import Sentinel.Adguard.Filters
import Sentinel.Core.Kinds
import Sentinel.Cli.Chronology
import Sentinel.Adguard.Requests
import Sentinel.Cli.Cooldown
import Sentinel.Cli.Declared
import Sentinel.Cli.ExitCode
import Sentinel.Core.WellFormed
import Sentinel.Adguard.Wire
import Sentinel.Cli.Exchanges
import Sentinel.Notify.Attempts
import Sentinel.Cli.Preflight
import Sentinel.Delivery.Logbook
import Sentinel.Cli.Reports
import Sentinel.Migration.Afterwards
import Sentinel.Cli.Modes
import Sentinel.Cli.Ordering
import Sentinel.Cli.Completion
import Sentinel.Cli.Announcing
import Sentinel.Migration.Lifecycle
import Sentinel.Migration.Installed
