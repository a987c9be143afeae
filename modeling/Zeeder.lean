import Zeeder.Foundation.StepSystem
import Zeeder.Foundation.Interleaving
import Zeeder.Foundation.Streak
import Zeeder.Foundation.Shuffle
import Zeeder.Foundation.UniformShuffle
import Zeeder.Foundation.FirstWins
import Zeeder.Foundation.TaskSet
import Zeeder.Foundation.Tally
import Zeeder.Foundation.SkipInterval
import Zeeder.Foundation.KeyedDecisions
import Zeeder.Foundation.Script
import Zeeder.Foundation.Errexit
import Zeeder.Foundation.SharedLog
import Zeeder.Foundation.Noninterference
import Zeeder.Network.Types
import Zeeder.Crawl.Servability
import Zeeder.Crawl.ChainTip
import Zeeder.Crawl.ActivationGate
import Zeeder.Crawl.ActivationSampling
import Zeeder.Crawl.UniformSampling
import Zeeder.Crawl.ActivationProbe
import Zeeder.Crawl.ActivationRecord
import Zeeder.Crawl.ActivationAttestation
import Zeeder.Crawl.ActivationObserver
import Zeeder.Crawl.ActivationDurability
import Zeeder.Crawl.SweepSpacing
import Zeeder.Crawl.ConcurrentSweep
import Zeeder.Metrics
import Zeeder.Crawl.PeerGauges
import Zeeder.Crawl.AddressCache
import Zeeder.Crawl.TieredSelection
import Zeeder.Foundation.Text
import Zeeder.Foundation.Reader
import Zeeder.Foundation.Utf8
import Zeeder.Health.Readiness
import Zeeder.Health.Connection
import Zeeder.Health.Probe
import Zeeder.Foundation.Regions
import Zeeder.Dns.Name
import Zeeder.Report
import Zeeder.Dns.Nameservers
import Zeeder.Dns.SeedZone
import Zeeder.Dns.NameserverSet
import Zeeder.Config.SeederConfig
import Zeeder.Dns.Reference
import Zeeder.Dns.Spelling
import Zeeder.Serving.Startup
import Zeeder.Serving.RootNames
import Zeeder.Dns.RequestHandler
import Zeeder.Dns.RateLimiting
import Zeeder.Serving.Routing
import Zeeder.Serving.ApexAnswers
import Zeeder.Serving.NameserverRrset
import Zeeder.Crawl.CacheRefresh
import Zeeder.Crawl.ActivationTelemetry
import Zeeder.Serving.AddressRecords
import Zeeder.Serving.System
import Zeeder.Serving.Provenance
import Zeeder.Serving.RaisedFloor
import Zeeder.Serving.Process
import Zeeder.Serving.Isolation
import Zeeder.Serving.ProcessRefinement
import Zeeder.Serving.RestartedFloor
import Zeeder.Serving.FreshAnswers
import Zeeder.Serving.QueryAccounting
import Zeeder.Serving.Telemetry
import Zeeder.Serving.ProbedReadiness
import Zeeder.Deploy.Seeders
import Zeeder.Deploy.FleetAudit
import Zeeder.Deploy.FleetRoll
import Zeeder.Deploy.ImagePin
import Zeeder.Deploy.Reports
import Zeeder.Deploy.CommandLine
import Zeeder.Deploy.ReleasePin
import Zeeder.Deploy.HostBoot
import Zeeder.Deploy.FleetBoots
import Zeeder.Deploy.ReleaseWorkflow
