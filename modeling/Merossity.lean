import Merossity.Api.CloudCreds
import Merossity.Api.CommandHandlers
import Merossity.Api.ConfigHandlers
import Merossity.Api.ConfigOps
import Merossity.Api.ConfigPool
import Merossity.Api.ConfigSequence
import Merossity.Api.Consumption
import Merossity.Api.Credentials
import Merossity.Api.DeviceState
import Merossity.Api.Digest
import Merossity.Api.DigestLayouts
import Merossity.Api.Discovery
import Merossity.Api.EnergyStore
import Merossity.Api.HostAnswers
import Merossity.Api.HostMacs
import Merossity.Api.HostScan
import Merossity.Api.HostTrail
import Merossity.Api.Neighbours
import Merossity.Api.PatchFrame
import Merossity.Api.Rgb
import Merossity.Api.RuleEdits
import Merossity.Api.RuleSearch
import Merossity.Api.ScheduleHandlers
import Merossity.Api.ScheduleLayouts
import Merossity.Api.Shared
import Merossity.Api.StoredCidr
import Merossity.Api.SuggestCidrs
import Merossity.Api.TelemetryHistory
import Merossity.Api.TimerRules
import Merossity.Cli.Tui
import Merossity.Js.Hex
import Merossity.Js.Json
import Merossity.Js.Number
import Merossity.Js.Numerals
import Merossity.Js.Parse
import Merossity.Js.Rounding
import Merossity.Lib.Backoff
import Merossity.Lib.DepthFirst
import Merossity.Lib.Draft
import Merossity.Lib.Effort
import Merossity.Lib.FirstHit
import Merossity.Lib.Flight
import Merossity.Lib.Grouping
import Merossity.Lib.Loop
import Merossity.Lib.Machine
import Merossity.Lib.OrdMap
import Merossity.Lib.Pacing
import Merossity.Lib.Prog
import Merossity.Lib.Replica
import Merossity.Lib.Scan
import Merossity.Lib.SortKey
import Merossity.Lib.Sorting
import Merossity.Lib.Sse
import Merossity.Lib.Throttle
import Merossity.Lib.Traces
import Merossity.Lib.Versions
import Merossity.Lib.WorkerPool
import Merossity.Meross.Cidr
import Merossity.Meross.CidrGrammar
import Merossity.Meross.Cloud
import Merossity.Meross.CloudRuns
import Merossity.Meross.Config
import Merossity.Meross.DeviceLists
import Merossity.Meross.Inventory
import Merossity.Meross.Lan
import Merossity.Meross.Mac
import Merossity.Meross.SignIn
import Merossity.Poller.Accounts
import Merossity.Poller.Boosts
import Merossity.Poller.Configured
import Merossity.Poller.Fairness
import Merossity.Poller.Flights
import Merossity.Poller.Limits
import Merossity.Poller.Material
import Merossity.Poller.Metas
import Merossity.Poller.NormalForm
import Merossity.Poller.Outcomes
import Merossity.Poller.Pacing
import Merossity.Poller.Power
import Merossity.Poller.PowerStream
import Merossity.Poller.Readings
import Merossity.Poller.Recovery
import Merossity.Poller.Refreshes
import Merossity.Poller.Samples
import Merossity.Poller.Schedule
import Merossity.Poller.Selection
import Merossity.Poller.Service
import Merossity.Poller.SingleFlight
import Merossity.Poller.State
import Merossity.Poller.Steps
import Merossity.Poller.Store
import Merossity.Poller.Stream
import Merossity.Poller.Subscriber
import Merossity.Poller.Termination
import Merossity.Poller.Tracked
import Merossity.Poller.Versions
import Merossity.Qa.JsonComments
import Merossity.Web.Auth
import Merossity.Web.Bookkeeping
import Merossity.Web.DevicesMachine
import Merossity.Web.EventStream
import Merossity.Web.HostMap
import Merossity.Web.LightPanel
import Merossity.Web.OptimisticShape
import Merossity.Web.Session
import Merossity.Web.StreamCodec
import Merossity.Web.TimerEditor
import Merossity.Web.TimerSaves
import Merossity.Web.Toggle
