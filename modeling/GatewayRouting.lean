import GatewayRouting.Cache.Backend
import GatewayRouting.Cache.Entries
import GatewayRouting.Cache.Key
import GatewayRouting.Cache.Timed
import GatewayRouting.Cache.Unreliable
import GatewayRouting.CommandLine
import GatewayRouting.Datum
import GatewayRouting.Document.Files
import GatewayRouting.Document.Format
import GatewayRouting.Document.Path
import GatewayRouting.Document.Routes
import GatewayRouting.Double
import GatewayRouting.Double.Decimal
import GatewayRouting.Failure
import GatewayRouting.Json.Document
import GatewayRouting.Json.Layout
import GatewayRouting.Json.Numeral
import GatewayRouting.Json.Record
import GatewayRouting.Json.Text
import GatewayRouting.Json.Token
import GatewayRouting.Json.Tree
import GatewayRouting.Main
import GatewayRouting.Metrics.Observation
import GatewayRouting.Metrics.Series
import GatewayRouting.Pattern
import GatewayRouting.Power
import GatewayRouting.Proofs.AbsorbedFailures
import GatewayRouting.Proofs.Cacheless
import GatewayRouting.Proofs.CallSums
import GatewayRouting.Proofs.Clearing
import GatewayRouting.Proofs.Coherence
import GatewayRouting.Proofs.Contents
import GatewayRouting.Proofs.Counters
import GatewayRouting.Proofs.Course
import GatewayRouting.Proofs.Covering
import GatewayRouting.Proofs.Erasures
import GatewayRouting.Proofs.FieldValues
import GatewayRouting.Proofs.Frame
import GatewayRouting.Proofs.Gathering
import GatewayRouting.Proofs.Guard
import GatewayRouting.Proofs.InFlight
import GatewayRouting.Proofs.Invalidation
import GatewayRouting.Proofs.JsonTexts
import GatewayRouting.Proofs.KnownMembers
import GatewayRouting.Proofs.LastingAnswers
import GatewayRouting.Proofs.Layers
import GatewayRouting.Proofs.Lifetimes
import GatewayRouting.Proofs.LimitedEffect
import GatewayRouting.Proofs.LoadOrder
import GatewayRouting.Proofs.Lookup
import GatewayRouting.Proofs.LookupCalls
import GatewayRouting.Proofs.OneLoad
import GatewayRouting.Proofs.OwnPatterns
import GatewayRouting.Proofs.PathGrammar
import GatewayRouting.Proofs.Precedence
import GatewayRouting.Proofs.PrintedAnswers
import GatewayRouting.Proofs.Protocol
import GatewayRouting.Proofs.ReadYourWrites
import GatewayRouting.Proofs.Recognition
import GatewayRouting.Proofs.Refusals
import GatewayRouting.Proofs.Registry
import GatewayRouting.Proofs.RouteLists
import GatewayRouting.Proofs.RouteMembers
import GatewayRouting.Proofs.Sameness
import GatewayRouting.Proofs.Sections
import GatewayRouting.Proofs.Seeding
import GatewayRouting.Proofs.SharedResults
import GatewayRouting.Proofs.Shifts
import GatewayRouting.Proofs.SideBySide
import GatewayRouting.Proofs.Staleness
import GatewayRouting.Proofs.TextVariables
import GatewayRouting.Proofs.Totals
import GatewayRouting.Proofs.Tracking
import GatewayRouting.Proofs.TwoDecodings
import GatewayRouting.Proofs.Upkeep
import GatewayRouting.Proofs.UselessCaches
import GatewayRouting.Proofs.Widening
import GatewayRouting.Proofs.WrittenNumbers
import GatewayRouting.Proofs.WrittenRecords
import GatewayRouting.Proofs.WrittenRoutes
import GatewayRouting.Proofs.WrittenTokens
import GatewayRouting.Proofs.WrittenTrees
import GatewayRouting.Proofs.WrongShapes
import GatewayRouting.Record
import GatewayRouting.Resolution.Description
import GatewayRouting.Resolution.Memo
import GatewayRouting.Resolution.Options
import GatewayRouting.Resolution.Program
import GatewayRouting.Resolution.Schedule
import GatewayRouting.Resolution.Service
import GatewayRouting.Resolution.SharedLoad
import GatewayRouting.Resolution.World
import GatewayRouting.Route
import GatewayRouting.Route.Average
import GatewayRouting.Route.Record
import GatewayRouting.Route.Written
import GatewayRouting.Settings.Environment
import GatewayRouting.Settings.File
import GatewayRouting.Settings.Json
import GatewayRouting.Settings.Secret
import GatewayRouting.Settings.Setting
import GatewayRouting.Settings.Settings
import GatewayRouting.Settings.Yaml
import GatewayRouting.Settings.Yaml.Scanner
import GatewayRouting.Settings.Yaml.Tag
import GatewayRouting.Settings.Yaml.Text
import GatewayRouting.Settings.Yaml.Value
import GatewayRouting.Table
import GatewayRouting.Text.Blank
import GatewayRouting.Text.Digits
import GatewayRouting.Text.Invisible
import GatewayRouting.Text.Quoted
import GatewayRouting.Text.Utf8
import GatewayRouting.Toml.Document
import GatewayRouting.Toml.Scalar
import GatewayRouting.Toml.Table
import GatewayRouting.Version
import GatewayRouting.Yaml.Candidate
import GatewayRouting.Yaml.Cursor
import GatewayRouting.Yaml.Document
import GatewayRouting.Yaml.Node
import GatewayRouting.Yaml.Plain
import GatewayRouting.Yaml.Scanner
import GatewayRouting.Yaml.Tag
import GatewayRouting.Yaml.Text
import GatewayRouting.Yaml.Token
