import TestGate.Bugzilla
import TestGate.Cache
import TestGate.Cache.Plan
import TestGate.CallSite
import TestGate.Collection
import TestGate.CollectionPass
import TestGate.CommandLine
import TestGate.CommandLine.Help
import TestGate.CommandLine.Parameter
import TestGate.Conclusion
import TestGate.Directory
import TestGate.Docstring
import TestGate.DotEnv
import TestGate.Double
import TestGate.Double.Shortest
import TestGate.Duplicates
import TestGate.Failure
import TestGate.Format
import TestGate.Http.Form
import TestGate.Http.Server
import TestGate.Http.Url
import TestGate.Issue.Codec
import TestGate.Issue.Index
import TestGate.Issue.Record
import TestGate.Issue.Reference
import TestGate.Issue.Tracker
import TestGate.IssueSource
import TestGate.IssueStatus
import TestGate.Jira
import TestGate.Jira.Search
import TestGate.Json.Basic
import TestGate.Json.Decode
import TestGate.Json.Literal
import TestGate.Json.Printer
import TestGate.Json.Reader
import TestGate.Json.Tree
import TestGate.Location
import TestGate.LogFilter
import TestGate.Main
import TestGate.Manifest
import TestGate.ManifestFile
import TestGate.Notice
import TestGate.Path
import TestGate.PreparedSource
import TestGate.Program
import TestGate.Proofs.CacheCodec
import TestGate.Proofs.CachePlan
import TestGate.Proofs.CacheTransparency
import TestGate.Proofs.CacheVersions
import TestGate.Proofs.ChainVerdicts
import TestGate.Proofs.CollectedIssues
import TestGate.Proofs.CollectionPasses
import TestGate.Proofs.Discipline
import TestGate.Proofs.DoubleRounding
import TestGate.Proofs.DuplicateWalk
import TestGate.Proofs.FailSafe
import TestGate.Proofs.Fates
import TestGate.Proofs.Fetching
import TestGate.Proofs.Gathering
import TestGate.Proofs.Heard
import TestGate.Proofs.IndexSteps
import TestGate.Proofs.Judging
import TestGate.Proofs.Knowledge
import TestGate.Proofs.KnownFates
import TestGate.Proofs.LookupHistory
import TestGate.Proofs.LostKnowledge
import TestGate.Proofs.OfflineReplay
import TestGate.Proofs.PrintedCaches
import TestGate.Proofs.PrintedLeaves
import TestGate.Proofs.PrintedTrees
import TestGate.Proofs.PrintedValues
import TestGate.Proofs.RecordCodec
import TestGate.Proofs.References
import TestGate.Proofs.Replay
import TestGate.Proofs.ReportUpkeep
import TestGate.Proofs.RereadTrees
import TestGate.Proofs.Resolving
import TestGate.Proofs.Results
import TestGate.Proofs.ShortestDecimals
import TestGate.Proofs.SortedMap
import TestGate.Proofs.Storable
import TestGate.Proofs.StoredKeys
import TestGate.Proofs.Trail
import TestGate.Proofs.Upkeep
import TestGate.Proofs.ValueTrees
import TestGate.Proofs.Versions
import TestGate.Resolver
import TestGate.Rest
import TestGate.Retry
import TestGate.RunId
import TestGate.Selection
import TestGate.Settings
import TestGate.SortedMap
import TestGate.Storage
import TestGate.Text.Alphanumeric
import TestGate.Text.AsciiCase
import TestGate.Text.Blank
import TestGate.Text.CharSet
import TestGate.Text.Digit
import TestGate.Text.Hex
import TestGate.Text.LowerCase
import TestGate.Text.Number
import TestGate.Text.Percent
import TestGate.Text.Quoted
import TestGate.Text.WordChar
import TestGate.Timestamp
import TestGate.TrackerSources
import TestGate.Verdict
import TestGate.Version
import TestGate.Version.Codec
import TestGate.Yaml.Cursor
import TestGate.Yaml.Node
import TestGate.Yaml.Scalar
import TestGate.Yaml.Token
import TestGate.Yaml.Value
import TestGate.Proofs.CollectedUses
import TestGate.Proofs.CacheRoundTrip
import TestGate.Proofs.LastingVerdicts
import TestGate.Proofs.PointwiseFates
import TestGate.Proofs.UntouchedUses
import TestGate.Proofs.FileEffects
import TestGate.Proofs.FoundIssues
import TestGate.Proofs.CanonicalVerdicts
import TestGate.Proofs.Requests
import TestGate.Proofs.SearchPages
import TestGate.Proofs.CompleteSearches
import TestGate.Proofs.ExcludedTests
import TestGate.Proofs.MalformedChains
import TestGate.Proofs.VerdictLaws
import TestGate.Proofs.CollectedMarks
import TestGate.Proofs.BoundedSearches
import TestGate.Proofs.MalformedMarkers
import TestGate.Proofs.RetriedCalls
import TestGate.Proofs.MergedCaches
import TestGate.Proofs.ScannedGuards
import TestGate.Proofs.VersionComparison
import TestGate.Proofs.DocstringFields
import TestGate.Proofs.AskedIssues
import TestGate.Proofs.TextOrder
import TestGate.Proofs.CompleteBatches
import TestGate.Proofs.ReferenceTexts
