import HostFleet.CommandLine.Arguments
import HostFleet.CommandLine.Help
import HostFleet.CommandLine.Program
import HostFleet.CommandLine.Request
import HostFleet.Completion.Completer
import HostFleet.Completion.Index
import HostFleet.Description
import HostFleet.Document.Basic
import HostFleet.Document.Fields
import HostFleet.Document.Json.Reader
import HostFleet.Document.Json.Token
import HostFleet.Document.Json.Writer
import HostFleet.Document.Toml.Reader
import HostFleet.Document.Toml.Scalar
import HostFleet.Document.Toml.Table
import HostFleet.Document.Toml.Text
import HostFleet.Instant.Basic
import HostFleet.Instant.Text
import HostFleet.Inventory.Cache
import HostFleet.Inventory.Codec
import HostFleet.Inventory.Entity
import HostFleet.Inventory.Error
import HostFleet.Inventory.Loader
import HostFleet.Inventory.Relations
import HostFleet.Inventory.Settings
import HostFleet.Inventory.Store
import HostFleet.Inventory.Walk
import HostFleet.Machine.Executable
import HostFleet.Machine.Files
import HostFleet.Machine.Kernel
import HostFleet.Machine.Mode
import HostFleet.Machine.Program
import HostFleet.Machine.Schedule
import HostFleet.Machine.Signal
import HostFleet.Machine.Standard
import HostFleet.Names
import HostFleet.Number.Floating
import HostFleet.Run.Aggregator
import HostFleet.Run.Console
import HostFleet.Run.Engine
import HostFleet.Run.Mode
import HostFleet.Run.Output
import HostFleet.Run.Pool
import HostFleet.Run.Status
import HostFleet.Selection
import HostFleet.Selector.Basic
import HostFleet.Selector.Parser
import HostFleet.Settings
import HostFleet.Shell.Arithmetic
import HostFleet.Shell.Bracket
import HostFleet.Shell.Builtin.Basic
import HostFleet.Shell.Builtin.Catalog
import HostFleet.Shell.Builtin.Input
import HostFleet.Shell.Builtin.Jobs
import HostFleet.Shell.Builtin.Variables
import HostFleet.Shell.Expansion
import HostFleet.Shell.Fields
import HostFleet.Shell.Flow
import HostFleet.Shell.Interpreter
import HostFleet.Shell.Pattern
import HostFleet.Shell.Process
import HostFleet.Shell.Program
import HostFleet.Shell.Reader
import HostFleet.Shell.Redirection
import HostFleet.Shell.State
import HostFleet.Storage.FileTree
import HostFleet.Storage.OsError
import HostFleet.Storage.Path
import HostFleet.Storage.Step
import HostFleet.Text.Blank
import HostFleet.Text.ByteText
import HostFleet.Text.CharClass
import HostFleet.Text.Quoted
import HostFleet.Text.Regex
import HostFleet.Text.Unprintable
import HostFleet.Text.Utf8
import HostFleet.Transport.Carry
import HostFleet.Transport.Launch
import HostFleet.Transport.LocalMachine
import HostFleet.Utility.Basic
import HostFleet.Utility.Catalog
import HostFleet.Utility.Condition
import HostFleet.Utility.Format
import HostFleet.Utility.Options
import HostFleet.Main
import HostFleet.Utility.Child
import HostFleet.Utility.Editing.Script
import HostFleet.Proofs.CivilDates
import HostFleet.Proofs.EntityCodec
import HostFleet.Proofs.EntityGraph
import HostFleet.Proofs.ExportedStore
import HostFleet.Proofs.FilterNarrowing
import HostFleet.Proofs.InstantText
import HostFleet.Proofs.JsonText
import HostFleet.Proofs.NameMaps
import HostFleet.Proofs.SavedCache
import HostFleet.Proofs.SelectionMeaning
import HostFleet.Proofs.SelectorGrammar
import HostFleet.Proofs.SelectorReading
import HostFleet.Proofs.StoreAnswers
import HostFleet.Proofs.StoreIndex
import HostFleet.Proofs.Utf8Text
import HostFleet.Proofs.Walks
import HostFleet.Proofs.CacheNames
import HostFleet.Proofs.TokenOrder
import HostFleet.Proofs.CompletionBuckets
import HostFleet.Proofs.InventoryOrder
import HostFleet.Proofs.SavedIndex
import HostFleet.Proofs.InterruptedSaves
import HostFleet.Proofs.InventoryRuns
import HostFleet.Proofs.OutputGroups
import HostFleet.Proofs.RunReports
import HostFleet.Proofs.PoolMoves
import HostFleet.Proofs.PooledRuns
import HostFleet.Proofs.RunSchedule
import HostFleet.Proofs.CollapseRuns
import HostFleet.Proofs.PrefixCompletion
import HostFleet.Proofs.FetchOutcomes
import HostFleet.Proofs.SharedConsole
import HostFleet.Proofs.FailureReports
import HostFleet.Proofs.DroppedCache
import HostFleet.Proofs.IndexCoherence
import HostFleet.Proofs.KeptFolders
import HostFleet.Proofs.MutualGroups
import HostFleet.Proofs.RacingSaves
import HostFleet.Proofs.BreadthFirstWalks
import HostFleet.Proofs.WalkTurns
import HostFleet.Proofs.DatacenterAncestry
import HostFleet.Proofs.CacheLoads
import HostFleet.Proofs.HostArguments
import HostFleet.Proofs.CompleterItems
import HostFleet.Proofs.IndexLookups
import HostFleet.Proofs.InheritedTags
import HostFleet.Proofs.SyntaxErrors
import HostFleet.Proofs.CacheFormats
import HostFleet.Proofs.NormalExports
import HostFleet.Proofs.DocumentVariations
import HostFleet.Proofs.SerialRuns
import HostFleet.Proofs.CacheExpiry
import HostFleet.Proofs.SurplusDatacenters
import HostFleet.Proofs.ForwardedLines
