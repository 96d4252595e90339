import EntityPipeline.Blueprint
import EntityPipeline.ChangelogDate
import EntityPipeline.CommandLine.Arguments
import EntityPipeline.CommandLine.Commands
import EntityPipeline.CommandLine.Report
import EntityPipeline.Config
import EntityPipeline.Context
import EntityPipeline.Definition.Basic
import EntityPipeline.Definition.Difference
import EntityPipeline.Definition.Options
import EntityPipeline.Definition.Order
import EntityPipeline.Definition.Read
import EntityPipeline.Definition.Written
import EntityPipeline.DependencyGraph
import EntityPipeline.Failure
import EntityPipeline.FieldType
import EntityPipeline.Files.FileTree
import EntityPipeline.Files.Path
import EntityPipeline.Json.Decode
import EntityPipeline.Json.Draft
import EntityPipeline.Json.Number
import EntityPipeline.Json.Printer
import EntityPipeline.Json.ReadError
import EntityPipeline.Json.Token
import EntityPipeline.Json.Value
import EntityPipeline.Main
import EntityPipeline.Merge
import EntityPipeline.Number.Binary64
import EntityPipeline.Preparation.Aggregates
import EntityPipeline.Preparation.Bootstrap
import EntityPipeline.Preparation.Fields
import EntityPipeline.Preparation.Inverses
import EntityPipeline.Preparation.Keys
import EntityPipeline.Preparation.Load
import EntityPipeline.Preparation.Names
import EntityPipeline.Preparation.Options
import EntityPipeline.Preparation.Phases
import EntityPipeline.Prepared.Entity
import EntityPipeline.Prepared.Field
import EntityPipeline.Prepared.PrimaryKey
import EntityPipeline.Prepared.Relationship
import EntityPipeline.Project.Load
import EntityPipeline.Project.Session
import EntityPipeline.Project.SnapshotWriter
import EntityPipeline.Proofs.Definition.AccessRules
import EntityPipeline.Proofs.Definition.Agreement
import EntityPipeline.Proofs.Definition.Changes
import EntityPipeline.Proofs.Definition.Entities
import EntityPipeline.Proofs.Definition.Likeness
import EntityPipeline.Proofs.Definition.MemberOrder
import EntityPipeline.Proofs.Definition.Memberwise
import EntityPipeline.Proofs.Definition.Options
import EntityPipeline.Proofs.Definition.Outlines
import EntityPipeline.Proofs.Definition.OverridesInTurn
import EntityPipeline.Proofs.Definition.ReadMembers
import EntityPipeline.Proofs.Definition.Settings
import EntityPipeline.Proofs.Definition.Snapshots
import EntityPipeline.Proofs.Definition.Spelling
import EntityPipeline.Proofs.Definition.UnknownMembers
import EntityPipeline.Proofs.Files.FileTree
import EntityPipeline.Proofs.Files.Folders
import EntityPipeline.Proofs.Graph.Building
import EntityPipeline.Proofs.Graph.Circles
import EntityPipeline.Proofs.Graph.Cycles
import EntityPipeline.Proofs.Graph.EarliestFirst
import EntityPipeline.Proofs.Graph.Growth
import EntityPipeline.Proofs.Graph.Sweep
import EntityPipeline.Proofs.Graph.Walks
import EntityPipeline.Proofs.Json.Documents
import EntityPipeline.Proofs.Json.Members
import EntityPipeline.Proofs.Json.Memberwise
import EntityPipeline.Proofs.Json.Merging
import EntityPipeline.Proofs.Json.OneValue
import EntityPipeline.Proofs.Json.Rearranged
import EntityPipeline.Proofs.Json.Records
import EntityPipeline.Proofs.Json.Sameness
import EntityPipeline.Proofs.Json.Tokens
import EntityPipeline.Proofs.Json.Trees
import EntityPipeline.Proofs.Json.Values
import EntityPipeline.Proofs.Number.Nearest
import EntityPipeline.Proofs.Number.Shortest
import EntityPipeline.Proofs.Number.Text
import EntityPipeline.Proofs.Preparation.AddedIds
import EntityPipeline.Proofs.Preparation.AnyOrder
import EntityPipeline.Proofs.Preparation.BothSides
import EntityPipeline.Proofs.Preparation.Conditions
import EntityPipeline.Proofs.Preparation.FieldTypes
import EntityPipeline.Proofs.Preparation.FirstFailure
import EntityPipeline.Proofs.Preparation.Freezing
import EntityPipeline.Proofs.Preparation.Given
import EntityPipeline.Proofs.Preparation.IdPaths
import EntityPipeline.Proofs.Preparation.KeptDefinitions
import EntityPipeline.Proofs.Preparation.KeyAgreement
import EntityPipeline.Proofs.Preparation.KeyUnfolding
import EntityPipeline.Proofs.Preparation.Loading
import EntityPipeline.Proofs.Preparation.Origins
import EntityPipeline.Proofs.Preparation.OtherSides
import EntityPipeline.Proofs.Preparation.Outcome
import EntityPipeline.Proofs.Preparation.PreparedFields
import EntityPipeline.Proofs.Preparation.PrimaryKeys
import EntityPipeline.Proofs.Preparation.Provenance
import EntityPipeline.Proofs.Preparation.Related
import EntityPipeline.Proofs.Preparation.Relating
import EntityPipeline.Proofs.Preparation.RelatingAgain
import EntityPipeline.Proofs.Preparation.RelatingFailures
import EntityPipeline.Proofs.Preparation.RootCauses
import EntityPipeline.Proofs.Preparation.Running
import EntityPipeline.Proofs.Preparation.Sides
import EntityPipeline.Proofs.Preparation.StablePlaces
import EntityPipeline.Proofs.Preparation.Sums
import EntityPipeline.Proofs.Preparation.Views
import EntityPipeline.Proofs.Project.Arrangement
import EntityPipeline.Proofs.Project.BareEntities
import EntityPipeline.Proofs.Project.Checking
import EntityPipeline.Proofs.Project.Generation
import EntityPipeline.Proofs.Project.HalfApplied
import EntityPipeline.Proofs.Project.Jobs
import EntityPipeline.Proofs.Project.Layers
import EntityPipeline.Proofs.Project.OptionStacks
import EntityPipeline.Proofs.Project.Overrides
import EntityPipeline.Proofs.Project.Reading
import EntityPipeline.Proofs.Project.Refiling
import EntityPipeline.Proofs.Project.Rerun
import EntityPipeline.Proofs.Project.Snapshots
import EntityPipeline.Proofs.Project.Sources
import EntityPipeline.Proofs.Project.Spellings
import EntityPipeline.Proofs.Project.TwoModes
import EntityPipeline.Proofs.Project.Whereabouts
import EntityPipeline.Proofs.Run.AnchorChains
import EntityPipeline.Proofs.Run.AnchorForest
import EntityPipeline.Proofs.Run.Calls
import EntityPipeline.Proofs.Run.Chapters
import EntityPipeline.Proofs.Run.CompositionStack
import EntityPipeline.Proofs.Run.DependenciesFirst
import EntityPipeline.Proofs.Run.ExecutedMarks
import EntityPipeline.Proofs.Run.GeneratorOrder
import EntityPipeline.Proofs.Run.Histories
import EntityPipeline.Proofs.Run.Loops
import EntityPipeline.Proofs.Run.PlanExtension
import EntityPipeline.Proofs.Run.PriorityPlaces
import EntityPipeline.Proofs.Run.Requirements
import EntityPipeline.Proofs.Run.RunInOrder
import EntityPipeline.Proofs.Run.Schedule
import EntityPipeline.Proofs.Run.Sequences
import EntityPipeline.Proofs.Run.Trails
import EntityPipeline.Proofs.Text.FrontendNames
import EntityPipeline.Proofs.Text.Plurals
import EntityPipeline.Proofs.Text.SmallForms
import EntityPipeline.Registry
import EntityPipeline.Run.Action
import EntityPipeline.Run.Execution
import EntityPipeline.Run.Priority
import EntityPipeline.Run.Scheduler
import EntityPipeline.Run.Task
import EntityPipeline.Snapshot
import EntityPipeline.Text.Blank
import EntityPipeline.Text.Case
import EntityPipeline.Text.CaseTable
import EntityPipeline.Text.Cluster
import EntityPipeline.Text.ClusterTable
import EntityPipeline.Text.HiddenTable
import EntityPipeline.Text.LetterTable
import EntityPipeline.Text.Naming
import EntityPipeline.Text.Pieces
import EntityPipeline.Text.Quoted
import EntityPipeline.Text.WordCase
