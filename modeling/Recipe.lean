import Recipe.Json.Reader
import Recipe.OptionsDocument
import Recipe.Report
import Recipe.Workspace
import Recipe.TaskGraph.Error
import Recipe.Proofs.TaskGraph.Cycle
import Recipe.Proofs.Outcome
import Recipe.Proofs.TaskGraph.Wiring
import Recipe.Proofs.Build.WellFormed
import Recipe.Proofs.Table
import Recipe.Proofs.Build.Resolution
import Recipe.Proofs.Build.Acceptance
import Recipe.Proofs.Build.Typing
import Recipe.Proofs.Registry
import Recipe.Proofs.Collection
import Recipe.Proofs.Assembly
import Recipe.Proofs.ClosedPipeline
import Recipe.Proofs.Build.Growth
import Recipe.Proofs.Cache.Computation
import Recipe.Proofs.Renaming
import Recipe.Proofs.TaskGraph.Release
import Recipe.Proofs.TaskGraph.ExecutionOrder
import Recipe.Proofs.Cache.Census
import Recipe.Proofs.Nesting
import Recipe.Proofs.Recursion
import Recipe.Proofs.Reachability
import Recipe.Proofs.Compilable
import Recipe.Proofs.TaskGraph.CycleReport
import Recipe.Proofs.Build.Needs
import Recipe.Proofs.DryValidation
import Recipe.Proofs.NeedsPolicy
import Recipe.Proofs.Registration
import Recipe.Proofs.Dependencies
import Recipe.Proofs.Noninterference
import Recipe.Proofs.Labels
import Recipe.Proofs.Revisiting
import Recipe.Proofs.Validation
import Recipe.Proofs.Build.Reordering
import Recipe.Proofs.TaskGraph.Construction
import Recipe.Proofs.Trimming
import Recipe.Proofs.Placeholder.Pieces
import Recipe.Proofs.Placeholder.Settled
import Recipe.Proofs.TaskGraph.LongestChains
import Recipe.Proofs.Building
import Recipe.Proofs.Enrolment
import Recipe.Proofs.Placeholder.Surroundings
import Recipe.Proofs.Commands
import Recipe.Proofs.Build.Texts
import Recipe.Proofs.Build.Leftovers
import Recipe.Proofs.Letters
import Recipe.Proofs.Spelling
import Recipe.Proofs.PrintedNames
import Recipe.Proofs.Build.Grouping
import Recipe.Proofs.TaskGraph.Faults
import Recipe.Proofs.TaskGraph.Delays
import Recipe.Proofs.Handles
import Recipe.Proofs.Extensions
import Recipe.Proofs.Serialization.RoundTrip
import Recipe.Proofs.Serialization.Lossless
import Recipe.Proofs.Respelling
import Recipe.Proofs.TaskGraph.Countdown
