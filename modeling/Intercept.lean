import Intercept.Binary64
import Intercept.Boundary.Argument
import Intercept.Boundary.Probe
import Intercept.CommandLine.Arguments
import Intercept.CommandLine.Commands
import Intercept.Dispatch.Execution
import Intercept.Dispatch.Hooking
import Intercept.Dispatch.Procedure
import Intercept.Dispatch.Registry
import Intercept.Dispatch.World
import Intercept.Elf.Header
import Intercept.Elf.Layout
import Intercept.Elf.Module
import Intercept.Exports.Label
import Intercept.Exports.Loading
import Intercept.Exports.Lookup
import Intercept.Failure
import Intercept.Files
import Intercept.Main
import Intercept.Pattern.CharClass
import Intercept.Pattern.Compile
import Intercept.Pattern.Error
import Intercept.Pattern.Matching
import Intercept.Pattern.Parser
import Intercept.Pattern.Size
import Intercept.Pattern.Syntax
import Intercept.Plan.Application
import Intercept.Plan.Edit
import Intercept.Plan.Entry
import Intercept.Plan.Reading
import Intercept.Proofs.Amending
import Intercept.Proofs.Attribution
import Intercept.Proofs.Bracketing
import Intercept.Proofs.Completion
import Intercept.Proofs.Course
import Intercept.Proofs.Covering
import Intercept.Proofs.Crossing
import Intercept.Proofs.Effects
import Intercept.Proofs.Episode
import Intercept.Proofs.Evolution
import Intercept.Proofs.Growth
import Intercept.Proofs.Hooking
import Intercept.Proofs.Independence
import Intercept.Proofs.Installing
import Intercept.Proofs.Junction
import Intercept.Proofs.Keeping
import Intercept.Proofs.LastInstallation
import Intercept.Proofs.Lockstep
import Intercept.Proofs.Moment
import Intercept.Proofs.Observing
import Intercept.Proofs.Overriding
import Intercept.Proofs.PlanInForce
import Intercept.Proofs.Quiet
import Intercept.Proofs.Reachability
import Intercept.Proofs.Rearming
import Intercept.Proofs.Reentrancy
import Intercept.Proofs.Registry
import Intercept.Proofs.Reinstalling
import Intercept.Proofs.Reissuing
import Intercept.Proofs.Renaming
import Intercept.Proofs.Renewal
import Intercept.Proofs.Shadowing
import Intercept.Proofs.Strand
import Intercept.Proofs.Sweeping
import Intercept.Proofs.Traffic
import Intercept.Proofs.Transparency
import Intercept.Proofs.Undisturbed
import Intercept.Proofs.Validation
import Intercept.Script.Expression
import Intercept.Script.Session
import Intercept.Signature
import Intercept.Target
import Intercept.Text.Digits
import Intercept.Text.Split
import Intercept.Text.Utf8
import Intercept.Toml.DateTime
import Intercept.Toml.Document
import Intercept.Toml.Literal
import Intercept.Toml.Printer
import Intercept.Toml.Reader
import Intercept.Toml.Tree
import Intercept.Toml.Value
import Intercept.Trace.Event
import Intercept.Trace.Json
import Intercept.Trace.Sink
import Intercept.Unicode.AgeTable
import Intercept.Unicode.CaseMappingTable
import Intercept.Unicode.CaseOrbitTable
import Intercept.Unicode.Casing
import Intercept.Unicode.CategoryTable
import Intercept.Unicode.Property
import Intercept.Unicode.PropertyTable
import Intercept.Unicode.Runs
import Intercept.Unicode.ScriptTable
import Intercept.Value
import Intercept.Proofs.Provenance
import Intercept.Proofs.Stacks
import Intercept.Proofs.Pairing
import Intercept.Proofs.Sparing
import Intercept.Proofs.Confinement
import Intercept.Proofs.Lossless
import Intercept.Proofs.Forwarding
import Intercept.Proofs.ExportSearch
import Intercept.Proofs.Targeting
import Intercept.Proofs.Editing
import Intercept.Proofs.Continuing
import Intercept.Proofs.Memberwise
import Intercept.Proofs.Acceptance
import Intercept.Proofs.Declaring
import Intercept.Proofs.Naming
import Intercept.Proofs.Attaching
import Intercept.Proofs.Identifying
import Intercept.Proofs.Alarms
import Intercept.Proofs.Listing
import Intercept.Proofs.Labelling
import Intercept.Dispatch.ClassTable
import Intercept.Proofs.Representation
import Intercept.Proofs.Consistency
