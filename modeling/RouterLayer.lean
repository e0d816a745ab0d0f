import RouterLayer.Attribute
import RouterLayer.Command.Help
import RouterLayer.Command.Invocation
import RouterLayer.Command.Run
import RouterLayer.Command.Surroundings
import RouterLayer.Command.Usage
import RouterLayer.Delegate.Basic
import RouterLayer.Delegate.Fault
import RouterLayer.Delegate.Registry
import RouterLayer.Document
import RouterLayer.Document.Fault
import RouterLayer.Failure
import RouterLayer.FileTree.Basic
import RouterLayer.FileTree.Fault
import RouterLayer.FileTree.Route
import RouterLayer.Json.Basic
import RouterLayer.Json.Display
import RouterLayer.Json.Indented
import RouterLayer.Json.Reader
import RouterLayer.Log
import RouterLayer.Log.Hierarchy
import RouterLayer.Main
import RouterLayer.Naming
import RouterLayer.Number.Binary64
import RouterLayer.Number.Shortest
import RouterLayer.Operation
import RouterLayer.Options
import RouterLayer.Options.Problem
import RouterLayer.OrderedMap
import RouterLayer.Path.Basic
import RouterLayer.Path.Drive
import RouterLayer.Path.Specifier
import RouterLayer.Plural
import RouterLayer.Policy
import RouterLayer.Router.AppFile
import RouterLayer.Router.Bootstrap
import RouterLayer.Router.Layout
import RouterLayer.Router.ModelFile
import RouterLayer.Run
import RouterLayer.Sink.Basic
import RouterLayer.Sink.Files
import RouterLayer.SourceFile.Basic
import RouterLayer.SourceFile.Render
import RouterLayer.Text.Basic
import RouterLayer.Text.Blank
import RouterLayer.Text.Bytes
import RouterLayer.Text.Case
import RouterLayer.Text.Case.Table
import RouterLayer.Text.Plain
import RouterLayer.Text.Printable
import RouterLayer.Text.Quoted
import RouterLayer.Text.Ranges
import RouterLayer.Text.Similar
import RouterLayer.Text.Split
import RouterLayer.Text.Word
import RouterLayer.Visibility
import RouterLayer.Proofs.Document.Written
import RouterLayer.Proofs.OrderedMap
import RouterLayer.Proofs.Outcome
import RouterLayer.Proofs.Policy.Coverage
import RouterLayer.Proofs.Policy.Rules
import RouterLayer.Proofs.Router.Collision
import RouterLayer.Proofs.Router.Files
import RouterLayer.Proofs.Run.Failures
import RouterLayer.Proofs.Run.Noninterference
import RouterLayer.Proofs.Run.Outline
import RouterLayer.Proofs.Run.Paths
import RouterLayer.Proofs.Run.Session
import RouterLayer.Proofs.Run.Stages
import RouterLayer.Proofs.Visibility
import RouterLayer.Proofs.Path.Resolve
import RouterLayer.Proofs.Path.Module
import RouterLayer.Proofs.Router.Imports
import RouterLayer.Proofs.Router.Scope
import RouterLayer.Proofs.Run.Links
import RouterLayer.Proofs.Router.Configured
import RouterLayer.Proofs.Run.Success
import RouterLayer.Proofs.Command.Precedence
import RouterLayer.Proofs.Document.Unguarded
import RouterLayer.Proofs.Run.Kinds
import RouterLayer.Proofs.Text.Bytes
import RouterLayer.Proofs.FileTree.Basic
import RouterLayer.Proofs.FileTree.Walk
import RouterLayer.Proofs.FileTree.Make
import RouterLayer.Proofs.FileTree.Clear
import RouterLayer.Proofs.Sink.Files
import RouterLayer.Proofs.Sink.Refinement
import RouterLayer.Proofs.Run.Course
import RouterLayer.Proofs.Run.PlainPaths
import RouterLayer.Proofs.Sink.Delivery
import RouterLayer.Proofs.Text.Plain
import RouterLayer.Proofs.Command.Ending
import RouterLayer.Proofs.Command.Tree
import RouterLayer.Proofs.Run.Distinct
import RouterLayer.Proofs.Run.Shield
import RouterLayer.Proofs.Run.WorkingDirectory
import RouterLayer.Proofs.Run.AllowList
import RouterLayer.Proofs.Router.Keys
import RouterLayer.Proofs.Path.Target
import RouterLayer.Proofs.Path.Descent
import RouterLayer.Proofs.FileTree.Confined
import RouterLayer.Proofs.Sink.Confined
import RouterLayer.Proofs.FileTree.Reach
import RouterLayer.Proofs.FileTree.Passable
import RouterLayer.Proofs.FileTree.Emptying
import RouterLayer.Proofs.Sink.Reset
import RouterLayer.Proofs.Sink.Writing
import RouterLayer.Proofs.Sink.Retry
import RouterLayer.Proofs.Run.Attendance
import RouterLayer.Proofs.Run.Confined
import RouterLayer.Proofs.Router.PlainKeys
import RouterLayer.Proofs.Router.Clash
import RouterLayer.Proofs.Attribute.Scan
import RouterLayer.Proofs.Attribute.Arguments
import RouterLayer.Proofs.Attribute.Hiding
import RouterLayer.Proofs.Attribute.Finished
import RouterLayer.Proofs.Attribute.Spelling
import RouterLayer.Proofs.Text.Blank
import RouterLayer.Proofs.Json.Keyed
import RouterLayer.Proofs.Document.Grammar
import RouterLayer.Proofs.Run.Declared
import RouterLayer.Proofs.Policy.Matrix
import RouterLayer.Proofs.Router.Schemas
import RouterLayer.Proofs.Path.Drive
import RouterLayer.Proofs.Path.Designation
import RouterLayer.Proofs.Json.Literal
import RouterLayer.Proofs.Json.Indented
import RouterLayer.Proofs.Text.Replace
import RouterLayer.Proofs.Policy.Pieces
import RouterLayer.Proofs.Policy.Literal
import RouterLayer.Proofs.Text.Padded
import RouterLayer.Proofs.Options.Block
import RouterLayer.Proofs.Run.Channels
import RouterLayer.Proofs.Text.Framed
import RouterLayer.Proofs.Text.ScriptLiteral
import RouterLayer.Proofs.Text.Layout
import RouterLayer.Proofs.SourceFile.Framed
import RouterLayer.Proofs.SourceFile.Procedure
import RouterLayer.Proofs.SourceFile.Layout
import RouterLayer.Proofs.Path.Characters
import RouterLayer.Proofs.Router.Input
import RouterLayer.Proofs.Router.Names
import RouterLayer.Proofs.Policy.Layout
import RouterLayer.Proofs.Run.Modules
import RouterLayer.Proofs.Run.Layout
import RouterLayer.Proofs.Delegate.Reference
import RouterLayer.Proofs.Log.Hierarchy
import RouterLayer.Proofs.Log.Session
