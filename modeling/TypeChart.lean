import TypeChart.Classifier.Basic
import TypeChart.Classifier.Declared
import TypeChart.Command.Arguments
import TypeChart.Command.Run
import TypeChart.Diagram
import TypeChart.Edge.Basic
import TypeChart.Edge.Inference
import TypeChart.Edge.Set
import TypeChart.FileTree
import TypeChart.Json.Access
import TypeChart.Json.Basic
import TypeChart.Json.Reader
import TypeChart.Log
import TypeChart.Main
import TypeChart.Mermaid.Document
import TypeChart.Mermaid.Grouping
import TypeChart.Mermaid.Line
import TypeChart.Path
import TypeChart.Roster
import TypeChart.Scope
import TypeChart.Snapshot.Declaration
import TypeChart.Snapshot.Document
import TypeChart.Snapshot.Loader
import TypeChart.Snapshot.Sample
import TypeChart.Snapshot.TypeUse
import TypeChart.Proofs.Declarations
import TypeChart.Proofs.Edge.Ownership
import TypeChart.Proofs.Text.Lines
import TypeChart.Proofs.Mermaid.Flat
import TypeChart.Proofs.Text.ByteOrder
import TypeChart.Proofs.Mermaid.Grouping
import TypeChart.Proofs.Mermaid.Grouped
import TypeChart.Proofs.Mermaid.OneLine
import TypeChart.Proofs.Mermaid.Layouts
import TypeChart.Proofs.Mermaid.Reading
import TypeChart.Proofs.Mermaid.Outline
import TypeChart.Proofs.Edge.Selection
import TypeChart.Proofs.Edge.Ancestors
import TypeChart.Proofs.Snapshot.Entries
import TypeChart.Proofs.Snapshot.Guarded
import TypeChart.Proofs.Snapshot.Canonical
import TypeChart.Proofs.Snapshot.Writing
import TypeChart.Proofs.Snapshot.Acceptance
import TypeChart.Proofs.Roster.Conservation
import TypeChart.Proofs.Roster.WellFormed
import TypeChart.Proofs.Command.Courses
import TypeChart.Proofs.Writing
import TypeChart.Proofs.Command.Accord
import TypeChart.Proofs.Path
import TypeChart.Proofs.Command.Destination
import TypeChart.Proofs.Edge.History
import TypeChart.Proofs.Edge.Roots
import TypeChart.Proofs.Mermaid.Plan
import TypeChart.Proofs.Mermaid.Placement
import TypeChart.Proofs.Command.Units
import TypeChart.Proofs.Command.Verbose
import TypeChart.Proofs.Edge.Candidates
import TypeChart.Proofs.Edge.Nameless
import TypeChart.Proofs.Edge.Order
import TypeChart.Proofs.Edge.Classification
import TypeChart.Proofs.Roster.Parts
import TypeChart.Proofs.Roster.Unresolved
import TypeChart.Proofs.Edge.Renaming
import TypeChart.Proofs.Text.Words
import TypeChart.Proofs.Mermaid.EdgeLine
import TypeChart.Proofs.Snapshot.Arrays
import TypeChart.Proofs.Snapshot.Places
import TypeChart.Proofs.Snapshot.Rewriting
import TypeChart.Proofs.Mermaid.OperationLine
import TypeChart.Proofs.Mermaid.FileName
import TypeChart.Proofs.Command.Separation
import TypeChart.Proofs.Edge.Counterpart
