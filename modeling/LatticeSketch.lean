import LatticeSketch.CommandLine.Arguments
import LatticeSketch.CommandLine.Footprint
import LatticeSketch.CommandLine.Invocation
import LatticeSketch.CommandLine.Run
import LatticeSketch.Compiler
import LatticeSketch.Crystal
import LatticeSketch.Decimal.Binary
import LatticeSketch.Decimal.Fixed
import LatticeSketch.Decimal.Reading
import LatticeSketch.Decimal.Scientific
import LatticeSketch.Decimal.Shortest
import LatticeSketch.Event
import LatticeSketch.Fault
import LatticeSketch.Files.Archive
import LatticeSketch.Files.Path
import LatticeSketch.Files.Tree
import LatticeSketch.Geometry.Curve
import LatticeSketch.Geometry.Directive
import LatticeSketch.Geometry.Plane
import LatticeSketch.Json.Ignored
import LatticeSketch.Json.Lexeme
import LatticeSketch.Json.Number
import LatticeSketch.Json.Record
import LatticeSketch.Lattice.Checkerboard
import LatticeSketch.Lattice.Grid
import LatticeSketch.Lattice.Matrix
import LatticeSketch.Lattice.Resize
import LatticeSketch.Lattice.Site
import LatticeSketch.Length
import LatticeSketch.Main
import LatticeSketch.Scene.Assembly
import LatticeSketch.Scene.Build
import LatticeSketch.Scene.Object
import LatticeSketch.Scene.Script
import LatticeSketch.Scene.Session
import LatticeSketch.Settings.Basic
import LatticeSketch.Settings.Reading
import LatticeSketch.Text.Blank
import LatticeSketch.Text.Lines
import LatticeSketch.Text.Printable
import LatticeSketch.Text.Quoted
import LatticeSketch.Text.Words
import LatticeSketch.Proofs.Lattice.Reading
import LatticeSketch.Proofs.Text.Words
import LatticeSketch.Proofs.Lattice.Reloading
import LatticeSketch.Proofs.Lattice.Composition
import LatticeSketch.Proofs.Lattice.Pairs
import LatticeSketch.Proofs.Lattice.Offsets
import LatticeSketch.Proofs.Decimal.Counting
import LatticeSketch.Proofs.Decimal.Rounding
import LatticeSketch.Proofs.Decimal.Scientific
import LatticeSketch.Proofs.Files.Places
import LatticeSketch.Proofs.Files.Archive
import LatticeSketch.Proofs.Files.Saving
import LatticeSketch.Proofs.Files.Editing
import LatticeSketch.Proofs.Files.Creating
import LatticeSketch.Proofs.Files.Unsaved
import LatticeSketch.Proofs.Files.Nested
import LatticeSketch.Proofs.Geometry.Bends
import LatticeSketch.Proofs.Compiler.CellByCell
import LatticeSketch.Proofs.Compiler.Policy
import LatticeSketch.Proofs.Compiler.Edge
import LatticeSketch.Proofs.Compiler.Series
import LatticeSketch.Proofs.Lattice.Rectangle
import LatticeSketch.Proofs.Lattice.Normalizing
import LatticeSketch.Proofs.Lattice.Framing
import LatticeSketch.Proofs.Compiler.Framing
import LatticeSketch.Proofs.Scene.Log
import LatticeSketch.Proofs.Scene.Records
import LatticeSketch.Proofs.Scene.Layout
import LatticeSketch.Proofs.Scene.Plan
import LatticeSketch.Proofs.Scene.Groups
import LatticeSketch.Proofs.Scene.Contents
import LatticeSketch.Proofs.Scene.History
import LatticeSketch.Proofs.Scene.Replies
import LatticeSketch.Proofs.Scene.Repetition
import LatticeSketch.Proofs.Scene.Alignment
import LatticeSketch.Proofs.Scene.Extent
import LatticeSketch.Proofs.Scene.Devices
import LatticeSketch.Proofs.Geometry.Decoding
import LatticeSketch.Proofs.Scene.Decoding
import LatticeSketch.Proofs.Scene.Embedding
import LatticeSketch.Proofs.Scene.Ordering
import LatticeSketch.Proofs.CommandLine.History
import LatticeSketch.Proofs.Scene.Refusals
import LatticeSketch.Proofs.CommandLine.Failing
import LatticeSketch.Proofs.Files.Opening
import LatticeSketch.Proofs.Json.Grammar
import LatticeSketch.Proofs.Json.Lexemes
import LatticeSketch.Proofs.Json.Ignored
import LatticeSketch.Proofs.Json.Values
import LatticeSketch.Proofs.Json.Records
import LatticeSketch.Proofs.Settings.Given
