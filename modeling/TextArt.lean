import TextArt.Main
import TextArt.Recipe.Document
import TextArt.Proofs.Fill.Repaint
import TextArt.Proofs.Recipe.Atomicity
import TextArt.Proofs.Recipe.Compilation
import TextArt.Proofs.Recipe.Resolution
import TextArt.Proofs.Wire.Run
import TextArt.Proofs.Grid.ReadBack
import TextArt.Proofs.Grid.Symmetry
import TextArt.Proofs.Request.Paint
import TextArt.Proofs.Fill.Legible
import TextArt.Proofs.Shape.Request
import TextArt.Proofs.Script.Legible
import TextArt.Proofs.Script.Stamping
import TextArt.Proofs.Composite
import TextArt.Proofs.Script.Painting
import TextArt.Proofs.Grid.Equivariance
import TextArt.Proofs.Banner
import TextArt.Proofs.Binary64.Sum
import TextArt.Proofs.Script.AllOrNothing
import TextArt.Proofs.Grid.Join
import TextArt.Proofs.Fill.Scatter
import TextArt.Proofs.Grid.Painting
import TextArt.Proofs.Fill.Exhaustion
import TextArt.Proofs.Fill.Normalization
import TextArt.Proofs.Recipe.Normalization
import TextArt.Proofs.Fill.Boundary
import TextArt.Proofs.Containment
import TextArt.Proofs.FileStore
import TextArt.Proofs.Json.Reader
import TextArt.Proofs.Recipe.Containment
import TextArt.Proofs.CommandLine.Making
import TextArt.Proofs.CommandLine.Actions
import TextArt.Proofs.CommandLine.Containment
import TextArt.Proofs.Settings
import TextArt.Proofs.Export.Files
import TextArt.Proofs.Export.Html
import TextArt.Proofs.Export.Record
import TextArt.Proofs.Script.Streams
import TextArt.Proofs.Grid.Compositing
import TextArt.Proofs.Schema.Problems
import TextArt.Proofs.Recipe.Problems
import TextArt.Proofs.Recipe.Refusal
import TextArt.Proofs.CommandLine.Showing
import TextArt.Proofs.Grid.Clipping
import TextArt.Proofs.Shape.Circle
import TextArt.Proofs.Grid.Trimming
import TextArt.Proofs.Composite.Corners
import TextArt.Proofs.Composite.Fitting
import TextArt.Proofs.Shape.Outline
import TextArt.Proofs.Request.Tables
import TextArt.Proofs.Script.Blanks
import TextArt.Proofs.Fill.Calls
import TextArt.Proofs.Fill.Agreement
import TextArt.Proofs.Number.Order
import TextArt.Proofs.Fill.Density
import TextArt.Proofs.Text.LetterCase
import TextArt.Proofs.Fill.Spelling
import TextArt.Proofs.Fill.Unknown
import TextArt.Proofs.Recipe.UnknownParameters
import TextArt.Proofs.Glyph.Supported
import TextArt.Proofs.Grid.Halving
import TextArt.Proofs.Grid.Step
import TextArt.Proofs.Export.Paths
import TextArt.Proofs.Shape.Crossings
