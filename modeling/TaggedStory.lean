import TaggedStory.Catalog.Collector
import TaggedStory.Catalog.Merge
import TaggedStory.Catalog.Name
import TaggedStory.Catalog.Rename
import TaggedStory.Decimal.Double
import TaggedStory.Decimal.Number
import TaggedStory.Decimal.Shortest
import TaggedStory.Decimal.Whole
import TaggedStory.Document.Entity
import TaggedStory.Document.Format
import TaggedStory.Document.Interchange.Content
import TaggedStory.Document.Interchange.Export
import TaggedStory.Document.Interchange.Import
import TaggedStory.Document.StoryData
import TaggedStory.Document.Template
import TaggedStory.Document.VariableTable
import TaggedStory.Document.VisualGraph
import TaggedStory.Fault
import TaggedStory.Json.Basic
import TaggedStory.Json.Printer
import TaggedStory.Json.Reader
import TaggedStory.Json.Token
import TaggedStory.Link.Association
import TaggedStory.Link.Network
import TaggedStory.Link.Resolver
import TaggedStory.Main
import TaggedStory.Node.Bgm
import TaggedStory.Node.Card
import TaggedStory.Node.Choice
import TaggedStory.Node.Jump
import TaggedStory.Node.Mark
import TaggedStory.Node.Task
import TaggedStory.Node.Text
import TaggedStory.Node.Tip
import TaggedStory.Node.Video
import TaggedStory.Record.Codec
import TaggedStory.Record.Scalar
import TaggedStory.Story.AutoPlay
import TaggedStory.Story.Condition
import TaggedStory.Story.Effect
import TaggedStory.Story.Graph
import TaggedStory.Story.Node
import TaggedStory.Story.NodeRecord
import TaggedStory.Story.Position
import TaggedStory.Story.Validation
import TaggedStory.Story.Variable
import TaggedStory.Surface.Arguments
import TaggedStory.Surface.CommandLine
import TaggedStory.Surface.Conversion
import TaggedStory.Surface.Markup
import TaggedStory.Surface.Service
import TaggedStory.Tag.Ad
import TaggedStory.Tag.Condition
import TaggedStory.Tag.Effect
import TaggedStory.Tag.Line
import TaggedStory.Tag.Rule
import TaggedStory.Tag.Span
import TaggedStory.Text.Blank
import TaggedStory.Text.Digit
import TaggedStory.Text.Lower
import TaggedStory.Text.Printable
import TaggedStory.Text.Quoted
import TaggedStory.Text.Ranges
import TaggedStory.Text.Scanner
import TaggedStory.Text.Width
import TaggedStory.Text.Word
import TaggedStory.Proofs.Attempt
import TaggedStory.Proofs.Link.Resolution
import TaggedStory.Proofs.Tag.Keeping
import TaggedStory.Proofs.Node.Heading
import TaggedStory.Proofs.Document.Entities
import TaggedStory.Proofs.Document.Import
import TaggedStory.Proofs.Decimal.Whole
import TaggedStory.Proofs.Node.Choice
import TaggedStory.Proofs.Decimal.Amount
import TaggedStory.Proofs.Node.BlackScreen
import TaggedStory.Proofs.Node.Video
import TaggedStory.Proofs.Json.Fields
import TaggedStory.Proofs.Record.Restoring
import TaggedStory.Proofs.Story.Parts
import TaggedStory.Proofs.Story.Records
import TaggedStory.Proofs.Story.Validated
import TaggedStory.Proofs.Tag.Scattered
import TaggedStory.Proofs.Tag.Figures
import TaggedStory.Proofs.Link.Direct
import TaggedStory.Proofs.Decimal.Legible
import TaggedStory.Proofs.Node.Legible
import TaggedStory.Proofs.Node.Card
import TaggedStory.Proofs.Document.VariableTable
import TaggedStory.Proofs.Document.Export
import TaggedStory.Proofs.Document.Return
import TaggedStory.Proofs.Document.Topology
import TaggedStory.Proofs.Document.LongCount
import TaggedStory.Proofs.Document.Start
import TaggedStory.Proofs.Document.NodeRecord
import TaggedStory.Proofs.Document.StoryData
import TaggedStory.Proofs.Document.VisualGraph
import TaggedStory.Proofs.Document.Entries
import TaggedStory.Proofs.Document.Pruning
import TaggedStory.Proofs.Record.Stops
import TaggedStory.Proofs.Story.Stops
import TaggedStory.Proofs.Document.Settling
import TaggedStory.Proofs.Story.Extras
import TaggedStory.Proofs.Document.Exporting
import TaggedStory.Proofs.Text.Thinning
import TaggedStory.Proofs.Text.Places
import TaggedStory.Proofs.Tag.Cleaning
import TaggedStory.Proofs.Tag.Cutting
import TaggedStory.Proofs.Decimal.Reread
import TaggedStory.Proofs.Node.Jump
import TaggedStory.Proofs.Node.Task
import TaggedStory.Proofs.Node.Bgm
import TaggedStory.Proofs.Record.Following
import TaggedStory.Proofs.Document.Narrowing
import TaggedStory.Proofs.Catalog.Collecting
import TaggedStory.Proofs.Catalog.Sightings
import TaggedStory.Proofs.Catalog.Coverage
import TaggedStory.Proofs.Document.Inference
import TaggedStory.Proofs.Tag.Ads
import TaggedStory.Proofs.Node.Tip
import TaggedStory.Proofs.Tag.Splitting
import TaggedStory.Proofs.Tag.Comparing
import TaggedStory.Proofs.Tag.Heads
import TaggedStory.Proofs.Tag.Forms
import TaggedStory.Proofs.Tag.Rewritten
import TaggedStory.Proofs.Document.GraphRecord
import TaggedStory.Proofs.Tag.Lone
import TaggedStory.Proofs.Tag.ConditionGrammar
import TaggedStory.Proofs.Tag.EffectGrammar
import TaggedStory.Proofs.Tag.RichText
import TaggedStory.Proofs.Tag.Pieces
import TaggedStory.Proofs.Tag.Removal
import TaggedStory.Proofs.Tag.Ending
import TaggedStory.Proofs.Tag.Extraction
import TaggedStory.Proofs.Link.Cycles
import TaggedStory.Proofs.Link.Expansion
import TaggedStory.Proofs.Link.Cuts
import TaggedStory.Proofs.Catalog.Merging
import TaggedStory.Proofs.Catalog.References
import TaggedStory.Proofs.Catalog.Remerging
import TaggedStory.Proofs.Catalog.Renaming
import TaggedStory.Proofs.Catalog.Halting
import TaggedStory.Proofs.Catalog.Finds
import TaggedStory.Proofs.Catalog.Discovery
import TaggedStory.Proofs.Tag.Idling
import TaggedStory.Proofs.Node.BareText
import TaggedStory.Proofs.Document.Edges
import TaggedStory.Proofs.Story.Flaws
import TaggedStory.Proofs.Catalog.Reordering
import TaggedStory.Proofs.Text.Stripping
import TaggedStory.Proofs.Story.Operations
import TaggedStory.Proofs.Catalog.NormalNames
import TaggedStory.Proofs.Document.EdgeIds
