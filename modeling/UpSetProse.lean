import UpSetProse.Analysis
import UpSetProse.Double.Arithmetic
import UpSetProse.Double.Basic
import UpSetProse.Double.Decimal
import UpSetProse.Double.Rounding
import UpSetProse.Exchange.Presentation
import UpSetProse.Exchange.Row
import UpSetProse.Exchange.Settings
import UpSetProse.Facts.Regions
import UpSetProse.Facts.Rows
import UpSetProse.Facts.Sets
import UpSetProse.Facts.State
import UpSetProse.Json.Basic
import UpSetProse.Json.Decoding
import UpSetProse.Json.Leaf
import UpSetProse.Json.Reader
import UpSetProse.Json.Writer
import UpSetProse.NameTable
import UpSetProse.Narrative.Basic
import UpSetProse.Narrative.Document
import UpSetProse.Plot.Basic
import UpSetProse.Plot.Classification
import UpSetProse.Plot.Row
import UpSetProse.Presentation
import UpSetProse.Proofs.Double.Approximation
import UpSetProse.Proofs.Double.Bounds
import UpSetProse.Proofs.Double.Copies
import UpSetProse.Proofs.Double.Error
import UpSetProse.Proofs.Double.Order
import UpSetProse.Proofs.Double.Root
import UpSetProse.Proofs.Double.Rounding
import UpSetProse.Proofs.Double.Sums
import UpSetProse.Proofs.Double.Whole
import UpSetProse.Proofs.Exchange.Presentation
import UpSetProse.Proofs.Facts.DegreeInfo
import UpSetProse.Proofs.Facts.KindSummary
import UpSetProse.Proofs.Facts.LargestRow
import UpSetProse.Proofs.Json.Decoding
import UpSetProse.Proofs.NameTable
import UpSetProse.Proofs.Narrative.Convergence
import UpSetProse.Proofs.Narrative.Document
import UpSetProse.Proofs.Narrative.Filling
import UpSetProse.Proofs.Narrative.Headings
import UpSetProse.Proofs.Narrative.HiddenRows
import UpSetProse.Proofs.Narrative.Levels
import UpSetProse.Proofs.Outcomes
import UpSetProse.Proofs.Plot.Classification
import UpSetProse.Proofs.Plot.Consistency
import UpSetProse.Proofs.Plot.DegreeBands
import UpSetProse.Proofs.Regions.Bucket
import UpSetProse.Proofs.Regions.Location
import UpSetProse.Proofs.Regions.Selection
import UpSetProse.Proofs.Regions.Split
import UpSetProse.Proofs.Settings.Decoding
import UpSetProse.Proofs.Settings.Document
import UpSetProse.Proofs.Settings.Layers
import UpSetProse.Proofs.StableSort
import UpSetProse.Proofs.Statistics.Change
import UpSetProse.Proofs.Statistics.Degrees
import UpSetProse.Proofs.Statistics.Deviations
import UpSetProse.Proofs.Statistics.Divergence
import UpSetProse.Proofs.Statistics.LargestFactor
import UpSetProse.Proofs.Statistics.Median
import UpSetProse.Proofs.Statistics.Percentile
import UpSetProse.Proofs.Statistics.Ranking
import UpSetProse.Proofs.Statistics.Reordering
import UpSetProse.Proofs.Statistics.TwoLargest
import UpSetProse.Proofs.Template.Convergence
import UpSetProse.Proofs.Template.FullExpansion
import UpSetProse.Proofs.Template.Loosening
import UpSetProse.Proofs.Template.Marked
import UpSetProse.Proofs.Template.Nesting
import UpSetProse.Proofs.Template.PassLimits
import UpSetProse.Proofs.Template.Passes
import UpSetProse.Proofs.Template.Phrase
import UpSetProse.Proofs.Template.Reading
import UpSetProse.Proofs.Template.References
import UpSetProse.Proofs.Template.Shedding
import UpSetProse.Proofs.Template.Unfolding
import UpSetProse.Proofs.Text.Composed
import UpSetProse.Proofs.Text.Layout
import UpSetProse.Proofs.Text.Numeral
import UpSetProse.Proofs.Text.Pattern
import UpSetProse.Proofs.Text.Plain
import UpSetProse.Proofs.Text.Prose
import UpSetProse.Proofs.Text.Recapitalized
import UpSetProse.Proofs.Text.Sanitized
import UpSetProse.Proofs.Text.Sentence
import UpSetProse.Proofs.Text.SentenceStart
import UpSetProse.Proofs.Text.UpperCase
import UpSetProse.Proofs.Token.Filling
import UpSetProse.Proofs.Token.Map
import UpSetProse.Proofs.Token.Quantities
import UpSetProse.Proofs.Token.Refusal
import UpSetProse.Proofs.Token.Registration
import UpSetProse.Proofs.Token.Reordering
import UpSetProse.Proofs.Token.Values
import UpSetProse.Proofs.Toml.Document
import UpSetProse.Proofs.Toml.Numeral
import UpSetProse.Proofs.Toml.Reader
import UpSetProse.Proofs.Totals
import UpSetProse.Regions.Bucket
import UpSetProse.Regions.Map
import UpSetProse.Regions.Share
import UpSetProse.Report
import UpSetProse.Settings.Basic
import UpSetProse.Settings.Document
import UpSetProse.Settings.Layers
import UpSetProse.StableSort
import UpSetProse.Statistics.Comparison
import UpSetProse.Statistics.Degrees
import UpSetProse.Statistics.Deviations
import UpSetProse.Statistics.Ranking
import UpSetProse.Template.Choice
import UpSetProse.Template.Expansion
import UpSetProse.Template.Phrase
import UpSetProse.Template.Segment
import UpSetProse.Template.Standard
import UpSetProse.Template.Symbol
import UpSetProse.Text.Characters
import UpSetProse.Text.LowerCase
import UpSetProse.Text.Prose
import UpSetProse.Text.Quoted
import UpSetProse.Text.Sentence
import UpSetProse.Text.UpperCase
import UpSetProse.Token.Basic
import UpSetProse.Token.Map
import UpSetProse.Token.Standard
import UpSetProse.Toml.Basic
import UpSetProse.Toml.Document
import UpSetProse.Toml.Numeral
import UpSetProse.Toml.Reader
import UpSetProse.Toml.Text
import UpSetProse.Vocabulary
