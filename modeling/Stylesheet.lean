import Stylesheet.Main
import Stylesheet.Cli.Run
import Stylesheet.Json.Reader
import Stylesheet.Json.Writer
import Stylesheet.Session
import Stylesheet.Layout
import Stylesheet.Traced
import Stylesheet.AtRule
import Stylesheet.Decimal.Layout
import Stylesheet.Decimal.Reading
import Stylesheet.Property
import Stylesheet.Text.Ansi
import Stylesheet.Text.Half
import Stylesheet.Text.Newline
import Stylesheet.Text.Utf8
import Stylesheet.Value.Text
import Stylesheet.Proofs.Casing
import Stylesheet.Proofs.Sign
import Stylesheet.Proofs.Name
import Stylesheet.Proofs.Marker
import Stylesheet.Proofs.Table
import Stylesheet.Proofs.Rule
import Stylesheet.Proofs.Visit
import Stylesheet.Proofs.Acceptance
import Stylesheet.Proofs.Declarations
import Stylesheet.Proofs.Placement
import Stylesheet.Proofs.Leaf
import Stylesheet.Proofs.Meaning
import Stylesheet.Proofs.SecondPass
import Stylesheet.Proofs.Lines
import Stylesheet.Proofs.Printing
import Stylesheet.Proofs.FixedPoint
import Stylesheet.Proofs.Order
import Stylesheet.Proofs.Revalued
import Stylesheet.Proofs.Shape
import Stylesheet.Proofs.LastLine
import Stylesheet.Proofs.LineFeed
import Stylesheet.Proofs.Reader
import Stylesheet.Proofs.Merging
import Stylesheet.Proofs.Nesting
import Stylesheet.Proofs.Separation
import Stylesheet.Proofs.Rearranged
import Stylesheet.Proofs.Chain
import Stylesheet.Proofs.Wrapped
import Stylesheet.Proofs.Mapping
import Stylesheet.Proofs.Utf8
import Stylesheet.Proofs.Word
import Stylesheet.Proofs.Whole
import Stylesheet.Proofs.Document
import Stylesheet.Proofs.Limit
import Stylesheet.Proofs.Kept
import Stylesheet.Proofs.CommandLine
import Stylesheet.Proofs.Pipeline
import Stylesheet.Proofs.Printable
import Stylesheet.Proofs.AllOrNothing
import Stylesheet.Proofs.NormalForm
import Stylesheet.Proofs.TopLevel
import Stylesheet.Proofs.WellNested
import Stylesheet.Proofs.Body
import Stylesheet.Proofs.SeveralValues
import Stylesheet.Proofs.Renamed
import Stylesheet.Proofs.Vendors
import Stylesheet.Proofs.Overlaid
import Stylesheet.Proofs.KeyParts
