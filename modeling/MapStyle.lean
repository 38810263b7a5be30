import MapStyle.Colour.Density
import MapStyle.Colour.Hex
import MapStyle.Colour.Ramp
import MapStyle.Command
import MapStyle.Command.Option
import MapStyle.Command.Run
import MapStyle.Decimal.Binary64
import MapStyle.Decimal.Shortest
import MapStyle.Entries
import MapStyle.Expr
import MapStyle.Expr.ClassColour
import MapStyle.Expr.Curve
import MapStyle.Expr.Error
import MapStyle.Expr.Filter
import MapStyle.Expr.LabelText
import MapStyle.Expr.Operators
import MapStyle.Expr.Width
import MapStyle.Fault
import MapStyle.Files.Session
import MapStyle.Files.Tree
import MapStyle.Json
import MapStyle.Json.Printer
import MapStyle.Json.Reader
import MapStyle.Json.Token
import MapStyle.Layer
import MapStyle.Layer.Airport
import MapStyle.Layer.Boundary
import MapStyle.Layer.Building
import MapStyle.Layer.Depth
import MapStyle.Layer.Graticule
import MapStyle.Layer.Ground
import MapStyle.Layer.Height
import MapStyle.Layer.Plan
import MapStyle.Layer.PoiLabel
import MapStyle.Layer.Population
import MapStyle.Layer.Road
import MapStyle.Layer.RoadLabel
import MapStyle.Layer.Settlement
import MapStyle.Layer.WaterLabel
import MapStyle.Main
import MapStyle.Number
import MapStyle.Number.Arithmetic
import MapStyle.Number.Double
import MapStyle.Number.Reader
import MapStyle.Presets
import MapStyle.Proofs.Boundary.Handover
import MapStyle.Proofs.Building.Range
import MapStyle.Proofs.Colour.Channel
import MapStyle.Proofs.Colour.Deepening
import MapStyle.Proofs.Colour.Density
import MapStyle.Proofs.Colour.Hex
import MapStyle.Proofs.Colour.Hsl
import MapStyle.Proofs.Colour.Known
import MapStyle.Proofs.Colour.Located
import MapStyle.Proofs.Colour.Mandatory
import MapStyle.Proofs.Colour.Painted
import MapStyle.Proofs.Colour.Quantized
import MapStyle.Proofs.Colour.Ramp
import MapStyle.Proofs.Colour.Resolved
import MapStyle.Proofs.Colour.Sorted
import MapStyle.Proofs.Colour.Usable
import MapStyle.Proofs.Colour.Wheel
import MapStyle.Proofs.Decimal.Nearest
import MapStyle.Proofs.Decimal.Shortest
import MapStyle.Proofs.Decimal.Written
import MapStyle.Proofs.Depth.Opacity
import MapStyle.Proofs.Entries
import MapStyle.Proofs.Expr.Abbreviated
import MapStyle.Proofs.Expr.Accepted
import MapStyle.Proofs.Expr.Choice
import MapStyle.Proofs.Expr.Fading
import MapStyle.Proofs.Expr.Interpolated
import MapStyle.Proofs.Expr.Line
import MapStyle.Proofs.Expr.Meaning
import MapStyle.Proofs.Expr.Mixed
import MapStyle.Proofs.Expr.Rearranged
import MapStyle.Proofs.Expr.Scoped
import MapStyle.Proofs.Expr.Shared
import MapStyle.Proofs.Expr.Shown
import MapStyle.Proofs.Expr.Sound
import MapStyle.Proofs.Expr.Straight
import MapStyle.Proofs.Expr.Total
import MapStyle.Proofs.Expr.Verdict
import MapStyle.Proofs.Files.Failed
import MapStyle.Proofs.Files.Ready
import MapStyle.Proofs.Files.Session
import MapStyle.Proofs.Files.Tree
import MapStyle.Proofs.Json.Numeral
import MapStyle.Proofs.Json.Plain
import MapStyle.Proofs.Json.Read
import MapStyle.Proofs.Json.Real
import MapStyle.Proofs.Json.Token
import MapStyle.Proofs.Label.Once
import MapStyle.Proofs.Layer.Complete
import MapStyle.Proofs.Layer.CompleteSurface
import MapStyle.Proofs.Layer.CompleteTexts
import MapStyle.Proofs.Layer.Fading
import MapStyle.Proofs.Layer.Plan
import MapStyle.Proofs.Layer.Refused
import MapStyle.Proofs.Layer.Separate
import MapStyle.Proofs.Layer.Shields
import MapStyle.Proofs.Layer.Surface
import MapStyle.Proofs.Layer.Texts
import MapStyle.Proofs.Layer.Window
import MapStyle.Proofs.Number.Accuracy
import MapStyle.Proofs.Number.Decimals
import MapStyle.Proofs.Number.Double
import MapStyle.Proofs.Number.Exact
import MapStyle.Proofs.Number.Laws
import MapStyle.Proofs.Number.Line
import MapStyle.Proofs.Number.Nearest
import MapStyle.Proofs.Number.Path
import MapStyle.Proofs.Number.Rounding
import MapStyle.Proofs.Number.Roundoff
import MapStyle.Proofs.Number.Scaling
import MapStyle.Proofs.Number.Sign
import MapStyle.Proofs.Number.Valued
import MapStyle.Proofs.Outcome
import MapStyle.Proofs.Poi.Icon
import MapStyle.Proofs.Poi.Start
import MapStyle.Proofs.Poi.Tier
import MapStyle.Proofs.Population.Opacity
import MapStyle.Proofs.Reach.Asked
import MapStyle.Proofs.Reach.Collected
import MapStyle.Proofs.Road.Group
import MapStyle.Proofs.Sprite.Failed
import MapStyle.Proofs.Sprite.Held
import MapStyle.Proofs.Sprite.Kept
import MapStyle.Proofs.Sprite.Packed
import MapStyle.Proofs.Sprite.Referenced
import MapStyle.Proofs.Sprite.Rerun
import MapStyle.Proofs.Sprite.Sheet
import MapStyle.Proofs.Sprite.Store
import MapStyle.Proofs.Style.Accepted
import MapStyle.Proofs.Style.Address
import MapStyle.Proofs.Style.Arranged
import MapStyle.Proofs.Style.Declared
import MapStyle.Proofs.Style.Distinct
import MapStyle.Proofs.Style.Domain
import MapStyle.Proofs.Style.Drawn
import MapStyle.Proofs.Style.Fading
import MapStyle.Proofs.Style.Group
import MapStyle.Proofs.Style.Independent
import MapStyle.Proofs.Style.Order
import MapStyle.Proofs.Style.Overlay
import MapStyle.Proofs.Style.Refused
import MapStyle.Proofs.Style.Separate
import MapStyle.Proofs.Text.Beginning
import MapStyle.Proofs.Text.Digit
import MapStyle.Proofs.Theme.Checked
import MapStyle.Proofs.Theme.Offered
import MapStyle.Proofs.Theme.Opacity
import MapStyle.Proofs.Theme.WellTyped
import MapStyle.Proofs.Width.Casing
import MapStyle.Proofs.Width.Doubling
import MapStyle.Proofs.Width.Match
import MapStyle.Proofs.Width.Overriding
import MapStyle.Proofs.Width.Resolved
import MapStyle.Proofs.Zoom.Evaluated
import MapStyle.Proofs.Zoom.Key
import MapStyle.Proofs.Zoom.Merged
import MapStyle.Proofs.Zoom.Named
import MapStyle.Proofs.Zoom.Normalized
import MapStyle.Proofs.Zoom.Overlaid
import MapStyle.Proofs.Zoom.Quantity
import MapStyle.Proofs.Zoom.Stops
import MapStyle.Sprite.Image
import MapStyle.Sprite.Png
import MapStyle.Sprite.Shape
import MapStyle.Sprite.Sheet
import MapStyle.Sprite.Shield
import MapStyle.Sprite.Store
import MapStyle.Style.Document
import MapStyle.Style.MapConfig
import MapStyle.Style.Reach
import MapStyle.Style.Source
import MapStyle.Style.Stack
import MapStyle.Text
import MapStyle.Text.Quoted
import MapStyle.Theme
import MapStyle.Theme.Aeroway
import MapStyle.Theme.Base
import MapStyle.Theme.Category
import MapStyle.Theme.Colours
import MapStyle.Theme.Description
import MapStyle.Theme.Error
import MapStyle.Theme.Fonts
import MapStyle.Theme.Grid
import MapStyle.Theme.Opacities
import MapStyle.Theme.Places
import MapStyle.Theme.Poi
import MapStyle.Theme.Relief
import MapStyle.Theme.Resolve
import MapStyle.Theme.Settings
import MapStyle.Theme.Shields
import MapStyle.Theme.Starfield
import MapStyle.Theme.Widths
import MapStyle.Zoom.Key
import MapStyle.Zoom.Stops
