import DocTree.Document
import DocTree.Main
import DocTree.Proofs.Position.Child
import DocTree.Proofs.Position.Slot
import DocTree.Proofs.Position.Order
import DocTree.Proofs.Position.Below
import DocTree.Proofs.Position.Effect
import DocTree.Proofs.Position.Frame
import DocTree.Proofs.Position.Commute
import DocTree.Proofs.Position.Successive
import DocTree.Proofs.Query.Positions
import DocTree.Proofs.Selector.Segments
import DocTree.Proofs.Query.Shape
import DocTree.Proofs.Selector.Shape
import DocTree.Proofs.Selector.Level
import DocTree.Proofs.Selector.Reach
import DocTree.Proofs.Selector.Write
import DocTree.Proofs.Decimal
import DocTree.Proofs.Query.Range
import DocTree.Proofs.Query.Condition
import DocTree.Proofs.Query.Scan
import DocTree.Proofs.Query.RoundTrip
import DocTree.Proofs.Store.Frame
import DocTree.Proofs.Store.Save
import DocTree.Proofs.Selector.Components
import DocTree.Proofs.Selector.Literal
import DocTree.Proofs.Query.Grammar
import DocTree.Proofs.Query.Accepted
import DocTree.Proofs.Query.Interval
import DocTree.Proofs.Query.Nesting
import DocTree.Proofs.Query.Connected
import DocTree.Proofs.Query.Unmatched
import DocTree.Proofs.Query.Redundant
import DocTree.Proofs.Query.WellFormed
import DocTree.Proofs.Query.Verdict
import DocTree.Proofs.Selector.WellFormed
import DocTree.Proofs.Json.RoundTrip
import DocTree.Proofs.Store.Replace
import DocTree.Proofs.Store.RoundTrip
import DocTree.Proofs.Json.Lines
import DocTree.Proofs.Json.Refusal
import DocTree.Proofs.Position.Repeat
import DocTree.Proofs.Position.Distinct
import DocTree.Proofs.Selector.Twin
import DocTree.Proofs.Selector.Stable
import DocTree.Proofs.Query.Failure
import DocTree.Proofs.Selector.Compose
import DocTree.Proofs.Selector.Failure
import DocTree.Proofs.Value.Reordered
import DocTree.Proofs.Position.Reordered
import DocTree.Proofs.Selector.Reordered
import DocTree.Proofs.Selector.RoundTrip
import DocTree.Proofs.Selector.Brackets
import DocTree.Proofs.Json.Canonical
import DocTree.Proofs.Json.Distinct
import DocTree.Proofs.Format.Detection
import DocTree.Proofs.Yaml.Conversion
import DocTree.Proofs.Edit
import DocTree.Proofs.Command.InPlace
import DocTree.Proofs.Json.Compose
import DocTree.Proofs.Json.Integer
import DocTree.Proofs.Selector.Scanners
import DocTree.Proofs.Selector.Checked
