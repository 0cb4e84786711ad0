import StyleValue.Node.Rebuild
import StyleValue.Node.Equality
import StyleValue.Node.Inspect
import StyleValue.Node.Items
import StyleValue.Operator.Perform
import StyleValue.Terminal.Escape
import StyleValue.Diagnostic.Basic
import StyleValue.Diagnostic.Cut
import StyleValue.Version
import StyleValue.Proofs.Binary64.Rounding
import StyleValue.Proofs.Binary64.Exact
import StyleValue.Proofs.Binary64.Sum
import StyleValue.Proofs.Binary64.Remainder
import StyleValue.Proofs.Binary64.Zeros
import StyleValue.Proofs.Binary64.Whole
import StyleValue.Proofs.Binary64.Distance
import StyleValue.Proofs.Number.Overflow
import StyleValue.Proofs.Number.Equality
import StyleValue.Proofs.Number.Steps
import StyleValue.Proofs.Number.Form
import StyleValue.Proofs.Number.Value
import StyleValue.Proofs.Number.Span
import StyleValue.Proofs.Number.Way
import StyleValue.Proofs.Number.Reach
import StyleValue.Proofs.Decimal.Numeral
import StyleValue.Proofs.Decimal.Context
import StyleValue.Proofs.Decimal.Text
import StyleValue.Proofs.Decimal.Shortest
import StyleValue.Proofs.Number.Fixed
import StyleValue.Proofs.Number.ShortText
import StyleValue.Proofs.Number.Coarse
import StyleValue.Proofs.Number.Remainder
import StyleValue.Proofs.Node.Within
import StyleValue.Proofs.Node.Equality
import StyleValue.Proofs.Node.Forget
import StyleValue.Proofs.Node.Position
import StyleValue.Proofs.Node.Opposite
import StyleValue.Proofs.Node.Children
import StyleValue.Proofs.Node.Rebuild
import StyleValue.Proofs.Node.View
import StyleValue.Proofs.Node.Conversion
import StyleValue.Proofs.Node.Congruence
import StyleValue.Proofs.Node.Range
import StyleValue.Proofs.Node.Separated
import StyleValue.Proofs.Operator.Concatenation
import StyleValue.Proofs.Operator.Form
import StyleValue.Proofs.Operator.Formula
import StyleValue.Proofs.Operator.Exchange
import StyleValue.Proofs.Operator.Outcome
import StyleValue.Proofs.Operator.Remainder
import StyleValue.Proofs.Operator.Script
import StyleValue.Proofs.Operator.Words
import StyleValue.Proofs.Terminal.Strip
import StyleValue.Proofs.Terminal.Sequence
import StyleValue.Proofs.Text.Lines
import StyleValue.Proofs.Diagnostic.Window
import StyleValue.Proofs.Diagnostic.Cut
import StyleValue.Proofs.Diagnostic.Caret
import StyleValue.Proofs.Diagnostic.Alignment
import StyleValue.Proofs.Diagnostic.Colors
import StyleValue.Proofs.Diagnostic.Marker
import StyleValue.Proofs.Relocation
