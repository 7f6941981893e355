import TensorGraph.Attribute.Attributes
import TensorGraph.Attribute.Basic
import TensorGraph.Attribute.Kind
import TensorGraph.Binary
import TensorGraph.Bytes
import TensorGraph.ElementType
import TensorGraph.Error
import TensorGraph.FixedWidth
import TensorGraph.Graph.Basic
import TensorGraph.Graph.Digraph
import TensorGraph.Graph.NameIndex
import TensorGraph.Graph.Wiring
import TensorGraph.Model
import TensorGraph.NameMap
import TensorGraph.Node
import TensorGraph.Operator.Catalog
import TensorGraph.Operator.Contract
import TensorGraph.Operator.ContractError
import TensorGraph.Operator.Field
import TensorGraph.Operator.Registry
import TensorGraph.Operator.Target
import TensorGraph.Operator.Upgrade
import TensorGraph.OperatorSetId
import TensorGraph.Record.Basic
import TensorGraph.Record.Encode
import TensorGraph.Record.Schema
import TensorGraph.Shape
import TensorGraph.Tensor.Basic
import TensorGraph.Tensor.Describe
import TensorGraph.Tensor.OfRecord
import TensorGraph.Tensor.Options
import TensorGraph.Tensor.View
import TensorGraph.Text
import TensorGraph.Text.NonPrinting
import TensorGraph.Text.Quoted
import TensorGraph.ValueInfo
import TensorGraph.Wire.DecodeError
import TensorGraph.Wire.Key
import TensorGraph.Wire.Message
import TensorGraph.Wire.Reader
import TensorGraph.Wire.Scalar
import TensorGraph.Wire.Skip
import TensorGraph.Wire.Varint
import TensorGraph.Proofs.Attribute.LastRecord
import TensorGraph.Proofs.Attribute.Records
import TensorGraph.Proofs.Attribute.SelectedPayload
import TensorGraph.Proofs.ContentErrors
import TensorGraph.Proofs.Graph.Blame
import TensorGraph.Proofs.Graph.Dependencies
import TensorGraph.Proofs.Graph.NameIndex
import TensorGraph.Proofs.Graph.NameLookup
import TensorGraph.Proofs.Graph.Renaming
import TensorGraph.Proofs.Graph.Reordering
import TensorGraph.Proofs.Graph.Ties
import TensorGraph.Proofs.Graph.Walk
import TensorGraph.Proofs.Graph.WellFormed
import TensorGraph.Proofs.Operator.Binding
import TensorGraph.Proofs.Operator.Compatibility
import TensorGraph.Proofs.Operator.Declared
import TensorGraph.Proofs.Operator.Extension
import TensorGraph.Proofs.Operator.Identifiers
import TensorGraph.Proofs.Operator.Refusals
import TensorGraph.Proofs.Operator.Resolution
import TensorGraph.Proofs.Operator.Selection
import TensorGraph.Proofs.Operator.Upgrade
import TensorGraph.Proofs.OwnedTensors
import TensorGraph.Proofs.Record.Layouts
import TensorGraph.Proofs.Record.RoundTrip
import TensorGraph.Proofs.Record.Tables
import TensorGraph.Proofs.Record.UnknownFields
import TensorGraph.Proofs.Release
import TensorGraph.Proofs.Stages
import TensorGraph.Proofs.Storage
import TensorGraph.Proofs.Tensor.Acceptance
import TensorGraph.Proofs.Tensor.Allocation
import TensorGraph.Proofs.Tensor.Decoding
import TensorGraph.Proofs.Tensor.Equality
import TensorGraph.Proofs.Tensor.Lifecycle
import TensorGraph.Proofs.Tensor.Payload
import TensorGraph.Proofs.Tensor.Reading
import TensorGraph.Proofs.Tensor.Sizes
import TensorGraph.Proofs.Tensor.Views
import TensorGraph.Proofs.Tensor.Words
import TensorGraph.Proofs.TwoRuns
import TensorGraph.Proofs.Wire.Pieces
import TensorGraph.Proofs.Wire.Places
import TensorGraph.Proofs.Wire.Rows
import TensorGraph.Proofs.Wire.Skip
import TensorGraph.Proofs.Wire.Spellings
import TensorGraph.Proofs.Wire.Takes
import TensorGraph.Proofs.Wire.Updates
