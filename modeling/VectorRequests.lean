import VectorRequests.Column.Basic
import VectorRequests.Column.Cells
import VectorRequests.Column.Dimension
import VectorRequests.Column.Kind
import VectorRequests.Column.Marshal
import VectorRequests.Column.Reader
import VectorRequests.Column.Received
import VectorRequests.Document.Checked
import VectorRequests.Document.Column
import VectorRequests.Document.Exchange
import VectorRequests.Document.Integer
import VectorRequests.Document.Record
import VectorRequests.Document.Request
import VectorRequests.Document.Tensor
import VectorRequests.Document.Text
import VectorRequests.Draft.Attribute
import VectorRequests.Draft.FieldType
import VectorRequests.Draft.Insert
import VectorRequests.Draft.Origin
import VectorRequests.Draft.Progress
import VectorRequests.Draft.Query
import VectorRequests.Draft.Search
import VectorRequests.Encoding.Base64
import VectorRequests.Error
import VectorRequests.Error.Message
import VectorRequests.Float.Decimal
import VectorRequests.Float.Format
import VectorRequests.Float.Rounding
import VectorRequests.Float.Written
import VectorRequests.Json.Basic
import VectorRequests.Json.Reader
import VectorRequests.Json.Writer
import VectorRequests.Number.Aligned
import VectorRequests.Number.Buffer
import VectorRequests.Number.Comparison
import VectorRequests.Number.ElementType
import VectorRequests.Number.Exact
import VectorRequests.Number.IntFormat
import VectorRequests.Number.Layout
import VectorRequests.Number.LittleEndian
import VectorRequests.Number.Tensor
import VectorRequests.Number.TypeName
import VectorRequests.Number.Written
import VectorRequests.Param.Check
import VectorRequests.Param.Described
import VectorRequests.Param.Environment
import VectorRequests.Param.Insert
import VectorRequests.Param.Progress
import VectorRequests.Param.Query
import VectorRequests.Param.Search
import VectorRequests.Param.Settings
import VectorRequests.Placeholder.Group
import VectorRequests.Placeholder.Unchecked
import VectorRequests.Proofs.Column.Agreement
import VectorRequests.Proofs.Column.Cells
import VectorRequests.Proofs.Column.Concatenation
import VectorRequests.Proofs.Column.Consistency
import VectorRequests.Proofs.Column.Failure
import VectorRequests.Proofs.Column.Item
import VectorRequests.Proofs.Column.Narrowing
import VectorRequests.Proofs.Column.Packed
import VectorRequests.Proofs.Column.Plain
import VectorRequests.Proofs.Column.ReadBack
import VectorRequests.Proofs.Column.Remarshal
import VectorRequests.Proofs.Column.Rows
import VectorRequests.Proofs.Document.Checked
import VectorRequests.Proofs.Document.Column
import VectorRequests.Proofs.Document.Conversion
import VectorRequests.Proofs.Document.Exchange
import VectorRequests.Proofs.Document.IntegerColumn
import VectorRequests.Proofs.Document.Payload
import VectorRequests.Proofs.Document.Request
import VectorRequests.Proofs.Document.Strictness
import VectorRequests.Proofs.Document.Tensor
import VectorRequests.Proofs.Draft.Account
import VectorRequests.Proofs.Draft.Construction
import VectorRequests.Proofs.Draft.Kinds
import VectorRequests.Proofs.Draft.LastWrite
import VectorRequests.Proofs.Draft.Observation
import VectorRequests.Proofs.Draft.Source
import VectorRequests.Proofs.Encoding.Base64
import VectorRequests.Proofs.Encoding.Strictness
import VectorRequests.Proofs.Float.Identity
import VectorRequests.Proofs.Float.Range
import VectorRequests.Proofs.Float.Widening
import VectorRequests.Proofs.Json.Leaf
import VectorRequests.Proofs.Json.RoundTrip
import VectorRequests.Proofs.Number.Buffer
import VectorRequests.Proofs.Number.Residue
import VectorRequests.Proofs.Number.Storage
import VectorRequests.Proofs.Number.Usual
import VectorRequests.Proofs.Outcome
import VectorRequests.Proofs.Param.Acceptance
import VectorRequests.Proofs.Param.Check
import VectorRequests.Proofs.Param.Conformance
import VectorRequests.Proofs.Param.Search
import VectorRequests.Proofs.Param.Supply
import VectorRequests.Proofs.Placeholder.Decoding
import VectorRequests.Proofs.Placeholder.Group
import VectorRequests.Proofs.Placeholder.Truncation
import VectorRequests.Proofs.Schema.Conversion
import VectorRequests.Proofs.Schema.Dimension
import VectorRequests.Proofs.Schema.Equality
import VectorRequests.Proofs.Schema.Lookup
import VectorRequests.Proofs.Search.Acceptance
import VectorRequests.Proofs.Search.Lookup
import VectorRequests.Proofs.Search.Metric
import VectorRequests.Proofs.Search.Parameters
import VectorRequests.Proofs.Text.Integer
import VectorRequests.Proofs.Text.Numeral
import VectorRequests.Proofs.Text.Quoted
import VectorRequests.Proofs.Text.Utf8
import VectorRequests.Proofs.Value.Equality
import VectorRequests.Proofs.Value.Lookup
import VectorRequests.Proofs.Value.Plain
import VectorRequests.Proofs.Value.Sequence
import VectorRequests.Proofs.Value.Text
import VectorRequests.Proofs.Vector.Lookup
import VectorRequests.Proofs.Vector.Row
import VectorRequests.Proofs.Wire.Fields
import VectorRequests.Proofs.Wire.Truncation
import VectorRequests.Proofs.Wire.Varint
import VectorRequests.Record.Constructor
import VectorRequests.Schema.DataType
import VectorRequests.Schema.FieldSchema
import VectorRequests.Schema.FieldType
import VectorRequests.Schema.TypeParams
import VectorRequests.Search.Metric
import VectorRequests.Text.Blank
import VectorRequests.Text.Digit
import VectorRequests.Text.Integer
import VectorRequests.Text.Printable
import VectorRequests.Text.Quoted
import VectorRequests.Text.UpperCase
import VectorRequests.Text.Utf8
import VectorRequests.Value
import VectorRequests.Value.Attribute
import VectorRequests.Value.Equality
import VectorRequests.Value.Grid
import VectorRequests.Value.HashTable
import VectorRequests.Value.Integer
import VectorRequests.Value.Key
import VectorRequests.Value.Mapping
import VectorRequests.Value.Sequence
import VectorRequests.Value.Text
import VectorRequests.Value.Written
import VectorRequests.Vector.Kind
import VectorRequests.Vector.Row
import VectorRequests.Vector.Target
import VectorRequests.Wire.FieldData
import VectorRequests.Wire.Fields
import VectorRequests.Wire.Kind
import VectorRequests.Wire.Request
import VectorRequests.Wire.Varint
