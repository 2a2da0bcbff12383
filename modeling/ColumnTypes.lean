import ColumnTypes.Json.Reader
import ColumnTypes.Main
import ColumnTypes.Proofs.Results
import ColumnTypes.Proofs.Nesting
import ColumnTypes.Proofs.Segments
import ColumnTypes.Proofs.NestingScan
import ColumnTypes.Proofs.Levels
import ColumnTypes.Proofs.Grammar
import ColumnTypes.Proofs.Spelling
import ColumnTypes.Proofs.ColumnList
import ColumnTypes.Proofs.Concatenation
import ColumnTypes.Proofs.ColumnBalance
import ColumnTypes.Proofs.SchemaSpelling
import ColumnTypes.Proofs.JsonReading
import ColumnTypes.Proofs.Recursion
import ColumnTypes.Proofs.JsonRoundTrip
import ColumnTypes.Proofs.Decomposition
import ColumnTypes.Proofs.FirstFailure
import ColumnTypes.Proofs.SettingsTree
import ColumnTypes.Proofs.SettingsLayers
import ColumnTypes.Proofs.Layering
import ColumnTypes.Proofs.Flags
import ColumnTypes.Proofs.OutputStream
import ColumnTypes.Proofs.OutlineNodes
import ColumnTypes.Proofs.OutlineReading
import ColumnTypes.Proofs.ConfiguredFormat
import ColumnTypes.Proofs.Padding
import ColumnTypes.Proofs.DispatchOrder
import ColumnTypes.Proofs.SplitOutput
import ColumnTypes.Proofs.LogLines
