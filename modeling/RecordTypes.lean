import RecordTypes.Generation.Registration
import RecordTypes.Main
import RecordTypes.Metadata.ToJson
import RecordTypes.Proofs.Code.Literal
import RecordTypes.Proofs.Code.OneLine
import RecordTypes.Proofs.Code.Property
import RecordTypes.Proofs.Code.SnakeName
import RecordTypes.Proofs.Command.Fetched
import RecordTypes.Proofs.Command.Files
import RecordTypes.Proofs.Command.StandardOutput
import RecordTypes.Proofs.Generation.Docstring
import RecordTypes.Proofs.Generation.Enumeration
import RecordTypes.Proofs.Generation.Identifier
import RecordTypes.Proofs.Generation.Intact
import RecordTypes.Proofs.Generation.Lookup
import RecordTypes.Proofs.Generation.Order
import RecordTypes.Proofs.Generation.Scope
import RecordTypes.Proofs.Generation.Selection
import RecordTypes.Proofs.Generation.Shadow
import RecordTypes.Proofs.Generation.Shared
import RecordTypes.Proofs.Generation.Steps
import RecordTypes.Proofs.Metadata.WellFormed
import RecordTypes.Proofs.Reading.FieldName
import RecordTypes.Proofs.Reading.Nested
import RecordTypes.Proofs.Reading.TableList
import RecordTypes.Proofs.Reading.Unnoticed
import RecordTypes.Proofs.Report.Agreement
import RecordTypes.Proofs.Target.Chain
import RecordTypes.Proofs.Target.Choices
import RecordTypes.Proofs.Target.Descriptor
import RecordTypes.Proofs.Target.Record
import RecordTypes.Proofs.Text.WordCut
