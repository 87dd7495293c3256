import ProtoSchema.Main
import ProtoSchema.Session
import ProtoSchema.Proofs.Node.FirstMisfit
import ProtoSchema.Proofs.Node.Forms
import ProtoSchema.Proofs.Node.Rearranged
import ProtoSchema.Proofs.Outcome
import ProtoSchema.Proofs.PropertyOrder
import ProtoSchema.Proofs.AddedProperty
import ProtoSchema.Proofs.Proto.JsonText
import ProtoSchema.Proofs.Proto.Layout
import ProtoSchema.Proofs.Proto.Depth
import ProtoSchema.Proofs.ImportStem
import ProtoSchema.Proofs.ElementTypes
import ProtoSchema.Proofs.MarkerTypes
import ProtoSchema.Proofs.Shapes
import ProtoSchema.Proofs.EnumOrder
import ProtoSchema.Proofs.EnumTypes
import ProtoSchema.Proofs.SettledNames
import ProtoSchema.Proofs.CommandLine.FailedRun
import ProtoSchema.Proofs.AttributesInUse
import ProtoSchema.Proofs.FieldRules
import ProtoSchema.Proofs.CommandLine.Agreement
