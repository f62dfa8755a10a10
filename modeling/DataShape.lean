import DataShape.JsonSchema
import DataShape.Session
import DataShape.Shape.Builder
import DataShape.Shape.Equal
import DataShape.Shape.Hashable
import DataShape.Proofs.Definition.RoundTrip
import DataShape.Proofs.Session.Queue
import DataShape.Proofs.JsonSchema.Agreement
import DataShape.Proofs.Parts
import DataShape.Proofs.Value.Coherence
import DataShape.Proofs.Value.JsonEq
import DataShape.Proofs.Shape.Congruence
import DataShape.Proofs.Shape.Conformance
import DataShape.Proofs.Definition.Language
import DataShape.Proofs.Definition.WellBuilt
import DataShape.Proofs.Definition.Preservation
import DataShape.Proofs.Value.PlainForm
import DataShape.Proofs.Shape.PlainLiterals
import DataShape.Proofs.Session.WriteRead
import DataShape.Proofs.Session.Contract
import DataShape.Proofs.Session.JsonText
import DataShape.Proofs.Shape.Equality
import DataShape.Proofs.JsonSchema.Faults
import DataShape.Proofs.Parse
import DataShape.Proofs.Definition.Places
import DataShape.Proofs.Definition.Canonical
import DataShape.Proofs.Shape.Undeclared
import DataShape.Proofs.Shape.Foreign
import DataShape.Proofs.Shape.Order
import DataShape.Proofs.Shape.SpelledOut
import DataShape.Proofs.Value.Equivalence
import DataShape.Proofs.Value.NormalForm
