import SchemaCatalog.Main
import SchemaCatalog.Catalog.Decoding
import SchemaCatalog.Schema.Same
import SchemaCatalog.Proofs.NameMap
import SchemaCatalog.Proofs.Registry
import SchemaCatalog.Proofs.Nodes
import SchemaCatalog.Proofs.Walk
import SchemaCatalog.Proofs.Replay
import SchemaCatalog.Proofs.Dispatch
import SchemaCatalog.Proofs.Build
import SchemaCatalog.Proofs.History
import SchemaCatalog.Proofs.FirstFault
import SchemaCatalog.Proofs.Outcome
import SchemaCatalog.Proofs.Containment
import SchemaCatalog.Proofs.Children
import SchemaCatalog.Proofs.KnownNames
import SchemaCatalog.Proofs.Faithful
import SchemaCatalog.Proofs.ComponentTypes
import SchemaCatalog.Proofs.Validation
import SchemaCatalog.Proofs.Reading
import SchemaCatalog.Proofs.Places
import SchemaCatalog.Proofs.FaultPlaces
import SchemaCatalog.Proofs.NormalForm
import SchemaCatalog.Proofs.Rendering
import SchemaCatalog.Proofs.RoundTrip
import SchemaCatalog.Proofs.Stems
import SchemaCatalog.Proofs.Plurals
import SchemaCatalog.Proofs.Decoding
import SchemaCatalog.Proofs.Interference
import SchemaCatalog.Proofs.Namespaces
import SchemaCatalog.Proofs.NodePlaces
import SchemaCatalog.Proofs.Limits
import SchemaCatalog.Proofs.StoredValues
import SchemaCatalog.Catalog.Same
import SchemaCatalog.Proofs.Reread
import SchemaCatalog.Proofs.CompactText
import SchemaCatalog.Proofs.Fingerprint
import SchemaCatalog.Proofs.OverrideScope
import SchemaCatalog.Proofs.Rearrangement
import SchemaCatalog.Proofs.Accounts
import SchemaCatalog.Proofs.WellFormed
import SchemaCatalog.Proofs.Magnitudes
import SchemaCatalog.Proofs.Registrations
import SchemaCatalog.Proofs.Bounds
import SchemaCatalog.Proofs.WrittenLimits
import SchemaCatalog.Proofs.Structures
import SchemaCatalog.Proofs.Combined
import SchemaCatalog.Proofs.NestedLists
import SchemaCatalog.Proofs.References
import SchemaCatalog.Proofs.ReadingFaults
import SchemaCatalog.Proofs.Keywords
import SchemaCatalog.Proofs.Pruning
