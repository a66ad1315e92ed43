import ShapeGraph.Catalog.Binding
import ShapeGraph.Model.Lineage
import ShapeGraph.Model.Workspace
import ShapeGraph.Proofs.Acceptance.Model
import ShapeGraph.Proofs.Catalog.Binding
import ShapeGraph.Proofs.Catalog.Finding
import ShapeGraph.Proofs.Catalog.Operations
import ShapeGraph.Proofs.Catalog.Resources
import ShapeGraph.Proofs.Files.Merging
import ShapeGraph.Proofs.Locality.Change
import ShapeGraph.Proofs.Locality.Reference
import ShapeGraph.Proofs.Locality.Scope
import ShapeGraph.Proofs.Locality.Trait
import ShapeGraph.Proofs.Model.Admission
import ShapeGraph.Proofs.Model.Lineage
import ShapeGraph.Proofs.Model.Order
import ShapeGraph.Proofs.Model.Rereading
import ShapeGraph.Proofs.Plain.Paths
import ShapeGraph.Proofs.Plain.Unfolding
import ShapeGraph.Proofs.References.Address
import ShapeGraph.Proofs.References.Closed
import ShapeGraph.Proofs.References.Lost
import ShapeGraph.Proofs.References.Placement
import ShapeGraph.Proofs.Report
import ShapeGraph.Proofs.Respelling.References
import ShapeGraph.Proofs.Respelling.Traits
import ShapeGraph.Proofs.Selector.Composition
import ShapeGraph.Proofs.Selector.Failure
import ShapeGraph.Proofs.Selector.Likeness
import ShapeGraph.Proofs.Selector.Lookup
import ShapeGraph.Proofs.Selector.Query
import ShapeGraph.Proofs.Settings.Course
import ShapeGraph.Proofs.ShapeId.Key
import ShapeGraph.Proofs.ShapeId.Namespace
import ShapeGraph.Proofs.ShapeId.Order
import ShapeGraph.Proofs.ShapeId.Parsing
import ShapeGraph.Proofs.ShapeId.Spelling
import ShapeGraph.Proofs.Trait.Http
import ShapeGraph.Proofs.Trait.Resolution
import ShapeGraph.Proofs.View.Accepted
import ShapeGraph.Proofs.View.Edge
import ShapeGraph.Selector.Query
import ShapeGraph.Settings.LogTarget
import ShapeGraph.Settings.Use
import ShapeGraph.Shape.Reading
