import SchemaFold.Main
import SchemaFold.Proofs.Constructs
import SchemaFold.Proofs.Independence
import SchemaFold.Proofs.Leniency
import SchemaFold.Proofs.Pruning
import SchemaFold.Proofs.Elements
import SchemaFold.Proofs.Flattening
import SchemaFold.Proofs.Plan.Unlocated
import SchemaFold.Proofs.Visibility
import SchemaFold.Proofs.Path.Walk
import SchemaFold.Proofs.Context.Reordered
import SchemaFold.Proofs.Plan.Reordered
import SchemaFold.Proofs.UserBindings
import SchemaFold.Proofs.Reordering
import SchemaFold.Proofs.Growth
import SchemaFold.Proofs.Bounds
import SchemaFold.Proofs.RoundTrip
import SchemaFold.Proofs.Emission
import SchemaFold.Proofs.Path.Composition
import SchemaFold.Proofs.Path.NameTest
import SchemaFold.Proofs.Depth
import SchemaFold.Proofs.Unnamed
import SchemaFold.Proofs.Siblings
import SchemaFold.Proofs.Facets
import SchemaFold.Proofs.AttributeOrder
import SchemaFold.Proofs.Removal
import SchemaFold.Proofs.Ruleless
import SchemaFold.Proofs.Context.Calls
import SchemaFold.Proofs.Framing
import SchemaFold.Proofs.Path.Descent
import SchemaFold.Proofs.Path.Grammar
import SchemaFold.Proofs.Launching
