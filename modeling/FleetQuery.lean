import FleetQuery.Main
import FleetQuery.Record.Kind
import FleetQuery.Proofs.Filter.Grammar
import FleetQuery.Proofs.Filter.Reading
import FleetQuery.Proofs.Filter.Language
import FleetQuery.Proofs.Filter.Leaves
import FleetQuery.Proofs.Match.Evaluate
import FleetQuery.Proofs.Entity.Answer
import FleetQuery.Proofs.Entity.Scan
import FleetQuery.Proofs.Entity.Fields
import FleetQuery.Proofs.Entity.Inspection
import FleetQuery.Proofs.Filter.Boundary
import FleetQuery.Proofs.Filter.Place
import FleetQuery.Proofs.Filter.Height
import FleetQuery.Proofs.Filter.Quotation
import FleetQuery.Proofs.Match.Walk
import FleetQuery.Proofs.Filter.Display
import FleetQuery.Proofs.Filter.Embedding
import FleetQuery.Proofs.Filter.Completion
import FleetQuery.Proofs.Literal.Grammar
import FleetQuery.Proofs.Entity.Pattern
import FleetQuery.Proofs.Entity.Kind
import FleetQuery.Proofs.Entity.Connectives
import FleetQuery.Proofs.Entity.History
import FleetQuery.Proofs.Entity.Matching
import FleetQuery.Proofs.Snapshot.Record
import FleetQuery.Proofs.Config.Load
import FleetQuery.Proofs.CommandLine.Query
import FleetQuery.Proofs.Record.Spelling
import FleetQuery.Proofs.Match.Laws
import FleetQuery.Proofs.Filter.Unambiguous
import FleetQuery.Proofs.Literal.Refusal
import FleetQuery.Proofs.Literal.Order
import FleetQuery.Proofs.Literal.Padding
import FleetQuery.Proofs.Filter.Resolution
import FleetQuery.Proofs.Filter.Refusal
import FleetQuery.Proofs.Filter.Descent
import FleetQuery.Proofs.Filter.Activation
import FleetQuery.Proofs.Filter.Bare
import FleetQuery.Proofs.Text.Lowercase
import FleetQuery.Proofs.Match.Like
import FleetQuery.Proofs.Entity.Widening
import FleetQuery.Proofs.Match.Integer
import FleetQuery.Proofs.Time.Timeline
import FleetQuery.Proofs.Match.Threshold
import FleetQuery.Proofs.Entity.NeverRan
import FleetQuery.Proofs.Text.Ascii
import FleetQuery.Proofs.Entity.Naming
