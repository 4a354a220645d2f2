import Scaffold.Diagram.Export
import Scaffold.Main
import Scaffold.Proofs.Ancestors
import Scaffold.Proofs.Greedy
import Scaffold.Session
import Scaffold.Proofs.Member
import Scaffold.Proofs.Resolution
import Scaffold.Proofs.Prediction
import Scaffold.Proofs.Naming
import Scaffold.Proofs.Accessors
import Scaffold.Backend.Statement
import Scaffold.Proofs.Calls
import Scaffold.Proofs.Completeness
import Scaffold.Proofs.Queries
import Scaffold.Proofs.Pairs
import Scaffold.Proofs.Independence
import Scaffold.Proofs.Record
import Scaffold.Proofs.RoundTrip
import Scaffold.Proofs.Agreement.Hierarchy
import Scaffold.Proofs.Known
import Scaffold.Proofs.Agreement.Generation
import Scaffold.Proofs.Ownership
import Scaffold.Proofs.Lengths
import Scaffold.Proofs.Reordering
import Scaffold.Proofs.Locality
import Scaffold.Proofs.Definedness
import Scaffold.Proofs.Availability
import Scaffold.Proofs.Transfer
import Scaffold.Proofs.Signatures
import Scaffold.Proofs.KeyTypes
import Scaffold.Proofs.KeyMarks
import Scaffold.Proofs.HierarchyKey
import Scaffold.Proofs.EdgeIds
import Scaffold.Proofs.EdgesById
import Scaffold.Proofs.Places
import Scaffold.Proofs.Containment
import Scaffold.Proofs.Stages
import Scaffold.Proofs.Collisions
import Scaffold.Proofs.KeySearch
import Scaffold.Proofs.Commands
import Scaffold.Proofs.Reports
import Scaffold.Proofs.Refusals
import Scaffold.Proofs.MemberSearch
import Scaffold.Proofs.MappedBy
import Scaffold.Proofs.Omissions
import Scaffold.Proofs.JoinFields
import Scaffold.Proofs.KeySync
import Scaffold.Proofs.KeyUpdates
import Scaffold.Proofs.MappedFields
import Scaffold.Proofs.Orientation
import Scaffold.Proofs.MadeIds
import Scaffold.Proofs.Ingestion
import Scaffold.Proofs.MissingKeys
import Scaffold.Proofs.Literals
import Scaffold.Proofs.TableNames
import Scaffold.Proofs.Imports
import Scaffold.Proofs.Shorthand
import Scaffold.Proofs.Packages
import Scaffold.Proofs.Rendering
