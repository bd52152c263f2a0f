import Sqlwright.Engine.Connection
import Sqlwright.Filter.Reader
import Sqlwright.Json.Reader
import Sqlwright.Server.Binding
import Sqlwright.Server.Endpoint
import Sqlwright.Session.Basic
import Sqlwright.Session.Scripted
import Sqlwright.Proofs.Counting
import Sqlwright.Proofs.Custody
import Sqlwright.Proofs.Grammar
import Sqlwright.Proofs.Guarding
import Sqlwright.Proofs.Inserting
import Sqlwright.Proofs.Numbering
import Sqlwright.Proofs.Oblivious
import Sqlwright.Proofs.Placement
import Sqlwright.Proofs.Projection
import Sqlwright.Proofs.Recording
import Sqlwright.Proofs.Delivery
import Sqlwright.Proofs.Lifecycle
import Sqlwright.Proofs.Accounting
import Sqlwright.Proofs.Interruption
import Sqlwright.Proofs.Preliminary
import Sqlwright.Proofs.Decoding
import Sqlwright.Proofs.Restriction
import Sqlwright.Proofs.Routing
import Sqlwright.Proofs.Streaming
import Sqlwright.Proofs.CommonTables
import Sqlwright.Proofs.Separation
import Sqlwright.Proofs.Renumbering
import Sqlwright.Proofs.Spreading
import Sqlwright.Proofs.Toggling
import Sqlwright.Proofs.Alignment
import Sqlwright.Proofs.Validity
import Sqlwright.Proofs.Composition
import Sqlwright.Proofs.Replaying
import Sqlwright.Proofs.Transcribing
import Sqlwright.Proofs.Ranging
import Sqlwright.Proofs.Overwriting
import Sqlwright.Proofs.Configuring
import Sqlwright.Proofs.Reporting
import Sqlwright.Proofs.Encoding
