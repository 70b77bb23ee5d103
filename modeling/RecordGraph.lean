import RecordGraph.Client
import RecordGraph.Http.Startup
import RecordGraph.Proofs.Engine.Numbering
import RecordGraph.Proofs.Client.Circle
import RecordGraph.Proofs.Client.Failing
import RecordGraph.Proofs.Client.Keyed
import RecordGraph.Proofs.Client.Modes
import RecordGraph.Proofs.Client.Scan
import RecordGraph.Proofs.Lifetime
import RecordGraph.Proofs.Remote
import RecordGraph.Proofs.Checksum
import RecordGraph.Proofs.File.Restoring
import RecordGraph.Proofs.Damage
import RecordGraph.Proofs.Engine.Handing
import RecordGraph.Proofs.Engine.Reopening
import RecordGraph.Proofs.Engine.Retirement
import RecordGraph.Proofs.Closing
import RecordGraph.Proofs.Crowd.Deletion
import RecordGraph.Proofs.Crowd.Readers
import RecordGraph.Proofs.Parting
import RecordGraph.Proofs.Standstill
import RecordGraph.Proofs.Client.Clientele
import RecordGraph.Proofs.Client.Apart
import RecordGraph.Proofs.Engine.Jobs
import RecordGraph.Proofs.Engine.Refusal
import RecordGraph.Proofs.Engine.Sight
import RecordGraph.Proofs.Graph.Listing
import RecordGraph.Proofs.Client.Precise
import RecordGraph.Proofs.IndexNames
import RecordGraph.Proofs.File.Stopping
import RecordGraph.Proofs.Binding
import RecordGraph.Proofs.Url.Punycode
