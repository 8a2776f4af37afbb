import Parley.Registry.Call
import Parley.Store.Call
import Parley.Proofs.Identity
import Parley.Proofs.Fingerprint.Numbering
import Parley.Proofs.Fingerprint.Roll
import Parley.Proofs.Fingerprint.Lookup
import Parley.Proofs.Conversation.Frame
import Parley.Proofs.Conversation.Past
import Parley.Proofs.Conversation.Guarded
import Parley.Proofs.Conversation.Transitions
import Parley.Proofs.Conversation.Rotation
import Parley.Proofs.Conversation.Record
import Parley.Proofs.Conversation.Installed
import Parley.Proofs.Conversation.Revelation
import Parley.Proofs.Conversation.Absorption
import Parley.Proofs.Conversation.Story
import Parley.Proofs.Conversation.Masked
import Parley.Proofs.Registry.Lookup
import Parley.Proofs.Registry.Reachable
import Parley.Proofs.Registry.Subject
import Parley.Proofs.Registry.Creation
import Parley.Proofs.Registry.Pinning
import Parley.Proofs.Registry.Atomicity
import Parley.Proofs.Registry.Representation
import Parley.Proofs.Registry.Commutation
import Parley.Proofs.Registry.Destruction
import Parley.Proofs.Registry.Drainage
import Parley.Proofs.Registry.Release
import Parley.Proofs.Registry.Life
import Parley.Proofs.Registry.Record
import Parley.Proofs.Registry.Bounds
import Parley.Proofs.Store.Request
import Parley.Proofs.Store.Simulation
import Parley.Proofs.Conversation.Bare
import Parley.Proofs.Store.Hosted
import Parley.Proofs.Store.Listing
import Parley.Proofs.Registry.Secrecy
import Parley.Proofs.Conversation.Log
import Parley.Proofs.Registry.Audit
import Parley.Proofs.Conversation.Replacement
import Parley.Proofs.Registry.Wiping
import Parley.Proofs.Registry.Verdict
import Parley.Proofs.Registry.Search
import Parley.Proofs.Hex
import Parley.Proofs.Fingerprint.Reading
import Parley.Proofs.Keys.Counting
import Parley.Proofs.Conversation.Counting
import Parley.Proofs.Fingerprint.Emptying
import Parley.Proofs.Registry.Emptying
