/-!
How far a conversation has come: the state of the connection, and whether an encrypted conversation
has been offered to the peer.
-/

namespace Parley

-- No key material at all; our own keys only, agreement under way; an encrypted session.
inductive ConnectionState where
  | unconnected
  | setup
  | connected
deriving DecidableEq

namespace ConnectionState

-- The words for the user.
def description : ConnectionState → String
  | unconnected => "Not private"
  | setup => "Setting up"
  | connected => "Private"

-- The word in diagnostics.
def diagnostic : ConnectionState → String
  | unconnected => "Unconnected"
  | setup => "Setup"
  | connected => "Connected"

-- The number under which a host knows the state.
def code : ConnectionState → Nat
  | unconnected => 0
  | setup => 1
  | connected => 2

end ConnectionState

inductive Offer where
  | notOffered
  | sent
  | rejected
  | accepted
deriving DecidableEq

end Parley
