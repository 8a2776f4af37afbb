import Parley.Store

/-!
All that a host can ask of a store, as values, so that whole histories of calls can be spoken about.
-/

namespace Parley.Store

inductive Call where
  | findContext (id : Identity) (create : Bool)
  | contextCount
  | contextState (id : Identity)
  | addFingerprint (id : Identity) (bytes : Array UInt8)
  | listFingerprints (id : Identity)
  | setTrust (id : Identity) (bytes : Array UInt8) (label : Option String)
  | getTrust (id : Identity) (bytes : Array UInt8)
  | setPresharedSecret (id : Identity) (secret : Option (Array UInt8))
  | forceSetup (id : Identity)
  | forceDisconnect (id : Identity)
  | forgetFingerprint (id : Identity) (bytes : Array UInt8) (cascade : Bool)
  | forgetContext (id : Identity)
  | forgetAll

inductive Answer where
  | done
  | flag (answer : Bool)
  | count (n : Nat)
  -- nothing for an unknown conversation
  | state (code : Option Nat)
  | label (label : Option String)
  | texts (texts : List String)
deriving DecidableEq

def perform (s : Store) : Call → Reply Answer
  | .findContext id create => (s.findContext id create).map .flag
  | .contextCount => .done s (.count s.contextCount) []
  | .contextState id => .done s (.state (s.contextState id)) []
  | .addFingerprint id bytes => (s.addFingerprint id bytes).map .flag
  | .listFingerprints id => .done s (.texts (s.listFingerprints id)) []
  | .setTrust id bytes label => (s.setTrust id bytes label).map .flag
  | .getTrust id bytes => (s.getTrust id bytes).map .label
  | .setPresharedSecret id secret => (s.setPresharedSecret id secret).map .flag
  | .forceSetup id => (s.forceSetup id).map .flag
  | .forceDisconnect id => (s.forceDisconnect id).map .flag
  | .forgetFingerprint id bytes cascade => (s.forgetFingerprint id bytes cascade).map .flag
  | .forgetContext id => (s.forgetContext id).map .flag
  | .forgetAll => s.forgetAll.map fun _ => .done

-- The calls one after another.
def performAll (s : Store) (calls : List Call) : History String Store String Answer :=
  History.run perform s calls

end Parley.Store
