import Parley.Conversation.Bookkeeping
import Parley.Conversation.Secrets
import Parley.Conversation.Transition
import Parley.Conversation.Trust

/-!
All that can be asked of a conversation, as values, so that whole histories of calls can be spoken
about.
-/

namespace Parley.Conversation

inductive Call (α ρ : Type) where
  | addFingerprint (f : Fingerprint)
  | setTrust (f : Fingerprint) (label : Option String)
  | forgetFingerprint (f : Fingerprint)
  | markConnected (f : Fingerprint)
  | forceSetup
  | forceDisconnect
  | rotate (pair : DhKeyPair)
  | acceptTheirPublic (keyId : UInt32) (value : PublicValue)
  -- keys as they are, used before or not, or an empty place
  | setSessionKeys (slot : KeySlot) (keys : Option SessionKeys)
  | onSessionKeys (slot : KeySlot) (call : SessionKeys.Call)
  | setSessionId (bytes : Vector UInt8 20)
  | saveMacKey (key : MacKey)
  | takeSavedMacKeys
  | setPresharedSecret (secret : Option (Array UInt8))
  | bumpGeneration
  | setLastMessage (message : Array UInt8) (sentAt : UInt64) (mayRetransmit : Bool)
  | setOffer (offer : Offer)
  | attach (data : α) (function : Option ρ)
  | editData (edit : α → α)

inductive Answer (α : Type) where
  | done
  -- an entry, and whether it is new
  | entry (entry : KnownFingerprint) (created : Bool)
  -- whether a fingerprint is known
  | known (known : Bool)
  -- the generation now
  | number (n : UInt32)
  | bytes (bytes : Array UInt8)
  -- nothing for an empty place
  | sessionKeys (answer : Option SessionKeys.Answer)
  -- the data now attached
  | data (data : Option α)
deriving DecidableEq

variable {α ρ : Type}

def perform (c : Conversation α ρ) : Call α ρ → Reply α ρ (Answer α)
  | .addFingerprint f => (c.addFingerprint f).map fun (entry, created) => .entry entry created
  | .setTrust f label =>
    let (known, after) := c.setTrust f label
    .done after (.known known) []
  | .forgetFingerprint f => (c.forgetFingerprint f).map fun _ => .done
  | .markConnected f => (c.markConnected f).map fun _ => .done
  | .forceSetup => c.forceSetup.map fun _ => .done
  | .forceDisconnect => c.forceDisconnect.map fun _ => .done
  | .rotate pair => .done (c.rotate pair) .done []
  | .acceptTheirPublic keyId value => .done (c.acceptTheirPublic keyId value) .done []
  | .setSessionKeys slot keys => (c.setSessionKeys slot keys).map fun _ => .done
  | .onSessionKeys slot call =>
    let (answer, after) := c.onSessionKeys slot call
    .done after (.sessionKeys answer) []
  | .setSessionId bytes => .done (c.setSessionId bytes) .done []
  | .saveMacKey key => (c.saveMacKey key).map fun _ => .done
  | .takeSavedMacKeys =>
    let (bytes, after) := c.takeSavedMacKeys
    .done after (.bytes bytes) []
  | .setPresharedSecret secret => (c.setPresharedSecret secret).map fun _ => .done
  | .bumpGeneration =>
    let after := c.bumpGeneration
    .done after (.number after.generation) []
  | .setLastMessage message sentAt mayRetransmit =>
    .done (c.setLastMessage message sentAt mayRetransmit) .done []
  | .setOffer offer => .done (c.setOffer offer) .done []
  | .attach data function => (c.attach data function).map fun _ => .done
  | .editData edit =>
    let after := c.editData edit
    .done after (.data after.data?) []

-- The calls one after another.
def performAll (c : Conversation α ρ) (calls : List (Call α ρ)) :
    History Refusal (Conversation α ρ) (Effect α ρ) (Answer α) :=
  History.run perform c calls

end Parley.Conversation
