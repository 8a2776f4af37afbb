import Parley.Conversation.Basic

/-!
The moves of the connection. A session begins from the setup only, or takes over from another one;
falling back is possible from anywhere and wipes what the lower state must not hold.
-/

namespace Parley.Conversation

variable {α ρ : Type} (c : Conversation α ρ)

-- Begins a session that the fingerprint backs. The state is looked at before the fingerprint.
def markConnected (f : Fingerprint) : Reply α ρ Unit :=
  if c.state = .unconnected then
    .refused (.invalidTransition c.state .connected) c []
  else if !c.known.contains f then
    .refused .unknownFingerprint c []
  else
    .done { c with state := .connected, pinned := some f } () [.log (.connected c.id f)]

-- The conversation in its setup: nothing of the peer's is left, our own keys stay.
def toSetup : Conversation α ρ :=
  { c with state := .setup, pinned := none, material := .empty }

-- The conversation without any key material.
def toUnconnected : Conversation α ρ :=
  { c.toSetup with state := .unconnected, own := .empty }

def forceSetup : Reply α ρ Unit :=
  .done c.toSetup () [.log (.forcedToSetup c.id)]

-- Passes through the setup, and says so.
def forceDisconnect : Reply α ρ Unit :=
  .done c.toUnconnected () [.log (.forcedToSetup c.id), .log (.forcedToUnconnected c.id)]

-- Tears the conversation down: disconnects it, gives up every fingerprint, newest first, and then
-- the attached data. The answer is the fingerprints given up.
def destroy : Reply α ρ (List KnownFingerprint) :=
  let disconnected := c.forceDisconnect
  let (entries, rest) := disconnected.after.known.drain
  .done { disconnected.after with known := rest, attachment := none } entries
    (disconnected.effects ++ Attachment.release c.attachment ++ [.log (.contextDestroyed c.id)])

end Parley.Conversation
