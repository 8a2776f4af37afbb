import Parley.Event
import Parley.Fingerprint.Known
import Parley.Keys.Agreement
import Parley.Keys.Table
import Parley.Limits
import Parley.Outcome

/-!
A conversation is everything known about one identity: how far the connection has come, the key
material in force, every fingerprint ever seen, and what the application attached.

The fields are grouped by what wipes them: `SessionMaterial` goes whenever the conversation falls
back to its setup, `OwnKeys` only when it is disconnected, and the rest stays until the conversation
is torn down.
-/

namespace Parley

-- All that was learnt with the peer since the last fall back to setup.
structure SessionMaterial where
  theirKeyId : UInt32 := 0
  theirPublic : Option PublicValue := none
  theirOldPublic : Option PublicValue := none
  keys : SessionKeyTable := .empty
  sessionId : Vector UInt8 20 := Vector.replicate 20 0
  -- MAC keys that were used and wait to be revealed: how many, and their bytes
  savedCount : Nat := 0
  savedMacKeys : Array UInt8 := #[]
  presharedSecret : Option (Array UInt8) := none
  lastMessage : Option (Array UInt8) := none
  mayRetransmit : Bool := false
deriving DecidableEq

def SessionMaterial.empty : SessionMaterial := {}

-- Our two latest key pairs; every new one takes the next number.
structure OwnKeys where
  keyId : UInt32 := 0
  pair : Option DhKeyPair := none
  oldPair : Option DhKeyPair := none
deriving DecidableEq

def OwnKeys.empty : OwnKeys := {}

-- What an application keeps with a conversation, and the function that takes it back in the end.
structure Attachment (α ρ : Type) where
  data : α
  function : Option ρ
deriving DecidableEq

-- Data without a function is dropped without a trace.
def Attachment.release {α ρ : Type} : Option (Attachment α ρ) → List (Effect α ρ)
  | some ⟨data, some function⟩ => [.release function data]
  | some ⟨_, none⟩ => []
  | none => []

structure Conversation (α ρ : Type) where
  id : Identity
  limits : Limits
  state : ConnectionState
  known : KnownFingerprints
  -- the fingerprint that backs the session while connected
  pinned : Option Fingerprint
  material : SessionMaterial
  own : OwnKeys
  generation : UInt32
  lastSent : UInt64
  offer : Offer
  attachment : Option (Attachment α ρ)

namespace Conversation

variable {α ρ : Type}

abbrev Reply (α ρ β : Type) := Outcome Refusal (Conversation α ρ) (Effect α ρ) β

def fresh (id : Identity) (limits : Limits) : Conversation α ρ where
  id := id
  limits := limits
  state := .unconnected
  known := .empty
  pinned := none
  material := .empty
  own := .empty
  generation := 0
  lastSent := 0
  offer := .notOffered
  attachment := none

-- The entry of the fingerprint that backs the live session.
def active? (c : Conversation α ρ) : Option KnownFingerprint := do
  if c.state ≠ .connected then none
  let f ← c.pinned
  c.known.get? f

def data? (c : Conversation α ρ) : Option α :=
  c.attachment.map (·.data)

-- Diagnostics show counts and numbers, the pinned fingerprint, and whether there are session keys.
def diagnostic (c : Conversation α ρ) : String :=
  Text.record "Context"
    [("id", c.id.diagnostic),
      ("state", c.state.diagnostic),
      ("fingerprints", Nat.repr c.known.size),
      ("active_fingerprint", Text.optional (c.pinned.map Fingerprint.diagnostic)),
      ("our_keyid", Nat.repr c.own.keyId.toNat),
      ("their_keyid", Nat.repr c.material.theirKeyId.toNat),
      ("has_session_keys", Text.truth (!c.material.keys.isEmpty))] .partly

end Conversation

end Parley
