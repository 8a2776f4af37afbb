import Parley.Registry.Removal

/-!
The registry as a host sees it that knows only texts, bytes and numbers. A bad fingerprint, and a
refusal to find or to add, is thrown as a text; every other refusal is told to the console in one
line and answered with no.
-/

namespace Parley

-- Nothing is ever attached, so there is nothing to release.
structure Store where
  registry : Registry Unit Empty

namespace Store

-- The text is what was thrown; the effects are lines for the console.
abbrev Reply (β : Type) := Outcome String Store String β

def empty : Store := ⟨.empty {}⟩

def version : String := "otr-contexts-v0.1.0"

variable (s : Store)

def contextCount : Nat := s.registry.size

-- The conversation of an identity; a bad identity has none.
def context? (id : Identity) : Option (Conversation Unit Empty) :=
  match s.registry.find? id with
  | .ok found => found
  | .error _ => none

def contextState (id : Identity) : Option Nat :=
  (s.context? id).map fun c => c.state.code

-- The human forms of the fingerprints, the most recently added first.
def listFingerprints (id : Identity) : List String :=
  match s.context? id with
  | some c => c.known.toList.map fun entry => entry.fingerprint.display
  | none => []

-- Goes on with the fingerprint that the bytes stand for, if they are of the right length.
def withFingerprint {β : Type} (bytes : Array UInt8) (next : Fingerprint → Reply β) : Reply β :=
  match Fingerprint.ofBytes bytes with
  | .ok f => next f
  | .error error => .refused error.message s []

-- Throws a refusal.
def throwing {β γ : Type} (reply : Registry.Reply Unit Empty β) (answer : β → γ) : Reply γ :=
  match reply.answer with
  | .ok value => .done ⟨reply.after⟩ (answer value) []
  | .error refusal => .refused refusal.message ⟨reply.after⟩ []

-- Tells a refusal to the console and answers no.
def reporting {β : Type} (method : String) (reply : Registry.Reply Unit Empty β)
    (answer : β → Bool) : Reply Bool :=
  match reply.answer with
  | .ok value => .done ⟨reply.after⟩ (answer value) []
  | .error refusal =>
    .done ⟨reply.after⟩ false ["[WASM] " ++ method ++ " failed: " ++ refusal.message]

-- A call on the conversation of an identity, where a missing one is a refusal too.
def onContext {β : Type} (id : Identity)
    (call : Conversation Unit Empty → Conversation.Reply Unit Empty β) :
    Registry.Reply Unit Empty β :=
  let reply := s.registry.onContext id call
  ⟨reply.answer.bind fun
    | some value => .ok value
    | none => .error .unknownContext, reply.after, reply.effects⟩

-- A removal by identity, where a bad identity is a refusal too.
def onIdentity {β : Type} (id : Identity) (call : Identity → Registry.Reply Unit Empty β) :
    Registry.Reply Unit Empty β :=
  match id.validated with
  | .ok id => call id
  | .error refusal => .refused refusal s.registry []

-- Whether a new conversation was made.
def findContext (id : Identity) (create : Bool) : Reply Bool :=
  throwing (s.registry.findContext id create []) fun
    | some (_, created) => created
    | none => false

-- Whether the fingerprint was not known before.
def addFingerprint (id : Identity) (bytes : Array UInt8) : Reply Bool :=
  s.withFingerprint bytes fun f =>
    throwing (s.onContext id (·.addFingerprint f)) (·.2)

-- Whether the fingerprint is known.
def setTrust (id : Identity) (bytes : Array UInt8) (label : Option String) : Reply Bool :=
  s.withFingerprint bytes fun f =>
    reporting "setTrust" (s.onContext id fun c =>
      let (known, after) := c.setTrust f label
      .done after known []) fun known => known

def getTrust (id : Identity) (bytes : Array UInt8) : Reply (Option String) :=
  s.withFingerprint bytes fun f =>
    .done s (do (← (← s.context? id).known.get? f).trust) []

def setPresharedSecret (id : Identity) (secret : Option (Array UInt8)) : Reply Bool :=
  reporting "setPresharedSecret" (s.onContext id (·.setPresharedSecret secret)) fun _ => true

def forceSetup (id : Identity) : Reply Bool :=
  reporting "forceSetup" (s.onContext id (·.forceSetup)) fun _ => true

def forceDisconnect (id : Identity) : Reply Bool :=
  reporting "forceDisconnect" (s.onContext id (·.forceDisconnect)) fun _ => true

-- Whether anything was removed.
def forgetFingerprint (id : Identity) (bytes : Array UInt8) (cascade : Bool) : Reply Bool :=
  s.withFingerprint bytes fun f =>
    reporting "forgetFingerprint"
      (s.onIdentity id fun id => s.registry.forgetFingerprint id (.entry f) cascade)
      (· ≠ .nothing)

def forgetContext (id : Identity) : Reply Bool :=
  reporting "forgetContext" (s.onIdentity id s.registry.forget) fun _ => true

def forgetAll : Reply Unit :=
  throwing s.registry.forgetAll fun _ => ()

end Store

end Parley
