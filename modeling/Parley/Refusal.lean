import Parley.Progress
import Parley.Text.Quoted
import Parley.Text.Record

/-!
The reasons for which a call is refused, with their wording.
-/

namespace Parley

inductive Refusal where
  -- an identity lacks the named field
  | missingField (field : String)
  -- only an unconnected conversation can be forgotten
  | notUnconnected (state : ConnectionState)
  -- the fingerprint backs a live session
  | fingerprintInUse
  | invalidTransition (source target : ConnectionState)
  | unknownContext
  | unknownFingerprint
  -- a bound is reached; `what` says which
  | exhausted (what : String)
deriving DecidableEq

namespace Refusal

def registryFull : Refusal := exhausted "context registry is full"

def fingerprintListFull : Refusal := exhausted "fingerprint list is full"

def savedMacKeysFull : Refusal := exhausted "saved MAC key buffer is full"

def presharedSecretTooLong : Refusal := exhausted "preshared secret too long"

-- The sentence for the user.
def message : Refusal → String
  | missingField field => "Missing identity field: " ++ field
  | notUnconnected state => "Context is not unconnected (state: " ++ state.description ++ ")"
  | fingerprintInUse => "Fingerprint is active in a connected session"
  | invalidTransition source target =>
    "Invalid transition from " ++ source.description ++ " to " ++ target.description
  | unknownContext => "Unknown context"
  | unknownFingerprint => "Unknown fingerprint"
  | exhausted what => "Resource exhausted: " ++ what

-- The reason as diagnostics show it.
def diagnostic : Refusal → String
  | missingField field => "InvalidArgument(" ++ Text.quoted field ++ ")"
  | notUnconnected state => "NotUnconnected(" ++ state.diagnostic ++ ")"
  | fingerprintInUse => "FingerprintInUse"
  | invalidTransition source target =>
    Text.record "InvalidTransition" [("from", source.diagnostic), ("to", target.diagnostic)] .whole
  | unknownContext => "UnknownContext"
  | unknownFingerprint => "UnknownFingerprint"
  | exhausted what => "ResourceExhausted(" ++ Text.quoted what ++ ")"

-- Whether the state of the conversation, and not an argument or a bound, is the reason.
def isPrecondition : Refusal → Bool
  | notUnconnected _ | fingerprintInUse | invalidTransition _ _ => true
  | missingField _ | unknownContext | unknownFingerprint | exhausted _ => false

end Refusal

end Parley
