import Parley.Conversation.Basic

/-!
The fingerprints of a conversation: adding, labelling, removing.
-/

namespace Parley.Conversation

variable {α ρ : Type} (c : Conversation α ρ)

-- Finds the entry of a fingerprint, or adds one at the front; the flag says which. A full list
-- refuses only what it does not hold.
def addFingerprint (f : Fingerprint) : Reply α ρ (KnownFingerprint × Bool) :=
  if !c.known.contains f && c.limits.maxFingerprints ≤ c.known.size then
    .refused .fingerprintListFull c []
  else
    let found := c.known.findOrInsert f
    let effects := if found.created then [.log (.newFingerprint c.id f)] else []
    .done { c with known := found.known } (found.entry, found.created) effects

-- Replaces the label of a fingerprint and says whether it is known.
def setTrust (f : Fingerprint) (label : Option String) : Bool × Conversation α ρ :=
  match c.known.get? f with
  | some _ => (true, { c with known := c.known.setTrust f label })
  | none => (false, c)

-- The fingerprint that backs a live session stays, whether or not it is listed.
def forgetFingerprint (f : Fingerprint) : Reply α ρ Unit :=
  if c.state = .connected ∧ c.pinned = some f then
    .refused .fingerprintInUse c [.log (.activeFingerprintKept c.id f)]
  else
    match c.known.remove f with
    | (none, rest) => .refused .unknownFingerprint { c with known := rest } []
    | (some _, rest) =>
      let pinned := if c.pinned = some f then none else c.pinned
      .done { c with known := rest, pinned := pinned } () []

end Parley.Conversation
