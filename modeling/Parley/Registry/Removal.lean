import Parley.Registry.Basic

/-!
Removing from a registry. A conversation goes only while it is unconnected; taking its last
fingerprint may take it along; emptying the registry disconnects first.
-/

namespace Parley.Registry

-- What to remove: the root of the fingerprints, which stands for the whole conversation, or one.
inductive Target where
  | root
  | entry (f : Fingerprint)
deriving DecidableEq

inductive Removed where
  | nothing
  | fingerprint
  -- the conversation, with any fingerprints that it still held
  | context
deriving DecidableEq

variable {α ρ : Type} (r : Registry α ρ)

def forget (id : Identity) : Reply α ρ Unit :=
  match r.get? id with
  | none => .refused .unknownContext r []
  | some c =>
    if c.state ≠ .unconnected then
      .refused (.notUnconnected c.state) r [.log (.contextKept id c.state)]
    else .done (r.drop id) () c.destroy.effects

-- With `cascade`, the root stands for the conversation, and the last fingerprint of an unconnected
-- conversation takes it along; without, only fingerprints go.
def forgetFingerprint (id : Identity) (target : Target) (cascade : Bool) : Reply α ρ Removed :=
  match r.get? id with
  | none => .refused .unknownContext r []
  | some c =>
    match target with
    | .root =>
      if cascade then (r.forget id).map fun _ => .context else .done r .nothing []
    | .entry f =>
      let removal := c.forgetFingerprint f
      let rest := r.put id removal.after
      match removal.answer with
      | .error refusal => .refused refusal rest removal.effects
      | .ok () =>
        if cascade && removal.after.state = .unconnected && removal.after.known.isEmpty then
          let whole := rest.forget id
          ⟨whole.answer.map fun _ => .context, whole.after, removal.effects ++ whole.effects⟩
        else .done rest .fingerprint removal.effects

-- Takes out the first conversation, disconnected and torn down.
def drainFirst : Registry α ρ × List (Effect α ρ) :=
  match r.contexts.minKey? with
  | none => (r, [])
  | some id =>
    match r.get? id with
    | none => (r, [])
    | some c =>
      let disconnected := c.forceDisconnect
      (r.drop id, disconnected.effects ++ disconnected.after.destroy.effects)

def drain : Nat → Registry α ρ → Registry α ρ × List (Effect α ρ)
  | 0, r => (r, [])
  | rounds + 1, r =>
    let (rest, effects) := r.drainFirst
    let (last, more) := drain rounds rest
    (last, effects ++ more)

-- Takes out every conversation, in the order of identities.
def forgetAll : Reply α ρ Unit :=
  let (rest, effects) := drain r.size r
  .done rest () effects

end Parley.Registry
