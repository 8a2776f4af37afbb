import Parley.Registry.Removal

/-!
All that can be asked of a registry, as values, so that whole histories of calls can be spoken
about.
-/

namespace Parley.Registry

inductive Call (α ρ : Type) where
  | findContext (id : Identity) (create : Bool) (onCreate : List (Conversation.Call α ρ))
  | findOrCreate (id : Identity) (onCreate : List (Conversation.Call α ρ))
  | onContext (id : Identity) (call : Conversation.Call α ρ)
  | forget (id : Identity)
  | forgetFingerprint (id : Identity) (target : Target) (cascade : Bool)
  | forgetAll

inductive Answer (α ρ : Type) where
  | done
  -- the conversation, if there is one, and whether it is new
  | found (context : Option (Conversation α ρ × Bool))
  -- nothing if there is no such conversation
  | context (answer : Option (Conversation.Answer α))
  | removed (what : Removed)

variable {α ρ : Type}

def perform (r : Registry α ρ) : Call α ρ → Reply α ρ (Answer α ρ)
  | .findContext id create onCreate => (r.findContext id create onCreate).map .found
  | .findOrCreate id onCreate => (r.findOrCreate id onCreate).map fun pair => .found (some pair)
  | .onContext id call => (r.onContext id (·.perform call)).map .context
  | .forget id => (r.forget id).map fun _ => .done
  | .forgetFingerprint id target cascade =>
    (r.forgetFingerprint id target cascade).map .removed
  | .forgetAll => r.forgetAll.map fun _ => .done

-- The calls one after another.
def performAll (r : Registry α ρ) (calls : List (Call α ρ)) :
    History Refusal (Registry α ρ) (Effect α ρ) (Answer α ρ) :=
  History.run perform r calls

end Parley.Registry
