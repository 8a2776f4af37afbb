import Parley.Conversation.Call

/-!
The registry owns the conversations of an application, at most one for each identity, and goes
through them in the order of identities. Main statements: what a search that may create does, in
each of its cases.
-/

namespace Parley

structure Registry (α ρ : Type) where
  config : Config
  contexts : Std.ExtTreeMap Identity (Conversation α ρ)

namespace Registry

variable {α ρ : Type}

abbrev Reply (α ρ β : Type) := Outcome Refusal (Registry α ρ) (Effect α ρ) β

def empty (config : Config) : Registry α ρ := ⟨config, ∅⟩

variable (r : Registry α ρ)

def size : Nat := r.contexts.size

def isEmpty : Bool := r.contexts.isEmpty

def isFull : Bool := r.config.maxContexts ≤ r.size

def get? (id : Identity) : Option (Conversation α ρ) := r.contexts[id]?

-- The conversations in the order of their identities.
def toList : List (Conversation α ρ) := r.contexts.toList.map (·.2)

-- Looks for a conversation and creates none.
def find? (id : Identity) : Except Refusal (Option (Conversation α ρ)) :=
  id.validated.map r.get?

-- Puts a conversation in the place of its identity.
def put (id : Identity) (c : Conversation α ρ) : Registry α ρ :=
  { r with contexts := r.contexts.insert id c }

-- Takes an identity out, whatever its conversation holds.
def drop (id : Identity) : Registry α ρ :=
  { r with contexts := r.contexts.erase id }

-- Looks for a conversation and, if asked to, creates a missing one; the flag says whether it is
-- new. The calls of `onCreate` are made on a new one before it is handed out, and on no other. A
-- full registry still finds what it holds.
def findContext (id : Identity) (create : Bool) (onCreate : List (Conversation.Call α ρ)) :
    Reply α ρ (Option (Conversation α ρ × Bool)) :=
  match id.validated with
  | .error refusal => .refused refusal r []
  | .ok id =>
    match r.get? id with
    | some c => .done r (some (c, false)) []
    | none =>
      if !create then .done r none []
      else if r.isFull then .refused .registryFull r []
      else
        let made := (Conversation.fresh id r.config.limits).performAll onCreate
        .done (r.put id made.after) (some (made.after, true))
          (.log (.newContext id) :: made.effects)

-- Looks for a conversation and creates a missing one.
def findOrCreate (id : Identity) (onCreate : List (Conversation.Call α ρ)) :
    Reply α ρ (Conversation α ρ × Bool) :=
  let found := r.findContext id true onCreate
  ⟨found.answer.bind fun
    | some pair => .ok pair
    | none => .error .unknownContext, found.after, found.effects⟩

-- Makes a call on the conversation of an identity; if there is none, there is no answer.
def onContext {β : Type} (id : Identity)
    (call : Conversation α ρ → Conversation.Reply α ρ β) : Reply α ρ (Option β) :=
  match r.find? id with
  | .error refusal => .refused refusal r []
  | .ok none => .done r none []
  | .ok (some c) => ((call c).within (r.put id)).map some

-- Makes a call on every conversation, in the order of identities.
def onEach {β : Type} (call : Conversation α ρ → Conversation.Reply α ρ β) :
    History Refusal (Registry α ρ) (Effect α ρ) (Option β) :=
  History.run (fun r id => r.onContext id call) r r.contexts.keys

variable {r} {id : Identity} {create : Bool} {onCreate : List (Conversation.Call α ρ)}

theorem findContext_of_invalid {refusal : Refusal} (h : id.validated = .error refusal) :
    r.findContext id create onCreate = .refused refusal r [] := by
  simp [findContext, h]

theorem findContext_of_found {c : Conversation α ρ} (hid : id.validated = .ok id)
    (h : r.get? id = some c) :
    r.findContext id create onCreate = .done r (some (c, false)) [] := by
  simp [findContext, hid, h]

theorem findContext_of_absent (hid : id.validated = .ok id) (h : r.get? id = none) :
    r.findContext id false onCreate = .done r none [] := by
  simp [findContext, hid, h]

theorem findContext_of_full (hid : id.validated = .ok id) (h : r.get? id = none)
    (hfull : r.isFull = true) :
    r.findContext id true onCreate = .refused .registryFull r [] := by
  simp [findContext, hid, h, hfull]

theorem findContext_of_room (hid : id.validated = .ok id) (h : r.get? id = none)
    (hroom : r.isFull = false) :
    r.findContext id true onCreate =
      let made := (Conversation.fresh id r.config.limits).performAll onCreate
      .done (r.put id made.after) (some (made.after, true))
        (.log (.newContext id) :: made.effects) := by
  simp [findContext, hid, h, hroom]

end Registry

end Parley
