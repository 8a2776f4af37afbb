import Parley.Proofs.Conversation.Past
import Parley.Proofs.Registry.Reachable

/-!
Calls on a registry, each with all that it was answered: where it made a conversation, what was
asked of that one before it was handed out belongs to the answer. Main statement: every conversation
in the registry has still grown from a fresh one.
-/

namespace Parley.Registry

variable {α ρ : Type}

-- What was asked of a new conversation before it was handed out, and how that was answered.
def Call.onCreation (limits : Limits) :
    Call α ρ → Answer α ρ → List (Conversation.Step α ρ)
  | .findContext id _ onCreate, .found (some (_, true))
  | .findOrCreate id onCreate, .found (some (_, true)) =>
    onCreate.zip ((Conversation.fresh id limits).performAll onCreate).answers
  | _, _ => []

-- The answer, and what was asked of a new conversation on the way.
abbrev Report (α ρ : Type) := Answer α ρ × List (Conversation.Step α ρ)

def report (r : Registry α ρ) (call : Call α ρ) : Reply α ρ (Report α ρ) :=
  (r.perform call).map fun answer => (answer, call.onCreation r.config.limits answer)

-- The calls one after another.
def live (r : Registry α ρ) (calls : List (Call α ρ)) :
    History Refusal (Registry α ρ) (Effect α ρ) (Report α ρ) :=
  History.run report r calls

theorem grown_live (config : Config) (calls : List (Call α ρ)) :
    Grown config ((empty config).live calls).after := by
  have hkeeps (r : Registry α ρ) (call : Call α ρ) (h : Grown config r) :
      Grown config (r.report call).after := h.perform call
  exact History.run_keeps hkeeps grown_empty calls

end Parley.Registry
