import Parley.Proofs.Registry.Change

/-!
Where the conversations of a registry come from. Main statement: whatever was asked of a registry
that began empty, each of its conversations has a valid identity, and some list of calls leads to it
from a fresh conversation with the bounds of the registry. So what every call on a conversation
keeps holds of every conversation of every registry.
-/

namespace Parley

namespace Conversation

variable {α ρ : Type}

-- The conversations that calls lead to from a fresh one.
def Reachable (id : Identity) (limits : Limits) (c : Conversation α ρ) : Prop :=
  ∃ calls, c = ((fresh id limits).performAll calls).after

variable {id : Identity} {limits : Limits} {c : Conversation α ρ}

theorem reachable_performAll (calls : List (Call α ρ)) :
    Reachable id limits ((fresh id limits).performAll calls).after := ⟨calls, rfl⟩

theorem Reachable.performAll (h : Reachable id limits c) (calls : List (Call α ρ)) :
    Reachable id limits (c.performAll calls).after := by
  obtain ⟨earlier, rfl⟩ := h
  refine ⟨earlier ++ calls, ?_⟩
  rw [Conversation.performAll, Conversation.performAll, Conversation.performAll,
    History.run_append]

theorem Reachable.perform (h : Reachable id limits c) (call : Call α ρ) :
    Reachable id limits (c.perform call).after :=
  h.performAll [call]

-- What a fresh conversation has and every call keeps.
theorem Reachable.keeps {Kept : Conversation α ρ → Prop} (hfresh : Kept (fresh id limits))
    (hstep : ∀ (c : Conversation α ρ) (call : Call α ρ), Kept c → Kept (c.perform call).after)
    (h : Reachable id limits c) : Kept c := by
  obtain ⟨calls, rfl⟩ := h
  exact History.run_keeps hstep hfresh calls

end Conversation

namespace Registry

open Conversation (Reachable)

variable {α ρ : Type} {r : Registry α ρ} {id : Identity} {c : Conversation α ρ} {config : Config}

-- Every conversation stands under a valid identity and has grown from a fresh one.
structure Grown (config : Config) (r : Registry α ρ) : Prop where
  config_eq : r.config = config
  valid {id : Identity} {c : Conversation α ρ} : r.get? id = some c → id.validated = .ok id
  reachable {id : Identity} {c : Conversation α ρ} :
    r.get? id = some c → Reachable id config.limits c

theorem grown_empty : Grown config (empty config : Registry α ρ) where
  config_eq := rfl
  valid h := by rw [get?_empty] at h; cases h
  reachable h := by rw [get?_empty] at h; cases h

theorem Grown.put (h : Grown config r) (hid : id.validated = .ok id)
    (hc : Reachable id config.limits c) : Grown config (r.put id c) where
  config_eq := h.config_eq
  valid {other c'} hget := by
    rw [get?_put] at hget
    split at hget
    · next heq => exact heq ▸ hid
    · exact h.valid hget
  reachable {other c'} hget := by
    rw [get?_put] at hget
    split at hget
    · next heq => cases hget; exact heq ▸ hc
    · exact h.reachable hget

theorem Grown.drop (h : Grown config r) (id : Identity) : Grown config (r.drop id) where
  config_eq := h.config_eq
  valid {other c'} hget := by
    rw [get?_drop] at hget
    split at hget
    · cases hget
    · exact h.valid hget
  reachable {other c'} hget := by
    rw [get?_drop] at hget
    split at hget
    · cases hget
    · exact h.reachable hget

theorem Grown.change {after : Registry α ρ} (h : Grown config r) (hchange : Change r after) :
    Grown config after := by
  cases hchange with
  | same => exact h
  | made onCreate hid =>
    rw [h.config_eq]
    exact h.put hid (Conversation.reachable_performAll onCreate)
  | asked asked hget => exact h.put (h.valid hget) ((h.reachable hget).perform asked)
  | taken id => exact h.drop id
  | emptied =>
    rw [h.config_eq]
    exact grown_empty

theorem Grown.perform (h : Grown config r) (call : Call α ρ) :
    Grown config (r.perform call).after :=
  h.change (r.change_perform call)

theorem grown_performAll (config : Config) (calls : List (Call α ρ)) :
    Grown config ((empty config : Registry α ρ).performAll calls).after :=
  History.run_keeps (fun _ call h => h.perform call) grown_empty calls

end Registry

end Parley
