import Parley.Proofs.Registry.Lookup

/-!
The calls that are made on a new conversation before it is handed out. Main statement: they are
nothing but calls of their own on a conversation that was made without them, so that what is known
of every single call holds of them too.
-/

namespace Parley.Registry

variable {α ρ : Type} {r : Registry α ρ} {id : Identity} {c : Conversation α ρ}

theorem onContext_of_invalid {β : Type} {refusal : Refusal} (hid : id.validated = .error refusal)
    (call : Conversation α ρ → Conversation.Reply α ρ β) :
    r.onContext id call = .refused refusal r [] := by
  have hrefused : r.find? id = .error refusal := by
    rw [find?, hid]
    rfl
  simp only [onContext, hrefused]

theorem onContext_of_absent {β : Type} (hid : id.validated = .ok id) (hget : r.get? id = none)
    (call : Conversation α ρ → Conversation.Reply α ρ β) :
    r.onContext id call = .done r none [] := by
  have hnone : r.find? id = .ok none := find?_eq_ok_iff.mpr ⟨hid, hget⟩
  simp only [onContext, hnone]

theorem onContext_of_found {β : Type} (hid : id.validated = .ok id) (hget : r.get? id = some c)
    (call : Conversation α ρ → Conversation.Reply α ρ β) :
    r.onContext id call = ((call c).within (r.put id)).map some := by
  have hfound : r.find? id = .ok (some c) := find?_eq_ok_iff.mpr ⟨hid, hget⟩
  simp only [onContext, hfound]

-- Calls on one conversation, one after another, through the registry that holds it.
theorem performAll_onContext (hid : id.validated = .ok id) (hget : r.get? id = some c)
    (calls : List (Conversation.Call α ρ)) :
    (r.performAll (calls.map (.onContext id))).after = r.put id (c.performAll calls).after ∧
      (r.performAll (calls.map (.onContext id))).effects = (c.performAll calls).effects := by
  induction calls generalizing r c with
  | nil => exact ⟨(put_of_get? hget).symm, rfl⟩
  | cons call calls ih =>
    have hfirst : (r.perform (.onContext id call)).after = r.put id (c.perform call).after := by
      rw [perform, onContext_of_found hid hget]
      rfl
    have heffects : (r.perform (.onContext id call)).effects = (c.perform call).effects := by
      rw [perform, onContext_of_found hid hget]
      rfl
    obtain ⟨hafter, hrest⟩ := ih (get?_put_self r id (c.perform call).after)
    simp only [performAll, Conversation.performAll, List.map_cons, History.run] at hafter hrest ⊢
    rw [hfirst, heffects, hafter, hrest, put_put]
    exact ⟨rfl, rfl⟩

theorem findContext_eq_performAll (hid : id.validated = .ok id) (hget : r.get? id = none)
    (hroom : r.isFull = false) (onCreate : List (Conversation.Call α ρ)) :
    let apart := r.performAll (.findContext id true [] :: onCreate.map (.onContext id))
    (r.findContext id true onCreate).after = apart.after ∧
      (r.findContext id true onCreate).effects = apart.effects := by
  intro apart
  let fresh : Conversation α ρ := .fresh id r.config.limits
  obtain ⟨hafter, heffects⟩ :=
    performAll_onContext hid (get?_put_self r id fresh) onCreate
  have hmade : r.perform (.findContext id true []) =
      .done (r.put id fresh) (.found (some (fresh, true))) [.log (.newContext id)] := by
    rw [perform, findContext_of_room hid hget hroom]
    rfl
  simp only [apart, performAll, History.run, hmade] at hafter heffects ⊢
  rw [findContext_of_room hid hget hroom]
  simp only [Outcome.done] at hafter heffects ⊢
  rw [hafter, heffects, put_put]
  exact ⟨rfl, rfl⟩

end Parley.Registry
