import Parley.Proofs.Registry.Drainage

/-!
What one call can do to a registry, whatever is asked of it. Main statement: it leaves the registry
as it is, puts in a new conversation if there is room, puts what a call left of a conversation in
its place, takes a conversation out, or takes out all of them.
-/

namespace Parley.Registry

variable {α ρ : Type} (r : Registry α ρ)

-- A search is refused, or answered with what is there, or it makes a new conversation.
theorem findContext_cases (id : Identity) (create : Bool)
    (onCreate : List (Conversation.Call α ρ)) :
    (∃ refusal, r.findContext id create onCreate = .refused refusal r []) ∨
    (∃ found : Option (Conversation α ρ),
      r.findContext id create onCreate = .done r (found.map (·, false)) []) ∨
    (id.validated = .ok id ∧ r.get? id = none ∧ r.isFull = false ∧
      let made := (Conversation.fresh id r.config.limits).performAll onCreate
      r.findContext id create onCreate = .done (r.put id made.after) (some (made.after, true))
        (.log (.newContext id) :: made.effects)) := by
  cases hid : id.validated with
  | error refusal => exact Or.inl ⟨refusal, findContext_of_invalid hid⟩
  | ok valid =>
    obtain rfl := ((id.validated_eq_ok_iff valid).mp hid).1
    cases hget : r.get? id with
    | some c => exact Or.inr (Or.inl ⟨some c, findContext_of_found hid hget⟩)
    | none =>
      cases create with
      | false => exact Or.inr (Or.inl ⟨none, findContext_of_absent hid hget⟩)
      | true =>
        cases hfull : r.isFull with
        | true => exact Or.inl ⟨_, findContext_of_full hid hget hfull⟩
        | false => exact Or.inr (Or.inr ⟨rfl, rfl, rfl, findContext_of_room hid hget hfull⟩)

theorem after_findContext (id : Identity) (create : Bool)
    (onCreate : List (Conversation.Call α ρ)) :
    (r.findContext id create onCreate).after = r ∨
      id.validated = .ok id ∧ r.get? id = none ∧ r.isFull = false ∧
        (r.findContext id create onCreate).after =
          r.put id ((Conversation.fresh id r.config.limits).performAll onCreate).after := by
  rcases r.findContext_cases id create onCreate with
    ⟨_, heq⟩ | ⟨_, heq⟩ | ⟨hid, hget, hroom, heq⟩
  · exact Or.inl (by rw [heq]; rfl)
  · exact Or.inl (by rw [heq]; rfl)
  · exact Or.inr ⟨hid, hget, hroom, by rw [heq]; rfl⟩

theorem onContext_cases {β : Type} (id : Identity)
    (call : Conversation α ρ → Conversation.Reply α ρ β) :
    (∃ refusal, r.onContext id call = .refused refusal r []) ∨
    r.onContext id call = .done r none [] ∨
    ∃ c, r.get? id = some c ∧ r.onContext id call = ((call c).within (r.put id)).map some := by
  unfold onContext
  split
  · next refusal _ => exact Or.inl ⟨refusal, rfl⟩
  · exact Or.inr (Or.inl rfl)
  · next c hfound => exact Or.inr (Or.inr ⟨c, (find?_eq_ok_iff.mp hfound).2, rfl⟩)

theorem after_onContext {β : Type} (id : Identity)
    (call : Conversation α ρ → Conversation.Reply α ρ β) :
    (r.onContext id call).after = r ∨
      ∃ c, r.get? id = some c ∧ (r.onContext id call).after = r.put id (call c).after := by
  rcases r.onContext_cases id call with ⟨_, heq⟩ | heq | ⟨c, hget, heq⟩
  · exact Or.inl (by rw [heq]; rfl)
  · exact Or.inl (by rw [heq]; rfl)
  · exact Or.inr ⟨c, hget, by rw [heq]; rfl⟩

theorem after_forget (id : Identity) :
    (r.forget id).after = r ∨ (r.forget id).after = r.drop id := by
  cases hget : r.get? id with
  | none => exact Or.inl (by rw [forget_of_absent hget]; rfl)
  | some c =>
    by_cases hstate : c.state = .unconnected
    · exact Or.inr (by rw [forget_of_unconnected hget hstate]; rfl)
    · exact Or.inl (by rw [forget_of_kept hget hstate]; rfl)

theorem after_forgetFingerprint (id : Identity) (target : Target) (cascade : Bool) :
    (r.forgetFingerprint id target cascade).after = r ∨
      (r.forgetFingerprint id target cascade).after = r.drop id ∨
      ∃ c f, r.get? id = some c ∧
        (r.forgetFingerprint id target cascade).after = r.put id (c.forgetFingerprint f).after := by
  cases hget : r.get? id with
  | none => exact Or.inl (by rw [forgetFingerprint_of_absent hget]; rfl)
  | some c =>
    cases target with
    | root =>
      rw [forgetFingerprint_root hget]
      cases cascade with
      | false => exact Or.inl rfl
      | true =>
        rcases r.after_forget id with hsame | hdropped
        · exact Or.inl hsame
        · exact Or.inr (Or.inl hdropped)
    | entry f =>
      cases hanswer : (c.forgetFingerprint f).answer with
      | error refusal =>
        rw [forgetFingerprint_of_refused hget hanswer]
        exact Or.inr (Or.inr ⟨c, f, rfl, rfl⟩)
      | ok _ =>
        by_cases hcascades : Cascades cascade (c.forgetFingerprint f).after
        · rw [forgetFingerprint_of_cascades hget hanswer hcascades]
          exact Or.inr (Or.inl drop_put)
        · rw [forgetFingerprint_of_removed hget hanswer hcascades]
          exact Or.inr (Or.inr ⟨c, f, rfl, rfl⟩)

-- What a call can do to a registry.
inductive Change (r : Registry α ρ) : Registry α ρ → Prop where
  | same : Change r r
  | made {id : Identity} (onCreate : List (Conversation.Call α ρ)) (hid : id.validated = .ok id)
    (hget : r.get? id = none) (hroom : r.isFull = false) :
    Change r (r.put id ((Conversation.fresh id r.config.limits).performAll onCreate).after)
  | asked {id : Identity} {c : Conversation α ρ} (asked : Conversation.Call α ρ)
    (hget : r.get? id = some c) : Change r (r.put id (c.perform asked).after)
  | taken (id : Identity) : Change r (r.drop id)
  | emptied : Change r (empty r.config)

theorem change_findContext (id : Identity) (create : Bool)
    (onCreate : List (Conversation.Call α ρ)) :
    Change r (r.findContext id create onCreate).after := by
  rcases r.after_findContext id create onCreate with hsame | ⟨hid, hget, hroom, hput⟩
  · rw [hsame]
    exact .same
  · rw [hput]
    exact .made onCreate hid hget hroom

theorem change_perform (call : Call α ρ) : Change r (r.perform call).after := by
  cases call with
  | findContext id create onCreate => exact r.change_findContext id create onCreate
  | findOrCreate id onCreate => exact r.change_findContext id true onCreate
  | onContext id asked =>
    change Change r (r.onContext id (·.perform asked)).after
    rcases r.after_onContext id (·.perform asked) with hsame | ⟨c, hget, hput⟩
    · rw [hsame]
      exact .same
    · rw [hput]
      exact .asked asked hget
  | forget id =>
    change Change r (r.forget id).after
    rcases r.after_forget id with hsame | hdrop
    · rw [hsame]
      exact .same
    · rw [hdrop]
      exact .taken id
  | forgetFingerprint id target cascade =>
    change Change r (r.forgetFingerprint id target cascade).after
    rcases r.after_forgetFingerprint id target cascade with hsame | hdrop | ⟨c, f, hget, hput⟩
    · rw [hsame]
      exact .same
    · rw [hdrop]
      exact .taken id
    · rw [hput]
      exact .asked (.forgetFingerprint f) hget
  | forgetAll =>
    change Change r r.forgetAll.after
    rw [forgetAll_eq]
    exact .emptied

end Parley.Registry
