import Parley.Proofs.Registry.Change

/-!
Which identity a call is about. Main statement: a call about one identity writes under this identity
only, so that every other conversation stays exactly as it is.
-/

namespace Parley.Registry

variable {α ρ : Type}

-- The identity that a call is about; emptying the registry is about all of them.
def Call.subject? : Call α ρ → Option Identity
  | .findContext id _ _ | .findOrCreate id _ | .onContext id _ | .forget id
  | .forgetFingerprint id _ _ => some id
  | .forgetAll => none

theorem eq_forgetAll {call : Call α ρ} (hsubject : call.subject? = none) : call = .forgetAll := by
  cases call with
  | forgetAll => rfl
  | _ => cases hsubject

-- What is shown of each kind of call about one identity holds of all calls about it.
theorem Call.of_subject {Shown : Call α ρ → Prop} {id : Identity} {call : Call α ρ}
    (hsubject : call.subject? = some id)
    (hfindContext : ∀ create onCreate, Shown (.findContext id create onCreate))
    (hfindOrCreate : ∀ onCreate, Shown (.findOrCreate id onCreate))
    (honContext : ∀ asked, Shown (.onContext id asked)) (hforget : Shown (.forget id))
    (hforgetFingerprint : ∀ target cascade, Shown (.forgetFingerprint id target cascade)) :
    Shown call := by
  cases call with
  | forgetAll => cases hsubject
  | findContext _ create onCreate =>
    cases hsubject
    exact hfindContext create onCreate
  | findOrCreate _ onCreate =>
    cases hsubject
    exact hfindOrCreate onCreate
  | onContext _ asked =>
    cases hsubject
    exact honContext asked
  | forget _ =>
    cases hsubject
    exact hforget
  | forgetFingerprint _ target cascade =>
    cases hsubject
    exact hforgetFingerprint target cascade

-- At most what stands under one identity is replaced or taken out.
inductive Writes (id : Identity) (r : Registry α ρ) : Registry α ρ → Prop where
  | same : Writes id r r
  | put (c : Conversation α ρ) : Writes id r (r.put id c)
  | drop : Writes id r (r.drop id)

variable {r after : Registry α ρ} {id other : Identity}

theorem Writes.get?_of_ne (h : Writes other r after) (hne : other ≠ id) :
    after.get? id = r.get? id := by
  cases h with
  | same => rfl
  | put c => exact get?_put_of_ne hne
  | drop => exact get?_drop_of_ne hne

theorem Writes.config_eq (h : Writes id r after) : after.config = r.config := by
  cases h <;> rfl

variable (r id)

theorem writes_findContext (create : Bool) (onCreate : List (Conversation.Call α ρ)) :
    Writes id r (r.findContext id create onCreate).after := by
  rcases r.after_findContext id create onCreate with hsame | ⟨_, _, _, hput⟩
  · rw [hsame]
    exact .same
  · rw [hput]
    exact .put _

theorem writes_onContext {β : Type} (call : Conversation α ρ → Conversation.Reply α ρ β) :
    Writes id r (r.onContext id call).after := by
  rcases r.after_onContext id call with hsame | ⟨_, _, hput⟩
  · rw [hsame]
    exact .same
  · rw [hput]
    exact .put _

theorem writes_forget : Writes id r (r.forget id).after := by
  rcases r.after_forget id with hsame | hdrop
  · rw [hsame]
    exact .same
  · rw [hdrop]
    exact .drop

theorem writes_forgetFingerprint (target : Target) (cascade : Bool) :
    Writes id r (r.forgetFingerprint id target cascade).after := by
  rcases r.after_forgetFingerprint id target cascade with hsame | hdrop | ⟨_, _, _, hput⟩
  · rw [hsame]
    exact .same
  · rw [hdrop]
    exact .drop
  · rw [hput]
    exact .put _

variable {id}

theorem writes_perform {call : Call α ρ} (hsubject : call.subject? = some id) :
    Writes id r (r.perform call).after := by
  apply Call.of_subject hsubject
  · exact r.writes_findContext id
  · exact r.writes_findContext id true
  · exact fun asked => r.writes_onContext id (·.perform asked)
  · exact r.writes_forget id
  · exact r.writes_forgetFingerprint id

theorem get?_perform_of_ne {call : Call α ρ} (hsubject : call.subject? = some other)
    (hne : other ≠ id) : (r.perform call).after.get? id = r.get? id :=
  (r.writes_perform hsubject).get?_of_ne hne

end Parley.Registry
