import Parley.Proofs.Conversation.Guarded
import Parley.Proofs.Registry.Reachable
import Parley.Proofs.Registry.Subject
import Parley.Proofs.Sample

/-!
The active fingerprint is pinned. Main statement: whatever was asked of a registry, each connected
conversation has an active fingerprint, the one pinned, and no other conversation has one pinned; no
removal changes or takes away the active fingerprint of a connected conversation.
-/

namespace Parley

namespace Registry

open Conversation (Guarded)

variable {α ρ : Type} {r : Registry α ρ} {id other : Identity} {c : Conversation α ρ}

theorem Grown.guarded {config : Config} (h : Grown config r) (hget : r.get? id = some c) :
    c.Guarded :=
  (h.reachable hget).keeps (Conversation.guarded_fresh id config.limits)
    fun _ call hc => hc.perform call

-- What is done under another identity leaves the conversation as it is.
theorem get?_forget_of_ne (hne : other ≠ id) : (r.forget other).after.get? id = r.get? id :=
  (r.writes_forget other).get?_of_ne hne

theorem get?_forgetFingerprint_of_ne (hne : other ≠ id) (target : Target) (cascade : Bool) :
    (r.forgetFingerprint other target cascade).after.get? id = r.get? id :=
  (r.writes_forgetFingerprint other target cascade).get?_of_ne hne

theorem get?_onContext_of_ne {β : Type} (hne : other ≠ id)
    (call : Conversation α ρ → Conversation.Reply α ρ β) :
    (r.onContext other call).after.get? id = r.get? id :=
  (r.writes_onContext other call).get?_of_ne hne

-- The calls that take something out of a registry but do not tear it down.
def Call.IsRemoval : Call α ρ → Prop
  | .forget _ | .forgetFingerprint _ _ _ | .onContext _ (.forgetFingerprint _) => True
  | _ => False

section Connected

variable (hget : r.get? id = some c) (hstate : c.state = .connected)
include hget hstate

theorem forget_of_connected :
    r.forget id = .refused (.notUnconnected .connected) r [.log (.contextKept id .connected)] := by
  have hkept := forget_of_kept hget (by rw [hstate]; exact fun h => nomatch h)
  rwa [hstate] at hkept

-- Asked to forget one fingerprint, a connected conversation stays, with what that leaves of it.
theorem get?_forgetFingerprint_of_connected (f : Fingerprint) (cascade : Bool) :
    (r.forgetFingerprint id (.entry f) cascade).after.get? id =
      some (c.forgetFingerprint f).after := by
  cases hanswer : (c.forgetFingerprint f).answer with
  | error refusal =>
    rw [forgetFingerprint_of_refused hget hanswer]
    exact get?_put_self r id _
  | ok _ =>
    have hcascades : ¬ Cascades cascade (c.forgetFingerprint f).after := by
      rintro ⟨_, hunconnected, _⟩
      rw [c.state_forgetFingerprint, hstate] at hunconnected
      cases hunconnected
    rw [forgetFingerprint_of_removed hget hanswer hcascades]
    exact get?_put_self r id _

theorem exists_get?_forget (other : Identity) :
    ∃ c', (r.forget other).after.get? id = some c' ∧ c'.active? = c.active? := by
  by_cases hne : other = id
  · rw [hne, forget_of_connected hget hstate]
    exact ⟨c, hget, rfl⟩
  · rw [get?_forget_of_ne hne]
    exact ⟨c, hget, rfl⟩

section Guarded

variable (hguarded : c.Guarded)
include hguarded

theorem exists_get?_forgetFingerprint (other : Identity) (target : Target) (cascade : Bool) :
    ∃ c', (r.forgetFingerprint other target cascade).after.get? id = some c' ∧
      c'.active? = c.active? := by
  by_cases hne : other = id
  · subst hne
    cases target with
    | root =>
      rw [forgetFingerprint_root hget]
      split
      · exact exists_get?_forget hget hstate other
      · exact ⟨c, hget, rfl⟩
    | entry f =>
      have hactive := hguarded.active?_forgetFingerprint hstate f
      exact ⟨_, get?_forgetFingerprint_of_connected hget hstate f cascade, hactive⟩
  · rw [get?_forgetFingerprint_of_ne hne]
    exact ⟨c, hget, rfl⟩

theorem exists_get?_onContext_forgetFingerprint (other : Identity) (f : Fingerprint) :
    ∃ c', (r.onContext other (·.perform (.forgetFingerprint f))).after.get? id = some c' ∧
      c'.active? = c.active? := by
  by_cases hne : other = id
  · subst hne
    rcases r.after_onContext other (·.perform (.forgetFingerprint f)) with hsame | ⟨_, hc, hput⟩
    · rw [hsame]
      exact ⟨c, hget, rfl⟩
    · obtain rfl : c = _ := Option.some.inj (hget.symm.trans hc)
      rw [hput, get?_put_self]
      exact ⟨_, rfl, hguarded.active?_forgetFingerprint hstate f⟩
  · rw [get?_onContext_of_ne hne]
    exact ⟨c, hget, rfl⟩

theorem exists_get?_of_removal {removal : Call α ρ} (hremoval : removal.IsRemoval) :
    ∃ c', (r.perform removal).after.get? id = some c' ∧ c'.active? = c.active? := by
  match removal, hremoval with
  | .forget other, _ => exact exists_get?_forget hget hstate other
  | .forgetFingerprint other target cascade, _ =>
    exact exists_get?_forgetFingerprint hget hstate hguarded other target cascade
  | .onContext other (.forgetFingerprint f), _ =>
    exact exists_get?_onContext_forgetFingerprint hget hstate hguarded other f

end Guarded

end Connected

-- In every conversation of every registry: while connected, the fingerprint pinned is listed and
-- its entry is the active one; otherwise none is pinned. So a fingerprint that is given up was not
-- the pinned one, and no removal touches the active entry of a connected conversation.
theorem active_pinned (config : Config) (calls : List (Call α ρ)) (id : Identity)
    (c : Conversation α ρ)
    (hget : ((empty config : Registry α ρ).performAll calls).after.get? id = some c) :
    (c.state = .connected → ∃ f, ∃ entry ∈ c.known.toList,
      c.pinned = some f ∧ entry.fingerprint = f ∧ c.active? = some entry) ∧
    (c.state ≠ .connected → c.pinned = none) ∧
    (∀ f, (c.forgetFingerprint f).answer = .ok () →
      c.pinned ≠ some f ∧ (c.forgetFingerprint f).after.pinned = c.pinned) ∧
    (c.state = .connected → ∀ removal : Call α ρ, removal.IsRemoval →
      ∃ c', (((empty config).performAll calls).after.perform removal).after.get? id = some c' ∧
        c'.active? = c.active?) := by
  have hguarded : c.Guarded := (grown_performAll config calls).guarded hget
  refine ⟨hguarded.exists_active?, hguarded.pinned_eq_none, ?_, ?_⟩
  · intro f hanswer
    rcases hguarded.forgetFingerprint_cases f with ⟨_, _, heq⟩ | ⟨_, _, heq⟩ | ⟨hne, _, heq⟩
    · rw [heq] at hanswer
      cases hanswer
    · rw [heq] at hanswer
      cases hanswer
    · rw [heq]
      exact ⟨hne, rfl⟩
  · intro hstate removal hremoval
    exact exists_get?_of_removal hget hstate hguarded hremoval

section Reconnection

open Sample (alice older newer)

-- Connects with one fingerprint, then with another, and then gives up the first.
def reconnection : List (Call Nat Unit) :=
  [.findOrCreate alice [.addFingerprint older, .addFingerprint newer, .forceSetup],
    .onContext alice (.markConnected older), .onContext alice (.markConnected newer),
    .forgetFingerprint alice (.entry older) true]

theorem active_pinned_reconnection :
    let r : Registry Nat Unit := ((empty {}).performAll reconnection).after
    ∃ c entry, r.get? alice = some c ∧ c.state = .connected ∧ c.pinned = some newer ∧
      entry ∈ c.known.toList ∧ entry.fingerprint = newer ∧ c.active? = some entry ∧
      ∃ c', (r.perform (.forgetFingerprint alice (.entry newer) true)).after.get? alice = some c' ∧
        c'.active? = some entry := by
  intro r
  have hview : (r.get? alice).map (fun c => (c.state, c.pinned)) =
      some (.connected, some newer) := by decide +kernel
  obtain ⟨c, hget, hc⟩ := Option.map_eq_some_iff.mp hview
  obtain ⟨hstate, hpinned⟩ := Prod.mk.inj hc
  obtain ⟨hconnected, _, _, hkept⟩ := active_pinned {} reconnection alice c hget
  obtain ⟨f, entry, hmem, hf, hentry, hactive⟩ := hconnected hstate
  obtain rfl : newer = f := Option.some.inj (hpinned.symm.trans hf)
  obtain ⟨c', hget', hsame⟩ :=
    hkept hstate (.forgetFingerprint alice (.entry newer) true) trivial
  exact ⟨c, entry, hget, hstate, hpinned, hmem, hentry, hactive, c', hget',
    hsame.trans hactive⟩

end Reconnection

end Registry

end Parley
